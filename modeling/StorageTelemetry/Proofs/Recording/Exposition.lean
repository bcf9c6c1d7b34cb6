import Mathlib.Data.List.Dedup
import Mathlib.Data.List.Perm.Basic
import StorageTelemetry.Exposition.Text
import StorageTelemetry.Proofs.Recording.RegistryView
import StorageTelemetry.Proofs.Recording.Runs

namespace StorageTelemetry

/-!
# What is exported after a run of recordings

The rendered text is made from the shown families.  The families of entities
among them, taken apart into single series, are compared here with what the
latest observations call for.  Both are written as the same function of
samples, that is of targets with values, so that the comparison is one of
samples: there the registry and the observations are known to agree.
-/

/-- A single series as it is rendered, with the description of its family. -/
structure ExportedSeries where
  name : String
  help : String
  type : String
  labels : List (String × String)
  value : Double
deriving DecidableEq

/-- The single series of a shown family. -/
def ShownFamily.exported (family : ShownFamily) : List ExportedSeries :=
  family.series.map fun (labels, value) => ⟨family.name, family.help, family.type, labels, value⟩

/-- The series that a registry shows beside the exporter's own figures. -/
def Registry.entitySeries (registry : Registry) : List ExportedSeries :=
  (registry.shownFamilies.filter fun family => !ownNames.contains family.name).flatMap
    ShownFamily.exported

/-- The series that an observation calls for: one for each series of its kind,
under its labels. -/
def Observation.exported (o : Observation) : List ExportedSeries :=
  (o.kind.series.zip o.values).map fun (spec, value) =>
    ⟨o.kind.seriesName spec, spec.help, "gauge", sortLabels o.labels.pairs, value⟩

/-- The series that the latest observation of every observed entity calls
for. -/
def latestSeries (observations : List Observation) : List ExportedSeries :=
  (observations.map (·.entity)).dedup.flatMap fun entity =>
    ((latest? observations entity).map (·.exported)).getD []

/-! ## Samples -/

/-- What the series names of all kinds stand for. -/
def describe? (name : String) : Option (EntityKind × SeriesSpec) :=
  EntityKind.allSeries.find? fun entry => entry.1.seriesName entry.2 = name

theorem describe?_seriesName {kind : EntityKind} {spec : SeriesSpec}
    (member : spec ∈ kind.series) : describe? (kind.seriesName spec) = some (kind, spec) := by
  have all : ∀ entry ∈ EntityKind.allSeries,
      describe? (entry.1.seriesName entry.2) = some entry := by
    decide
  exact all (kind, spec) (EntityKind.mem_allSeries member)

/-- A sample as it is rendered. -/
def exportedAt? (sample : Target × Double) : Option ExportedSeries :=
  (describe? sample.1.1).map fun (kind, spec) =>
    ⟨sample.1.1, spec.help, "gauge", sortLabels (kind.labelKeys.zip sample.1.2), sample.2⟩

/-- The samples of the latest observation of an entity. -/
def samplesOf (observations : List Observation) (entity : Entity) : List (Target × Double) :=
  ((latest? observations entity).map (·.samples)).getD []

/-- The samples of the latest observation of every observed entity. -/
def latestSamples (observations : List Observation) : List (Target × Double) :=
  (observations.map (·.entity)).dedup.flatMap (samplesOf observations)

/-- The samples that a registry holds. -/
def Registry.samples (registry : Registry) : List (Target × Double) :=
  registry.families.flatMap fun family =>
    family.series.map fun series => ((family.name, series.values), series.value)

theorem Observation.nodup_samples (o : Observation) : o.samples.Nodup := by
  have targets := o.kind.targets_nodup o.labels.values
  rw [← Observation.targets, ← o.samples_targets] at targets
  exact targets.of_map

theorem Observation.exported_eq (o : Observation) :
    o.exported = o.samples.filterMap exportedAt? := by
  have pairs : o.labels.pairs = o.kind.labelKeys.zip o.labels.values := by
    rw [← o.keys_eq, LabelSet.keys, LabelSet.values, List.zip_map', List.map_id'']
    exact fun _ => rfl
  have samples : o.samples = (o.kind.series.zip o.values).map fun (spec, value) =>
      ((o.kind.seriesName spec, o.labels.values), value) := by
    rw [Observation.samples, Observation.targets, EntityKind.targets, EntityKind.seriesNames,
      List.map_map, List.zip_map_left]
    rfl
  rw [samples, List.filterMap_map, Observation.exported, ← List.filterMap_eq_map]
  refine List.filterMap_congr fun entry member => ?_
  have listed := (List.of_mem_zip (a := entry.1) (b := entry.2) member).1
  simp only [Function.comp_apply, exportedAt?, describe?_seriesName listed, Option.map_some, pairs]

/-- What is to be exported is a function of the samples. -/
theorem latestSeries_eq (observations : List Observation) :
    latestSeries observations = (latestSamples observations).filterMap exportedAt? := by
  rw [latestSeries, latestSamples, List.filterMap_flatMap]
  refine List.flatMap_congr fun entity _ => ?_
  unfold samplesOf
  cases latest? observations entity with
  | none => rfl
  | some o => exact o.exported_eq

theorem mem_samplesOf {observations : List Observation} {entity : Entity} {target : Target}
    {value : Double} : (target, value) ∈ samplesOf observations entity ↔
      ∃ o, latest? observations entity = some o ∧ (target, value) ∈ o.samples := by
  unfold samplesOf
  cases latest? observations entity with
  | none => simp
  | some o => simp

theorem mem_latestSamples {observations : List Observation} {target : Target} {value : Double} :
    (target, value) ∈ latestSamples observations ↔
      ∃ entity o, latest? observations entity = some o ∧ (target, value) ∈ o.samples := by
  unfold latestSamples
  simp only [List.mem_flatMap, List.mem_dedup, ← exists_latest?_iff, mem_samplesOf]
  constructor
  · rintro ⟨entity, _, o, found, listed⟩
    exact ⟨entity, o, found, listed⟩
  · rintro ⟨entity, o, found, listed⟩
    exact ⟨entity, ⟨o, found⟩, o, found, listed⟩

/-- No sample is called for twice, since entities do not meet in a series. -/
theorem nodup_latestSamples (observations : List Observation) :
    (latestSamples observations).Nodup := by
  refine List.nodup_flatMap.mpr ⟨fun entity _ => ?_, ?_⟩
  · unfold samplesOf
    cases latest? observations entity with
    | none => exact List.nodup_nil
    | some o => exact o.nodup_samples
  · refine (List.nodup_dedup _).imp fun {first second} different => ?_
    rintro ⟨target, value⟩ inFirst inSecond
    rcases mem_samplesOf.mp inFirst with ⟨o, found, listed⟩
    rcases mem_samplesOf.mp inSecond with ⟨p, found', listed'⟩
    have same := (Observation.eq_of_mem_targets (Observation.mem_targets_of_mem_samples listed)
      (Observation.mem_targets_of_mem_samples listed')).1
    rw [entity_of_latest? found, entity_of_latest? found'] at same
    exact different same

/-! ## Samples of a registry -/

/-- Families without series contribute nothing. -/
theorem ShownFamily.exported_nonempty (families : List ShownFamily) :
    (families.filter fun family => !family.series.isEmpty).flatMap exported =
      families.flatMap exported := by
  induction families with
  | nil => rfl
  | cons family rest ih =>
      by_cases bare : family.series = []
      · have nothing : family.exported = [] := by rw [exported, bare, List.map_nil]
        simpa [bare, nothing] using ih
      · simpa [bare] using ih

namespace Registry

theorem Apart.mem_samples {registry : Registry} (apart : registry.Apart) (target : Target)
    (value : Double) :
    (target, value) ∈ registry.samples ↔ registry.shownAt target = some value := by
  rw [apart.shownAt_iff]
  unfold samples
  simp only [List.mem_flatMap, List.mem_map]
  constructor
  · rintro ⟨family, listed, series, member, same⟩
    cases same
    exact ⟨series, (apart.seriesAt_of_mem listed).symm ▸ member, rfl, rfl⟩
  · rintro ⟨series, member, values, shown⟩
    rcases exists_family_of_mem_seriesAt member with ⟨family, listed, name, member'⟩
    exact ⟨family, listed, series, member', by rw [name, values, shown]⟩

theorem Apart.nodup_samples {registry : Registry} (apart : registry.Apart) :
    registry.samples.Nodup := by
  refine List.nodup_flatMap.mpr ⟨fun family listed => ?_, ?_⟩
  · have values := apart.distinct family listed
    refine List.Nodup.of_map (fun sample => sample.1.2) ?_
    rwa [List.map_map]
  · refine (List.pairwise_map.mp apart.names).imp fun {first second} different => ?_
    intro sample inFirst inSecond
    rcases List.mem_map.mp inFirst with ⟨series, _, same⟩
    rcases List.mem_map.mp inSecond with ⟨series', _, same'⟩
    exact different (congrArg (fun sample => sample.1.1) (same.trans same'.symm))

/-- The series of a family as they are rendered. -/
theorem Sound.exported_family {registry : Registry} (sound : registry.Sound) {family : Family}
    (listed : family ∈ registry.families) :
    (ShownFamily.ofFamily family).exported.Perm
      ((family.series.map fun series =>
        ((family.name, series.values), series.value)).filterMap exportedAt?) := by
  rcases sound.described family listed with ⟨kind, spec, member, name, help, keys⟩
  have sorted := List.mergeSort_perm
    (family.series.map fun series => (sortLabels (family.keys.zip series.values), series.value))
    fun a b => !decide (b.1.map (·.2) < a.1.map (·.2))
  refine (sorted.map _).trans (List.Perm.of_eq ?_)
  rw [List.map_map, List.filterMap_map, ← List.filterMap_eq_map]
  refine List.filterMap_congr fun series _ => ?_
  simp only [Function.comp_apply, ShownFamily.ofFamily, exportedAt?, name,
    describe?_seriesName member, Option.map_some, keys, help]

/-- No family of an entity has the name of one of the exporter's own. -/
theorem Sound.name_not_own {registry : Registry} (sound : registry.Sound) {family : Family}
    (listed : family ∈ registry.families) : family.name ∉ ownNames := by
  rcases sound.described family listed with ⟨kind, spec, member, name, _⟩
  have all : ∀ entry ∈ EntityKind.allSeries, entry.1.seriesName entry.2 ∉ ownNames := by
    decide
  exact name ▸ all (kind, spec) (EntityKind.mem_allSeries member)

/-- What a registry exports beside its own figures is a function of its
samples, up to the order. -/
theorem Sound.entitySeries_perm {registry : Registry} (sound : registry.Sound) :
    registry.entitySeries.Perm (registry.samples.filterMap exportedAt?) := by
  have shown : registry.entitySeries.Perm
      (registry.families.flatMap fun family => (ShownFamily.ofFamily family).exported) := by
    have unsorted := (List.mergeSort_perm ((registry.families.map ShownFamily.ofFamily ++
      registry.ownFamilies).filter fun family => !family.series.isEmpty)
        fun a b => !decide (b.name < a.name)).filter fun family => !ownNames.contains family.name
    refine (unsorted.flatMap_right _).trans (List.Perm.of_eq ?_)
    have own : registry.ownFamilies.filter (fun family => !ownNames.contains family.name) = [] := by
      simp [ownFamilies, ownNames, ShownFamily.ofKinds]
    have others : (registry.families.map ShownFamily.ofFamily).filter
        (fun family => !ownNames.contains family.name) =
          registry.families.map ShownFamily.ofFamily := by
      refine List.filter_eq_self.mpr fun family member => ?_
      rcases List.mem_map.mp member with ⟨family, listed, rfl⟩
      simpa [ShownFamily.ofFamily] using sound.name_not_own listed
    rw [List.filter_filter, List.filter_congr fun _ _ => Bool.and_comm _ _, ← List.filter_filter,
      List.filter_append, own, others, List.append_nil, ShownFamily.exported_nonempty,
      List.flatMap_map]
  refine shown.trans ?_
  rw [samples, List.filterMap_flatMap]
  exact List.Perm.flatMap_left _ fun family listed => sound.exported_family listed

end Registry

/-! ## The exported series are the latest ones -/

/-- An exporter over a registry exports what the latest observations call for. -/
theorem Exporter.Realizes.entitySeries_perm {figures : Registry}
    {exporter : Exporter Registry Handle} {observations : List Observation}
    (realizes : exporter.Realizes (Registry.view figures) observations) :
    exporter.meter.entitySeries.Perm (latestSeries observations) := by
  have sound : exporter.meter.Sound := realizes.sound.1
  rw [latestSeries_eq]
  refine sound.entitySeries_perm.trans (List.Perm.filterMap _ ?_)
  rw [List.perm_ext_iff_of_nodup sound.apart.nodup_samples (nodup_latestSamples observations)]
  rintro ⟨target, value⟩
  rw [sound.apart.mem_samples, mem_latestSamples]
  exact realizes.shown_iff target value

/-- A fresh exporter over an empty registry realizes that nothing was observed. -/
theorem Exporter.Realizes.start_empty :
    (Exporter.start Registry.empty).Realizes (Registry.view Registry.empty) [] := by
  refine Exporter.Realizes.start ⟨Registry.sound_empty, rfl⟩ ?_ (fun _ => rfl)
  rintro handle ⟨series, member, _⟩
  cases member

/-- Whatever is recorded, in whatever order and however often, every call is
answered without a fault, and cache and exposition are afterwards those of the
latest observations: the cache counts every observed identifier once and holds
the latest labels, and the registry exports one series for each observed
entity and each series of its kind, under the latest labels and with the
latest values, and no others. -/
theorem exports_latest_after_calls (calls : List RecordCall) :
    let run := (Exporter.start Registry.empty).callAll calls
    let observations := calls.flatMap (·.observations)
    run.1 = List.replicate calls.length (.ok ()) ∧
      (∀ kind, run.2.cache.count kind = (observedIds observations kind).length) ∧
      (∀ kind id, run.2.cache.labels? kind id =
        (latest? observations (kind, id)).map (·.labels)) ∧
      run.2.meter.entitySeries.Perm (latestSeries observations) := by
  intro run observations
  have ran := Exporter.Realizes.start_empty.callAll_ok
    (Registry.view_lawful Registry.empty) id calls
  rw [List.nil_append] at ran
  exact ⟨ran.1, ran.2.count_eq, ran.2.labels?_eq, ran.2.entitySeries_perm⟩

end StorageTelemetry
