import Mathlib.Data.List.Lex
import Mathlib.Data.String.Basic
import StorageTelemetry.Proofs.Recording.Exposition

namespace StorageTelemetry

/-!
# Exporters that agree

Two exporters that realize the same latest observations cannot be told apart
by what is asked of them: the labels of an entity, the number of entities of a
kind, and the exported text.  The last needs that the text is determined by
the values under the targets, although families and series were created in
another order: families are sorted by their names and series by their label
values, and neither of these occur twice.
-/

/-! ## Sorting by a key -/

section

variable {α κ : Type} [LinearOrder κ]

theorem not_lt_test_iff {first second : κ} [Decidable (second < first)] :
    (!decide (second < first)) = true ↔ first ≤ second := by
  rw [Bool.not_eq_true', decide_eq_false_iff_not, not_lt]

theorem pairwise_sorted (key : α → κ) {le : α → α → Bool}
    (by_key : ∀ first second, le first second = true ↔ key first ≤ key second)
    (entries : List α) : (entries.mergeSort le).Pairwise fun a b => key a ≤ key b := by
  refine List.Pairwise.imp (fun {a b} before => (by_key a b).mp before)
    (List.pairwise_mergeSort (fun a b c before after => ?_) (fun a b => ?_) entries)
  · exact (by_key a c).mpr (((by_key a b).mp before).trans ((by_key b c).mp after))
  · rw [Bool.or_eq_true, by_key, by_key]
    exact le_total (key a) (key b)

/-- Sorting by a key forgets the order, if entries with one key are equal. -/
theorem mergeSort_eq_of_perm (key : α → κ) {le : α → α → Bool} {entries others : List α}
    (by_key : ∀ first second, le first second = true ↔ key first ≤ key second)
    (perm : entries.Perm others)
    (apart : ∀ first ∈ entries, ∀ second ∈ entries, key first = key second → first = second) :
    entries.mergeSort le = others.mergeSort le := by
  refine List.Perm.eq_of_pairwise (fun a b listed listed' before after => ?_)
    (pairwise_sorted key by_key entries) (pairwise_sorted key by_key others)
    ((List.mergeSort_perm entries le).trans (perm.trans (List.mergeSort_perm others le).symm))
  have inFirst := (List.mergeSort_perm entries le).subset listed
  have inSecond := perm.symm.subset ((List.mergeSort_perm others le).subset listed')
  exact apart a inFirst b inSecond (le_antisymm before after)

end

/-! ## Sorted labels -/

/-- Values under the same keys are in the same order if the pairs are. -/
theorem eq_of_zip_perm {keys values others : List String} (nodup : keys.Nodup)
    (fits : values.length = keys.length) (fits' : others.length = keys.length)
    (perm : (keys.zip values).Perm (keys.zip others)) : values = others := by
  induction keys generalizing values others with
  | nil =>
      rw [List.eq_nil_of_length_eq_zero fits, List.eq_nil_of_length_eq_zero fits']
  | cons key rest ih =>
      cases values with
      | nil => cases fits
      | cons value values =>
          cases others with
          | nil => cases fits'
          | cons other others =>
              have parts := List.nodup_cons.mp nodup
              have member : (key, value) ∈ (key, other) :: rest.zip others :=
                perm.subset List.mem_cons_self
              have same : value = other := by
                rcases List.mem_cons.mp member with first | later
                · exact congrArg Prod.snd first
                · exact absurd (List.of_mem_zip later).1 parts.1
              subst same
              rw [ih parts.2 (Nat.succ.inj fits) (Nat.succ.inj fits')
                ((List.perm_cons _).mp perm)]

/-- Sorting pairs by their keys sorts the keys. -/
theorem keys_sortLabels {keys values others : List String}
    (fits : values.length = keys.length) (fits' : others.length = keys.length) :
    (sortLabels (keys.zip values)).map (·.1) = (sortLabels (keys.zip others)).map (·.1) := by
  have sorted : ∀ labels : List (String × String), ((sortLabels labels).map (·.1)).Pairwise
      fun first second => first ≤ second := fun labels =>
    List.pairwise_map.mpr (pairwise_sorted (·.1) (fun _ _ => not_lt_test_iff) labels)
  have listed : ∀ values : List String, values.length = keys.length →
      ((sortLabels (keys.zip values)).map (·.1)).Perm keys := by
    intro values fits
    have unsorted := (List.mergeSort_perm (keys.zip values)
      fun a b => !decide (b.1 < a.1)).map (·.1)
    rwa [List.map_fst_zip (Nat.le_of_eq fits.symm)] at unsorted
  exact List.Perm.eq_of_pairwise (fun a b _ _ before after => le_antisymm before after)
    (sorted _) (sorted _) ((listed values fits).trans (listed others fits').symm)

/-- Sorted by their keys, labels are still told apart by their values. -/
theorem eq_of_sortLabels {keys values others : List String} (nodup : keys.Nodup)
    (fits : values.length = keys.length) (fits' : others.length = keys.length)
    (same : (sortLabels (keys.zip values)).map (·.2) = (sortLabels (keys.zip others)).map (·.2)) :
    values = others := by
  have rebuilt : ∀ labels : List (String × String),
      labels = (labels.map (·.1)).zip (labels.map (·.2)) := by
    intro labels
    rw [List.zip_map', List.map_id'']
    exact fun _ => rfl
  have equal : sortLabels (keys.zip values) = sortLabels (keys.zip others) := by
    rw [rebuilt (sortLabels (keys.zip values)), rebuilt (sortLabels (keys.zip others)), same,
      keys_sortLabels fits fits']
  have unsorted : ∀ labels : List (String × String), (sortLabels labels).Perm labels :=
    fun labels => List.mergeSort_perm labels _
  refine eq_of_zip_perm nodup fits fits' ((unsorted _).symm.trans ?_)
  exact (List.Perm.of_eq equal).trans (unsorted _)

theorem EntityKind.labelKeys_nodup (kind : EntityKind) : kind.labelKeys.Nodup := by
  cases kind <;> decide

/-! ## The shown families -/

namespace Registry

variable {registry other : Registry}

/-- The values of a family with the label values they stand under. -/
def valuesOf (family : Family) : List (List String × Double) :=
  family.series.map fun series => (series.values, series.value)

theorem Sound.mem_valuesOf (sound : registry.Sound) {family : Family}
    (listed : family ∈ registry.families) (values : List String) (value : Double) :
    (values, value) ∈ valuesOf family ↔ registry.shownAt (family.name, values) = some value := by
  rw [sound.apart.shownAt_iff, sound.apart.seriesAt_of_mem listed, valuesOf, List.mem_map]
  refine exists_congr fun series => and_congr_right fun _ => ?_
  rw [Prod.mk.injEq]

/-- Families of one name under which the same values are shown look the same. -/
theorem Sound.ofFamily_eq (sound : registry.Sound) (sound' : other.Sound)
    {family family' : Family} (listed : family ∈ registry.families)
    (listed' : family' ∈ other.families) (names : family'.name = family.name)
    (shown : ∀ target, registry.shownAt target = other.shownAt target) :
    ShownFamily.ofFamily family = ShownFamily.ofFamily family' := by
  rcases sound.described family listed with ⟨kind, spec, member, name, help, keys⟩
  rcases sound'.described family' listed' with ⟨kind', spec', member', name', help', keys'⟩
  obtain ⟨rfl, rfl⟩ :=
    EntityKind.seriesName_injective member' member (name'.symm.trans (names.trans name))
  have values : (valuesOf family).Perm (valuesOf family') := by
    have nodup : ∀ {registry : Registry}, registry.Sound → ∀ family ∈ registry.families,
        (valuesOf family).Nodup := by
      intro registry sound family listed
      refine List.Nodup.of_map Prod.fst ?_
      rw [valuesOf, List.map_map]
      exact sound.distinct family listed
    rw [List.perm_ext_iff_of_nodup (nodup sound family listed) (nodup sound' family' listed')]
    rintro ⟨values, value⟩
    rw [sound.mem_valuesOf listed, sound'.mem_valuesOf listed', names, shown]
  have fits : ∀ entry ∈ valuesOf family, entry.1.length = family.keys.length := by
    intro entry member
    rcases List.mem_map.mp member with ⟨series, inSeries, rfl⟩
    exact sound.arity family listed series inSeries
  have series : ∀ family : Family, (ShownFamily.ofFamily family).series =
      sortSeries ((valuesOf family).map fun entry =>
        (sortLabels (family.keys.zip entry.1), entry.2)) := by
    intro family
    rw [valuesOf, List.map_map]
    rfl
  have sorted : (ShownFamily.ofFamily family).series = (ShownFamily.ofFamily family').series := by
    rw [series, series, keys'.trans keys.symm]
    refine mergeSort_eq_of_perm (fun entry => entry.1.map (·.2)) (fun _ _ => not_lt_test_iff)
      (values.map _) ?_
    · intro first inFirst second inSecond same
      rcases List.mem_map.mp inFirst with ⟨entry, there, rfl⟩
      rcases List.mem_map.mp inSecond with ⟨entry', there', rfl⟩
      have nodup : family.keys.Nodup := keys ▸ EntityKind.labelKeys_nodup _
      have equal := eq_of_sortLabels nodup (fits entry there) (fits entry' there') same
      have distinct : ((valuesOf family).map (·.1)).Nodup := by
        rw [valuesOf, List.map_map]
        exact sound.distinct family listed
      rw [List.inj_on_of_nodup_map distinct there there' equal]
  have shownNames : (ShownFamily.ofFamily family).name = (ShownFamily.ofFamily family').name :=
    names.symm
  have shownHelp : (ShownFamily.ofFamily family).help = (ShownFamily.ofFamily family').help :=
    help.trans help'.symm
  exact ShownFamily.mk.injEq .. ▸ ⟨shownNames, shownHelp, rfl, sorted⟩

/-- The families of entities that have series. -/
def entityFamilies (registry : Registry) : List ShownFamily :=
  (registry.families.map ShownFamily.ofFamily).filter fun family => !family.series.isEmpty

theorem Sound.mem_entityFamilies (sound : registry.Sound) (sound' : other.Sound)
    (shown : ∀ target, registry.shownAt target = other.shownAt target) {family : ShownFamily}
    (member : family ∈ registry.entityFamilies) : family ∈ other.entityFamilies := by
  obtain ⟨among, filled⟩ := List.mem_filter.mp member
  rcases List.mem_map.mp among with ⟨family, listed, rfl⟩
  have some : ∃ series, series ∈ family.series := by
    refine List.exists_mem_of_ne_nil _ fun empty => ?_
    simp [ShownFamily.ofFamily, empty, sortSeries] at filled
  rcases some with ⟨series, inSeries⟩
  have value : registry.shownAt (family.name, series.values) = .some series.value :=
    (sound.mem_valuesOf listed _ _).mp (List.mem_map.mpr ⟨series, inSeries, rfl⟩)
  rw [shown] at value
  rcases (sound'.apart.shownAt_iff _ _).mp value with ⟨series', there, _⟩
  rcases exists_family_of_mem_seriesAt there with ⟨family', listed', names, _⟩
  have same := sound.ofFamily_eq sound' listed listed' names shown
  exact List.mem_filter.mpr ⟨List.mem_map.mpr ⟨family', listed', same.symm⟩, filled⟩

/-- No two shown families have the same name, if no family has that of one of the
exporter's own. -/
theorem Apart.nodup_shownNames (apart : registry.Apart)
    (foreign : ∀ family ∈ registry.families, family.name ∉ ownNames) :
    ((registry.families.map ShownFamily.ofFamily ++ registry.ownFamilies).map (·.name)).Nodup := by
  have own : registry.ownFamilies.map (·.name) = ownNames := rfl
  have others : (registry.families.map ShownFamily.ofFamily).map (·.name) =
      registry.families.map (·.name) := by
    rw [List.map_map]
    rfl
  rw [List.map_append, own, others]
  refine List.nodup_append.mpr ⟨apart.names, by decide, fun name inFamilies other isOwn same => ?_⟩
  rcases List.mem_map.mp inFamilies with ⟨family, listed, rfl⟩
  exact foreign family listed (same ▸ isOwn)

theorem Sound.nodup_shownNames (sound : registry.Sound) :
    ((registry.families.map ShownFamily.ofFamily ++ registry.ownFamilies).map (·.name)).Nodup :=
  sound.apart.nodup_shownNames fun _ listed => sound.name_not_own listed

/-- What is shown of a registry is determined by the values under the targets
and the exporter's own figures. -/
theorem Sound.shownFamilies_eq (sound : registry.Sound) (sound' : other.Sound)
    (bare : registry.bare = other.bare)
    (shown : ∀ target, registry.shownAt target = other.shownAt target) :
    registry.shownFamilies = other.shownFamilies := by
  have own : registry.ownFamilies = other.ownFamilies := by
    have same : registry.bare.ownFamilies = other.bare.ownFamilies := congrArg ownFamilies bare
    exact same
  have perm : registry.entityFamilies.Perm other.entityFamilies := by
    have nodup : ∀ {registry : Registry}, registry.Sound → registry.entityFamilies.Nodup := by
      intro registry sound
      have names := sound.nodup_shownNames
      rw [List.map_append] at names
      exact (List.nodup_append.mp names).1.of_map.filter _
    rw [List.perm_ext_iff_of_nodup (nodup sound) (nodup sound')]
    intro family
    exact ⟨sound.mem_entityFamilies sound' shown,
      sound'.mem_entityFamilies sound fun target => (shown target).symm⟩
  unfold shownFamilies
  simp only [List.filter_append, own]
  refine mergeSort_eq_of_perm (fun family : ShownFamily => family.name)
    (fun _ _ => not_lt_test_iff) (perm.append_right _) ?_
  · intro first inFirst second inSecond same
    have distinct := sound.nodup_shownNames
    rw [own] at distinct
    have among : ∀ family ∈ registry.entityFamilies ++
        other.ownFamilies.filter fun family => !family.series.isEmpty,
        family ∈ registry.families.map ShownFamily.ofFamily ++ other.ownFamilies := by
      intro family member
      rcases List.mem_append.mp member with entity | own
      · exact List.mem_append_left _ (List.mem_filter.mp entity).1
      · exact List.mem_append_right _ (List.mem_filter.mp own).1
    exact List.inj_on_of_nodup_map distinct (among first inFirst) (among second inSecond) same

end Registry

/-! ## Exporters over registries -/

namespace Exporter

/-- Whether two exporters answer and export the same. -/
structure Alike (exporter other : Exporter Registry Handle) : Prop where
  labels : ∀ kind id, exporter.cache.labels? kind id = other.cache.labels? kind id
  counts : ∀ kind, exporter.cache.count kind = other.cache.count kind
  shown : exporter.meter.shownFamilies = other.meter.shownFamilies
  text : exporter.meter.render = other.meter.render

/-- Exporters that realize the same latest observations are alike. -/
theorem Realizes.alike {figures : Registry} {exporter other : Exporter Registry Handle}
    {observations observations' : List Observation}
    (realizes : exporter.Realizes (Registry.view figures) observations)
    (realizes' : other.Realizes (Registry.view figures) observations')
    (latest : ∀ entity, latest? observations entity = latest? observations' entity) :
    exporter.Alike other := by
  have shown : ∀ target, exporter.meter.shownAt target = other.meter.shownAt target := by
    intro target
    refine Option.ext fun value => ?_
    have first := realizes.shown_iff target value
    have second := realizes'.shown_iff target value
    simp only [latest] at first
    exact first.trans second.symm
  have families := realizes.sound.1.shownFamilies_eq realizes'.sound.1
    (realizes.sound.2.trans realizes'.sound.2.symm) shown
  refine ⟨fun kind id => ?_, fun kind => ?_, families, ?_⟩
  · rw [realizes.labels?_eq, realizes'.labels?_eq, latest]
  · rw [realizes.count_eq, realizes'.count_eq]
    refine List.Perm.length_eq ?_
    rw [List.perm_ext_iff_of_nodup (nodup_observedIds _ _) (nodup_observedIds _ _)]
    intro id
    rw [mem_observedIds, mem_observedIds, ← exists_latest?_iff, ← exists_latest?_iff, latest]
  · rw [Registry.render, Registry.render, families]

/-- The exporters that can come about over a registry: recordings are made,
and in between the exporter's own figures change. -/
inductive Reached : Exporter Registry Handle → Prop
  | start : Reached (Exporter.start Registry.empty)
  | call {exporter : Exporter Registry Handle} (call : RecordCall) (before : Reached exporter) :
      Reached (exporter.call call).2
  | figures {exporter : Exporter Registry Handle} (registry : Registry)
      (families : registry.families = exporter.meter.families)
      (nextId : registry.nextId = exporter.meter.nextId) (before : Reached exporter) :
      Reached { exporter with meter := registry }

/-- The view of a registry depends on its families only, but for the figures
beside them. -/
theorem Realizes.of_families {figures registry : Registry} {exporter : Exporter Registry Handle}
    {observations : List Observation}
    (realizes : exporter.Realizes (Registry.view figures) observations)
    (families : registry.families = exporter.meter.families) :
    Realizes (Registry.view registry.bare) { exporter with meter := registry } observations := by
  have found : ∀ name, registry.seriesAt name = exporter.meter.seriesAt name := by
    intro name
    rw [Registry.seriesAt, Registry.family?, families]
    rfl
  refine ⟨⟨⟨?_, ?_, ?_, ?_⟩, rfl⟩, realizes.distinct, realizes.held, fun handle => ?_,
    fun target value => ?_⟩
  · exact families ▸ realizes.sound.1.names
  · exact families ▸ realizes.sound.1.described
  · exact families ▸ realizes.sound.1.distinct
  · exact families ▸ realizes.sound.1.arity
  · refine Iff.trans ?_ (realizes.live_iff handle)
    simp only [Registry.view, Registry.Reaches, found]
  · refine Iff.trans ?_ (realizes.shown_iff target value)
    simp only [Registry.view, Registry.shownAt, found]

/-- Whatever can come about realizes some observations. -/
theorem Reached.realizes {exporter : Exporter Registry Handle} (reached : exporter.Reached) :
    ∃ observations, exporter.Realizes (Registry.view exporter.meter.bare) observations := by
  induction reached with
  | start => exact ⟨[], Realizes.start_empty⟩
  | @call exporter call _ ih =>
      rcases ih with ⟨observations, realizes⟩
      have after := realizes.attemptAll (Registry.view_lawful exporter.meter.bare) call.observations
      have same : (exporter.call call).2 = (exporter.attemptAll call.observations).2 :=
        congrArg Prod.snd (exporter.call_eq call)
      rw [← same] at after
      have figures : (exporter.call call).2.meter.bare = exporter.meter.bare := after.sound.2
      exact ⟨_, figures ▸ after⟩
  | figures registry families _ _ ih =>
      rcases ih with ⟨observations, realizes⟩
      exact ⟨observations, realizes.of_families families⟩

end Exporter
end StorageTelemetry
