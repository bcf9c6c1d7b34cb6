import StorageTelemetry.Proofs.Exposition.SeriesInstances
import StorageTelemetry.Proofs.Exposition.TextReading
import StorageTelemetry.Proofs.Recording.Agreement

namespace StorageTelemetry

/-!
# Rendering a registry

Writing a family may fail: it must have a name and a series.  In a registry
that is used through its calls alone, families without series are not shown
and the others have names, so that rendering never fails.  The names also fit
into the format, so what is written is read as the series that are shown, and no
two of these share their name and label values.
-/

namespace Registry

/-- All single series that are rendered. -/
def renderedSeries (registry : Registry) : List ExportedSeries :=
  registry.shownFamilies.flatMap ShownFamily.exported

/-- Whether every family could have been registered as it is described. -/
def Valid (registry : Registry) : Prop :=
  ∀ family ∈ registry.families, registrationFault? family.name family.help family.keys = none

/-- What has to be the case for a family to be registered. -/
structure Registrable (name help : String) (keys : List String) : Prop where
  helpful : help ≠ ""
  named : isMetricName name = true
  labelled : ∀ key ∈ keys, isLabelName key = true
  distinct : keys.Nodup
  foreign : name ∉ ownNames

theorem registrable_of_no_fault {name help : String} {keys : List String}
    (valid : registrationFault? name help keys = none) : Registrable name help keys := by
  unfold registrationFault? at valid
  cases unlabelled : keys.find? fun key => !isLabelName key with
  | some key =>
      rw [unlabelled] at valid
      split_ifs at valid
  | none =>
      rw [unlabelled] at valid
      split_ifs at valid with unhelpful unnamed repeated own
      refine ⟨?_, by simpa using unnamed, ?_, by simpa using repeated, by simpa using own⟩
      · simpa using unhelpful
      · simpa using List.find?_eq_none.mp unlabelled

/-! ## Rendering succeeds -/

theorem ShownFamily.render_eq_ok {family : ShownFamily} (filled : family.series ≠ [])
    (named : family.name ≠ "") : family.render = .ok family.text := by
  unfold ShownFamily.render
  rw [if_neg (by simpa using filled), if_neg (by simpa using named)]

/-- Families that can be written are written one after another. -/
theorem ShownFamily.mapM_render {families : List ShownFamily}
    (each : ∀ family ∈ families, family.render = .ok family.text) :
    families.mapM ShownFamily.render = .ok (families.map ShownFamily.text) := by
  induction families with
  | nil => rfl
  | cons family rest ih =>
      rcases List.forall_mem_cons.mp each with ⟨own, others⟩
      rw [List.mapM_cons, own, ih others]
      rfl

theorem mem_shownFamilies {registry : Registry} {family : ShownFamily} :
    family ∈ registry.shownFamilies ↔
      (family ∈ registry.families.map ShownFamily.ofFamily ++ registry.ownFamilies) ∧
        family.series ≠ [] := by
  rw [shownFamilies, List.mem_mergeSort, List.mem_filter]
  simp

/-- The characters of names are none of those that the format is made of. -/
theorem nameChar_plain {c : Char} (inside : (isNameStart c || c = ':' || c.isDigit) = true) :
    c ≠ ' ' ∧ c ≠ '\x7b' ∧ c ≠ '\n' ∧ c ≠ '#' ∧ c ≠ '=' := by
  refine ⟨?_, ?_, ?_, ?_, ?_⟩ <;> rintro rfl <;> cases inside

theorem plain_of_isMetricName {name : String} (metric : isMetricName name = true) :
    ∀ c ∈ name.toList, c ≠ ' ' ∧ c ≠ '\x7b' ∧ c ≠ '\n' ∧ c ≠ '#' ∧ c ≠ '=' := by
  intro c member
  apply nameChar_plain
  unfold isMetricName at metric
  cases spelled : name.toList with
  | nil => exact absurd (spelled ▸ member) List.not_mem_nil
  | cons first rest =>
      simp only [spelled, Bool.and_eq_true, List.all_eq_true] at metric
      rw [spelled] at member
      rcases List.mem_cons.mp member with rfl | later
      · rw [metric.1, Bool.true_or]
      · exact metric.2 c later

theorem isMetricName_of_isLabelName {name : String} (label : isLabelName name = true) :
    isMetricName name = true := by
  unfold isLabelName at label
  unfold isMetricName
  cases spelled : name.toList with
  | nil => simp [spelled] at label
  | cons first rest =>
      simp only [spelled, Bool.and_eq_true, List.all_eq_true] at label ⊢
      refine ⟨by rw [label.1, Bool.true_or], fun c later => ?_⟩
      rw [Bool.or_right_comm, label.2 c later, Bool.true_or]

theorem nameFits_of_isMetricName {name : String} (metric : isMetricName name = true) :
    Exposition.NameFits name := by
  refine ⟨?_, fun c member => ?_⟩
  · rintro rfl
    cases metric
  · have plain := plain_of_isMetricName metric c member
    exact ⟨plain.1, plain.2.1, plain.2.2.1, plain.2.2.2.1⟩

theorem keyFits_of_isLabelName {key : String} (label : isLabelName key = true) :
    Exposition.KeyFits key := by
  intro c member
  have plain := plain_of_isMetricName (isMetricName_of_isLabelName label) c member
  exact ⟨plain.2.2.2.2, plain.2.2.1⟩

theorem Valid.fits_ofFamily {registry : Registry} (valid : registry.Valid) {family : Family}
    (listed : family ∈ registry.families) :
    Exposition.FamilyFits (ShownFamily.ofFamily family) := by
  have registrable := registrable_of_no_fault (valid family listed)
  have typed : '\n' ∉ "gauge".toList := by decide
  refine ⟨nameFits_of_isMetricName registrable.named, typed, ?_⟩
  intro series member label among
  rcases List.mem_map.mp (List.mem_mergeSort.mp member) with ⟨held, -, rfl⟩
  have paired := List.mem_mergeSort.mp among
  exact keyFits_of_isLabelName (registrable.labelled _ (List.of_mem_zip paired).1)

theorem fits_ofKinds {name help type : String} {figures : List (EntityKind × Double)}
    (named : isMetricName name = true) (typed : '\n' ∉ type.toList) :
    Exposition.FamilyFits (ShownFamily.ofKinds name help type figures) := by
  refine ⟨nameFits_of_isMetricName named, typed, ?_⟩
  intro series member label among
  rcases List.mem_map.mp (List.mem_mergeSort.mp member) with ⟨⟨kind, value⟩, -, rfl⟩
  have kind_key : isLabelName "kind" = true := by decide
  rw [List.mem_singleton.mp among]
  exact keyFits_of_isLabelName kind_key

theorem fits_ownFamilies (registry : Registry) :
    ∀ family ∈ registry.ownFamilies, Exposition.FamilyFits family := by
  have up_name : isMetricName "powerflex_up" = true := by decide
  have gauge : '\n' ∉ "gauge".toList := by decide
  simp only [ownFamilies, List.forall_mem_cons]
  refine ⟨⟨nameFits_of_isMetricName up_name, gauge, ?_⟩,
    fits_ofKinds (by decide) (by decide), fits_ofKinds (by decide) (by decide),
    fits_ofKinds (by decide) (by decide), List.forall_mem_nil _⟩
  simp

theorem Valid.fits {registry : Registry} (valid : registry.Valid) :
    ∀ family ∈ registry.shownFamilies, Exposition.FamilyFits family := by
  intro family shown
  rcases List.mem_append.mp (mem_shownFamilies.mp shown).1 with entity | own
  · rcases List.mem_map.mp entity with ⟨family, listed, rfl⟩
    exact valid.fits_ofFamily listed
  · exact registry.fits_ownFamilies family own

/-- Rendering succeeds, and the text shows the rendered series. -/
theorem Valid.exists_text {registry : Registry} (valid : registry.Valid) :
    ∃ text, registry.render = .ok text ∧
      Exposition.read? text = some registry.renderedSeries := by
  have each : ∀ family ∈ registry.shownFamilies, family.render = .ok family.text := by
    intro family shown
    exact ShownFamily.render_eq_ok (mem_shownFamilies.mp shown).2
      (valid.fits family shown).named.nonempty
  refine ⟨_, ?_, Exposition.read?_join valid.fits⟩
  rw [render, ShownFamily.mapM_render each]
  rfl

/-! ## Rendered series -/

/-- A series of a family as it is rendered. -/
def rendered (family : Family) (series : Series) : ExportedSeries :=
  ⟨family.name, family.help, "gauge", sortLabels (family.keys.zip series.values), series.value⟩

theorem perm_exported_ofFamily (family : Family) :
    (ShownFamily.ofFamily family).exported.Perm (family.series.map (rendered family)) := by
  have sorted := List.mergeSort_perm
    (family.series.map fun series => (sortLabels (family.keys.zip series.values), series.value))
    fun a b => !decide (b.1.map (·.2) < a.1.map (·.2))
  refine (sorted.map _).trans (List.Perm.of_eq ?_)
  rw [List.map_map]
  rfl

/-- The rendered series are those of the families and the exporter's own. -/
theorem renderedSeries_perm (registry : Registry) :
    registry.renderedSeries.Perm
      (registry.families.flatMap (fun family => family.series.map (rendered family)) ++
        registry.ownFamilies.flatMap ShownFamily.exported) := by
  have unsorted := List.mergeSort_perm ((registry.families.map ShownFamily.ofFamily ++
    registry.ownFamilies).filter fun family => !family.series.isEmpty)
      fun a b => !decide (b.name < a.name)
  refine (unsorted.flatMap_right _).trans ?_
  rw [ShownFamily.exported_nonempty, List.flatMap_append, List.flatMap_map]
  exact (List.Perm.flatMap_left _ fun family _ => perm_exported_ofFamily family).append_right _

/-- Series of one family are told apart by their label values. -/
theorem Apart.eq_of_labelValues {registry : Registry} (apart : registry.Apart)
    (valid : registry.Valid) {family : Family} (listed : family ∈ registry.families) {first second : Series}
    (held : first ∈ family.series) (held' : second ∈ family.series)
    (same : (rendered family first).labels.map Prod.snd =
      (rendered family second).labels.map Prod.snd) :
    first = second := by
  have keys := (registrable_of_no_fault (valid family listed)).distinct
  have values : first.values = second.values :=
    eq_of_sortLabels keys (apart.arity family listed first held)
      (apart.arity family listed second held') same
  exact List.inj_on_of_nodup_map (apart.distinct family listed) held held' values

/-- No two rendered series share their name and label values, if none of the exporter's
own do. -/
theorem Apart.nodup_renderedSeries {registry : Registry} (apart : registry.Apart)
    (valid : registry.Valid)
    (own : ((registry.ownFamilies.flatMap ShownFamily.exported).map
      fun series => (series.name, series.labels.map Prod.snd)).Nodup) :
    (registry.renderedSeries.map fun series =>
      (series.name, series.labels.map Prod.snd)).Nodup := by
  refine ((registry.renderedSeries_perm.map _).nodup_iff).mpr ?_
  rw [List.map_append, List.map_flatMap]
  refine List.nodup_append.mpr ⟨List.nodup_flatMap.mpr ⟨fun family listed => ?_, ?_⟩, own, ?_⟩
  · rw [List.map_map]
    refine List.Nodup.map_on (fun first held second held' same => ?_)
      (apart.distinct family listed).of_map
    exact apart.eq_of_labelValues valid listed held held' (congrArg Prod.snd same)
  · refine (List.pairwise_map.mp apart.names).imp fun {first second} different => ?_
    intro key inFirst inSecond
    obtain ⟨_, member, rfl⟩ := List.mem_map.mp inFirst
    obtain ⟨_, _, rfl⟩ := List.mem_map.mp member
    obtain ⟨_, member', same⟩ := List.mem_map.mp inSecond
    obtain ⟨_, _, rfl⟩ := List.mem_map.mp member'
    exact different (congrArg Prod.fst same).symm
  · intro key inFamilies other isOwn same
    obtain ⟨family, listed, keyed⟩ := List.mem_flatMap.mp inFamilies
    obtain ⟨_, held, rfl⟩ := List.mem_map.mp keyed
    obtain ⟨_, _, rfl⟩ := List.mem_map.mp held
    obtain ⟨_, exported, rfl⟩ := List.mem_map.mp isOwn
    obtain ⟨shown, among, exported⟩ := List.mem_flatMap.mp exported
    obtain ⟨_, _, rfl⟩ := List.mem_map.mp exported
    refine (registrable_of_no_fault (valid family listed)).foreign ?_
    have named : shown.name ∈ registry.ownFamilies.map (·.name) := List.mem_map_of_mem among
    have names : family.name = shown.name := congrArg Prod.fst same
    exact names ▸ named

end Registry
end StorageTelemetry
