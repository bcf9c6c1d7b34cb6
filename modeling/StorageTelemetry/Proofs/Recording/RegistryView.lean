import StorageTelemetry.Proofs.Recording.RegistrySeries

namespace StorageTelemetry

/-!
# The view of a registry

What is seen of a registry that only the cache creates series in follows the
laws of a view: a handle is in use as long as its instance is the live one
under its values.
-/

/-- What a handle is for: the name and the label values of its series. -/
def Handle.target (handle : Handle) : Target := (handle.family, handle.values)

namespace Registry

/-- The value that is shown under a target. -/
def shownAt (registry : Registry) (target : Target) : Option Double :=
  ((registry.seriesAt target.1).find? (·.values = target.2)).map (·.value)

/-- Whether a handle reaches a live series. -/
def Reaches (registry : Registry) (handle : Handle) : Prop :=
  ∃ series ∈ registry.seriesAt handle.family,
    series.values = handle.values ∧ series.id = handle.id

/-- A registry as the cache sees it, beside given figures of the exporter's
own. -/
def view (figures : Registry) : MeterView Registry Handle where
  Sound registry := registry.Sound ∧ registry.bare = figures
  Live := Reaches
  shown := shownAt
  target handle := (handle.family, handle.values)
  initial := some .zero
  refuses := False

/-- What is shown under a target is the value of the series there. -/
theorem Apart.shownAt_iff {registry : Registry} (apart : registry.Apart) (target : Target)
    (value : Double) :
    registry.shownAt target = some value ↔
      ∃ series ∈ registry.seriesAt target.1, series.values = target.2 ∧ series.value = value := by
  unfold shownAt
  rw [Option.map_eq_some_iff]
  constructor
  · rintro ⟨series, found, shown⟩
    exact ⟨series, List.mem_of_find?_eq_some found, by simpa using List.find?_some found, shown⟩
  · rintro ⟨series, member, values, shown⟩
    have found := find?_of_nodup Series.values (apart.seriesAt_distinct target.1) member
    rw [values] at found
    exact ⟨series, found, shown⟩

/-- A live handle is the only one with its family and values. -/
theorem Apart.eq_of_reaches {registry : Registry} (apart : registry.Apart)
    {first second : Handle} (reaches : registry.Reaches first) (reaches' : registry.Reaches second)
    (same : first.target = second.target) : first = second := by
  have family : first.family = second.family := congrArg Prod.fst same
  have values : first.values = second.values := congrArg Prod.snd same
  rcases reaches with ⟨series, member, values₁, id₁⟩
  rcases reaches' with ⟨series', member', values₂, id₂⟩
  rw [← family] at member'
  have same : series = series' := List.inj_on_of_nodup_map
    (apart.seriesAt_distinct first.family) member member'
    (values₁.trans (values.trans values₂.symm))
  subst same
  cases first
  cases second
  exact Handle.mk.injEq .. ▸ ⟨family, values, id₁.symm.trans id₂⟩

section

variable {registry after : Registry} {name : String} {values : List String}
  (added : ∀ other, after.seriesAt other =
    if other = name then registry.seriesAt name ++ [⟨registry.nextId, values, .zero⟩]
    else registry.seriesAt other)
include added

/-- An added series is reached by a handle with its number. -/
theorem reaches_of_added (handle : Handle) :
    after.Reaches handle ↔
      registry.Reaches handle ∨ handle = ⟨name, values, registry.nextId⟩ := by
  unfold Reaches
  rw [added]
  by_cases here : handle.family = name
  · rw [if_pos here, here]
    simp only [List.mem_append, List.mem_singleton, or_and_right, exists_or]
    refine or_congr_right ⟨?_, ?_⟩
    · rintro ⟨_, rfl, values', id⟩
      cases handle
      exact Handle.mk.injEq .. ▸ ⟨here, values'.symm, id.symm⟩
    · rintro rfl
      exact ⟨_, rfl, rfl, rfl⟩
  · rw [if_neg here]
    constructor
    · exact Or.inl
    · rintro (old | new)
      · exact old
      · exact absurd (congrArg Handle.family new) here

/-- An added series is shown at zero. -/
theorem shownAt_of_added
    (fresh : ∀ series ∈ registry.seriesAt name, series.values ≠ values) (target : Target) :
    after.shownAt target =
      if target = (name, values) then some .zero else registry.shownAt target := by
  unfold shownAt
  rw [added]
  by_cases here : target.1 = name
  · by_cases there : target.2 = values
    · have missing : (registry.seriesAt name).find? (·.values = values) = none :=
        List.find?_eq_none.mpr fun series member => by simpa using fresh series member
      rw [if_pos here, if_pos (Prod.ext here there), List.find?_append, there, missing]
      simp
    · have elsewhere : target ≠ (name, values) := fun same => there (congrArg Prod.snd same)
      rw [if_pos here, if_neg elsewhere, List.find?_append, here]
      simp [Ne.symm there]
  · have elsewhere : target ≠ (name, values) := fun same => here (congrArg Prod.fst same)
    rw [if_neg here, if_neg elsewhere]

end

theorem reaches_set (registry : Registry) (handle : Handle) (value : Double) (other : Handle) :
    (registry.set handle value).Reaches other ↔ registry.Reaches other := by
  unfold Reaches
  rw [seriesAt_set]
  by_cases here : other.family = handle.family
  · rw [if_pos here, here]
    exact exists_mem_setSeries handle value _ other.values other.id
  · rw [if_neg here]

theorem Apart.shownAt_set {registry : Registry} (apart : registry.Apart) {handle : Handle}
    (reaches : registry.Reaches handle) (value : Double) (target : Target) :
    (registry.set handle value).shownAt target =
      if target = (handle.family, handle.values) then some value
      else registry.shownAt target := by
  rcases reaches with ⟨series, member, values, id⟩
  have after := apart.set handle value
  by_cases here : target = (handle.family, handle.values)
  · rw [if_pos here, after.shownAt_iff, seriesAt_set, here, if_pos rfl]
    refine ⟨{ series with value }, List.mem_map.mpr ⟨series, member, ?_⟩, values, rfl⟩
    rw [if_pos (by simp [values, id])]
  · unfold shownAt
    rw [if_neg here, seriesAt_set]
    by_cases family : target.1 = handle.family
    · have foreign : target.2 ≠ handle.values := fun same => here (Prod.ext family same)
      rw [if_pos family, find?_setSeries_of_ne foreign, family]
    · rw [if_neg family]

/-- Retiring a series makes the handles with its target stale. -/
theorem reaches_retire (registry : Registry) (handle other : Handle) :
    (registry.retire handle).Reaches other ↔
      registry.Reaches other ∧ other.target ≠ handle.target := by
  unfold Reaches Handle.target
  rw [seriesAt_retire]
  by_cases here : other.family = handle.family
  · simp only [if_pos here, dropSeries, List.mem_filter, decide_eq_true_eq]
    constructor
    · rintro ⟨series, ⟨member, kept⟩, values, id⟩
      exact ⟨⟨series, here ▸ member, values, id⟩,
        fun same => kept (values.trans (congrArg Prod.snd same))⟩
    · rintro ⟨⟨series, member, values, id⟩, different⟩
      exact ⟨series, ⟨here ▸ member, fun gone =>
        different (Prod.ext here (values.symm.trans gone))⟩, values, id⟩
  · rw [if_neg here]
    exact ⟨fun found => ⟨found, fun same => here (congrArg Prod.fst same)⟩, And.left⟩

theorem shownAt_retire (registry : Registry) (handle : Handle) (target : Target) :
    (registry.retire handle).shownAt target =
      if target = (handle.family, handle.values) then none else registry.shownAt target := by
  unfold shownAt
  rw [seriesAt_retire]
  by_cases family : target.1 = handle.family
  · by_cases values : target.2 = handle.values
    · rw [if_pos family, if_pos (Prod.ext family values), values, find?_dropSeries_self]
      rfl
    · have elsewhere : target ≠ (handle.family, handle.values) :=
        fun same => values (congrArg Prod.snd same)
      rw [if_pos family, if_neg elsewhere, find?_dropSeries_of_ne values, family]
  · have elsewhere : target ≠ (handle.family, handle.values) :=
      fun same => family (congrArg Prod.fst same)
    rw [if_neg family, if_neg elsewhere]

/-- Registries follow the laws of the cache. -/
theorem view_lawful (figures : Registry) : (view figures).Lawful where
  target_injective := by
    intro registry first second sound reaches reaches' same
    exact sound.1.apart.eq_of_reaches reaches reaches' same
  shown_eq_none := by
    intro registry target _ absent
    have missing : (registry.seriesAt target.1).find? (·.values = target.2) = none := by
      refine List.find?_eq_none.mpr fun series member => ?_
      have elsewhere := absent ⟨target.1, series.values, series.id⟩ ⟨series, member, rfl, rfl⟩
      simpa using fun same : series.values = target.2 => elsewhere (Prod.ext rfl same)
    exact congrArg (Option.map Series.value) missing
  create := by
    intro registry kind spec labels sound member keys absent
    have fresh : ∀ series ∈ registry.seriesAt (kind.seriesName spec),
        series.values ≠ labels.values := by
      intro series found same
      exact absent ⟨kind.seriesName spec, series.values, series.id⟩ ⟨series, found, rfl, rfl⟩
        (Prod.ext rfl same)
    rcases sound.1.create member keys fresh with ⟨after, ran, created⟩
    have answer : Meter.create registry (kind.seriesName spec) spec.help labels =
        (.ok ⟨kind.seriesName spec, labels.values, registry.nextId⟩, after) := by
      simp only [Meter.create, ran]
    rw [answer]
    exact ⟨rfl, ⟨created.sound, created.bare.trans sound.2⟩,
      reaches_of_added created.seriesAt, shownAt_of_added created.seriesAt fresh⟩
  set := by
    intro registry handle value sound reaches
    exact ⟨⟨sound.1.set handle value, sound.2⟩, registry.reaches_set handle value,
      sound.1.apart.shownAt_set reaches value⟩
  retire := by
    intro registry handle sound reaches
    refine ⟨⟨sound.1.retire handle, sound.2⟩, fun other => ?_, registry.shownAt_retire handle⟩
    refine (registry.reaches_retire handle other).trans (and_congr_right fun reaches' => ?_)
    exact not_congr ⟨sound.1.apart.eq_of_reaches reaches' reaches, congrArg Handle.target⟩

end Registry
end StorageTelemetry
