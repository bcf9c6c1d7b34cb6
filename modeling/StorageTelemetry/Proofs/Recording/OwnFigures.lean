import StorageTelemetry.Proofs.Recording.EntityViews

namespace StorageTelemetry

/-!
# The exporter's own figures as they are shown

Beside the series of entities a registry shows four families of its own: one
figure without labels that tells whether the last session was usable, and three
with one figure for each kind.  What is shown under their names is exactly what
the registry keeps, since no family of an entity has one of these names; a
figure that is not kept is not shown at all.
-/

/-- The labels of a figure that is kept by kind. -/
def EntityKind.figureLabels (kind : EntityKind) : List (String × String) := [("kind", kind.label)]

theorem EntityKind.figureLabels_inj {kind other : EntityKind} :
    kind.figureLabels = other.figureLabels ↔ kind = other := by
  cases kind <;> cases other <;> decide

/-- The value of a shown series, if it has these labels. -/
def valueUnder? (labels : List (String × String)) (series : List (String × String) × Double) :
    Option Double :=
  if series.1 = labels then some series.2 else none

/-- The values shown under a name and labels. -/
def Registry.figures (registry : Registry) (name : String) (labels : List (String × String)) :
    List Double :=
  ((registry.shownFamilies.filter (·.name = name)).flatMap (·.series)).filterMap
    (valueUnder? labels)

/-! ## Tables by kind -/

/-- Where keys are distinct, an entry is the only one with its key. -/
theorem filter_of_nodup {α κ : Type} [DecidableEq κ] (key : α → κ) {entries : List α}
    (distinct : (entries.map key).Nodup) {entry : α} (listed : entry ∈ entries) :
    entries.filter (fun other => key other = key entry) = [entry] := by
  induction entries with
  | nil => cases listed
  | cons first rest ih =>
      rw [List.map_cons, List.nodup_cons] at distinct
      obtain ⟨absent, distinct⟩ := distinct
      rcases List.mem_cons.mp listed with rfl | later
      · have none : rest.filter (fun other => key other = key entry) = [] := by
          refine List.filter_eq_nil_iff.mpr fun other member same => absent ?_
          exact of_decide_eq_true same ▸ List.mem_map_of_mem member
        rw [List.filter_cons_of_pos (by simp), none]
      · have different : key first ≠ key entry := fun same =>
          absent (same ▸ List.mem_map_of_mem later)
        rw [List.filter_cons_of_neg (by simpa using different), ih distinct later]

namespace Table

variable {κ ν : Type} [DecidableEq κ]

/-- The values listed under a key. -/
def valuesAt (table : Table κ ν) (key : κ) : List ν :=
  (table.entries.filter fun entry => entry.1 = key).map (·.2)

/-- A put does not change what is listed under another key. -/
theorem valuesAt_put_of_ne (table : Table κ ν) {key other : κ} (value : ν)
    (different : key ≠ other) : (table.put key value).valuesAt other = table.valuesAt other := by
  obtain ⟨entries⟩ := table
  unfold valuesAt put
  induction entries with
  | nil => simp [putEntry, different]
  | cons entry rest ih =>
      by_cases replaced : entry.1 = key
      · have elsewhere : entry.1 ≠ other := fun same => different (replaced.symm.trans same)
        simp [putEntry, replaced, different]
      · by_cases listed : entry.1 = other
        · simpa [putEntry, replaced, listed, Ne.symm different] using ih
        · simpa [putEntry, replaced, listed] using ih

/-- With distinct keys what is listed under a key is its value. -/
theorem Distinct.valuesAt_eq {table : Table κ ν} (distinct : table.Distinct) (key : κ) :
    table.valuesAt key = (table.get? key).toList := by
  cases stored : table.get? key with
  | none =>
      have missing := List.find?_eq_none.mp (Option.map_eq_none_iff.mp stored)
      rw [valuesAt, List.filter_eq_nil_iff.mpr missing]
      rfl
  | some value =>
      have listed := (distinct.get?_eq_some_iff key value).mp stored
      have only := filter_of_nodup Prod.fst distinct listed
      exact congrArg (List.map Prod.snd) only

end Table

/-! ## Shown figures -/

namespace Registry

variable {registry other : Registry}

/-- Under the name of one of the exporter's own families its series are shown,
and no others. -/
theorem Sound.figures_perm (sound : registry.Sound) {family : ShownFamily}
    (own : family ∈ registry.ownFamilies) (labels : List (String × String)) :
    (registry.figures family.name labels).Perm (family.series.filterMap (valueUnder? labels)) := by
  let all := registry.families.map ShownFamily.ofFamily ++ registry.ownFamilies
  have only : all.filter (fun shown => shown.name = family.name) = [family] :=
    filter_of_nodup ShownFamily.name sound.nodup_shownNames (List.mem_append_right _ own)
  have sorted := List.mergeSort_perm (all.filter fun shown => !shown.series.isEmpty)
    fun a b => !decide (b.name < a.name)
  have shown : ((all.filter fun shown => !shown.series.isEmpty).filter
      fun shown => shown.name = family.name).flatMap (·.series) = family.series := by
    rw [List.filter_filter, List.filter_congr fun _ _ => Bool.and_comm _ _, ← List.filter_filter,
      only]
    by_cases bare : family.series = []
    · simp [bare]
    · simp [bare]
  rw [← shown]
  exact ((sorted.filter _).flatMap_right _).filterMap _

/-- Whether the last session was usable is shown as it is kept. -/
theorem Sound.figures_up (sound : registry.Sound) :
    registry.figures "powerflex_up" [] = [registry.up] :=
  List.perm_singleton.mp (sound.figures_perm List.mem_cons_self [])

/-- Of a family by kind the figures of one kind are shown under its labels. -/
theorem Sound.figures_ofKinds (sound : registry.Sound) {name help type : String}
    {table : Table EntityKind Double}
    (own : ShownFamily.ofKinds name help type table.entries ∈ registry.ownFamilies)
    (kind : EntityKind) :
    (registry.figures name kind.figureLabels).Perm (table.valuesAt kind) := by
  have sorted := List.mergeSort_perm
    (table.entries.map fun entry => (entry.1.figureLabels, entry.2))
    fun a b => !decide (b.1.map (·.2) < a.1.map (·.2))
  refine (sound.figures_perm own kind.figureLabels).trans
    ((sorted.filterMap _).trans (List.Perm.of_eq ?_))
  rw [Table.valuesAt, List.filterMap_map, ← List.filterMap_eq_map, List.filterMap_filter]
  refine List.filterMap_congr fun entry _ => ?_
  simp only [Function.comp_apply, valueUnder?, EntityKind.figureLabels_inj]
  by_cases own : entry.1 = kind <;> simp [own]

theorem Sound.figures_durations (sound : registry.Sound) (kind : EntityKind) :
    (registry.figures "powerflex_collection_duration_seconds" kind.figureLabels).Perm
      (registry.durations.valuesAt kind) :=
  sound.figures_ofKinds (.tail _ (.head _)) kind

theorem Sound.figures_collected (sound : registry.Sound) (kind : EntityKind) :
    (registry.figures "powerflex_collection_entities" kind.figureLabels).Perm
      (registry.collected.valuesAt kind) :=
  sound.figures_ofKinds (.tail _ (.tail _ (.head _))) kind

theorem Sound.figures_failures (sound : registry.Sound) (kind : EntityKind) :
    (registry.figures "powerflex_collection_failures_total" kind.figureLabels).Perm
      ((registry.failures.valuesAt kind).map Double.ofNat) := by
  let table : Table EntityKind Double :=
    ⟨registry.failures.entries.map fun entry => (entry.1, .ofNat entry.2)⟩
  have counts : table.valuesAt kind = (registry.failures.valuesAt kind).map Double.ofNat := by
    rw [Table.valuesAt, List.filter_map, List.map_map, Table.valuesAt, List.map_map]
    rfl
  rw [← counts]
  exact sound.figures_ofKinds (.tail _ (.tail _ (.tail _ (.head _)))) kind

/-- What is shown of the figures of one kind depends on these figures only. -/
theorem Sound.figures_perm_of_valuesAt (sound : registry.Sound) (sound' : other.Sound)
    {kind : EntityKind}
    (durations : registry.durations.valuesAt kind = other.durations.valuesAt kind)
    (collected : registry.collected.valuesAt kind = other.collected.valuesAt kind)
    (failures : registry.failures.valuesAt kind = other.failures.valuesAt kind) {name : String}
    (own : name ∈ ownNames) :
    (registry.figures name kind.figureLabels).Perm (other.figures name kind.figureLabels) := by
  simp only [ownNames, List.mem_cons, List.not_mem_nil, or_false] at own
  rcases own with rfl | rfl | rfl | rfl
  · -- The figure without labels is not one of a kind.
    have none : ∀ {registry : Registry}, registry.Sound →
        (registry.figures "powerflex_up" kind.figureLabels).Perm [] := by
      intro registry sound
      exact sound.figures_perm List.mem_cons_self kind.figureLabels
    exact (none sound).trans (none sound').symm
  · refine (sound.figures_durations kind).trans ?_
    rw [durations]
    exact (sound'.figures_durations kind).symm
  · refine (sound.figures_collected kind).trans ?_
    rw [collected]
    exact (sound'.figures_collected kind).symm
  · refine (sound.figures_failures kind).trans ?_
    rw [failures]
    exact (sound'.figures_failures kind).symm

end Registry
end StorageTelemetry
