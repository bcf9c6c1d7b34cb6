import StorageTelemetry.Proofs.Recording.Observation

namespace StorageTelemetry

/-!
# Views of a meter

The cache works on any meter.  What it relies on is stated here once: a view
of a meter says which instruments are in use and which value is shown under
each target, and the laws say what creating, setting and retiring do to both.

The laws only speak about what the cache does.  A series is created under a
target that no instrument in use has, and only instruments in use are set or
retired.  From the laws for one instrument follow those for whole lists, and
from these that creating an instrument set either adds all of it or leaves the
view as it was.
-/

/-- A way of looking at a meter.  `Sound` is what holds of the meter as long as
it is used as the laws require, `initial` is what a series shows between its
creation and its first value, and `refuses` tells whether creations may fail. -/
structure MeterView (μ η : Type) where
  Sound : μ → Prop
  Live : μ → η → Prop
  shown : μ → Target → Option Double
  target : η → Target
  initial : Option Double
  refuses : Prop

namespace MeterView

variable {μ η : Type}

/-- A sound meter with the given instruments in use and the given values. -/
structure Looks (view : MeterView μ η) (meter : μ) (live : η → Prop)
    (shown : Target → Option Double) : Prop where
  sound : view.Sound meter
  live_iff : ∀ instrument, view.Live meter instrument ↔ live instrument
  shown_eq : ∀ target, view.shown meter target = shown target

theorem Sound.looks {view : MeterView μ η} {meter : μ} (sound : view.Sound meter) :
    view.Looks meter (view.Live meter) (view.shown meter) :=
  ⟨sound, fun _ => Iff.rfl, fun _ => rfl⟩

/-- The same look described in other words. -/
theorem Looks.congr {view : MeterView μ η} {meter : μ} {live live' : η → Prop}
    {shown shown' : Target → Option Double} (looks : view.Looks meter live shown)
    (lives : ∀ instrument, live instrument ↔ live' instrument)
    (values : ∀ target, shown target = shown' target) : view.Looks meter live' shown' :=
  ⟨looks.sound, fun instrument => (looks.live_iff instrument).trans (lives instrument),
    fun target => (looks.shown_eq target).trans (values target)⟩

/-- How an attempt to create a series under a target may go: an instrument is
added, or nothing that is seen changes. -/
def AddsOne (view : MeterView μ η) (base : μ) (target : Target) : Except Fault η × μ → Prop
  | (.ok instrument, meter) =>
      view.target instrument = target ∧
        view.Looks meter (fun other => view.Live base other ∨ other = instrument)
          (fun place => if place = target then view.initial else view.shown base place)
  | (.error _, meter) => view.refuses ∧ view.Looks meter (view.Live base) (view.shown base)

/-- The same for series under several targets: all are added, or nothing that
is seen changes. -/
def AddsAll (view : MeterView μ η) (base : μ) (targets : List Target) :
    Except Fault (List η) × μ → Prop
  | (.ok instruments, meter) =>
      instruments.map view.target = targets ∧
        view.Looks meter (fun other => view.Live base other ∨ other ∈ instruments)
          (fun place => if place ∈ targets then view.initial else view.shown base place)
  | (.error _, meter) => view.refuses ∧ view.Looks meter (view.Live base) (view.shown base)

/-- What the cache relies on. -/
structure Lawful [Meter μ η] (view : MeterView μ η) : Prop where
  target_injective : ∀ {meter first second}, view.Sound meter → view.Live meter first →
    view.Live meter second → view.target first = view.target second → first = second
  shown_eq_none : ∀ {meter target}, view.Sound meter →
    (∀ instrument, view.Live meter instrument → view.target instrument ≠ target) →
    view.shown meter target = none
  create : ∀ {meter : μ} {kind : EntityKind} {spec : SeriesSpec} {labels : LabelSet},
    view.Sound meter → spec ∈ kind.series → labels.keys = kind.labelKeys →
    (∀ other, view.Live meter other →
      view.target other ≠ (kind.seriesName spec, labels.values)) →
    view.AddsOne meter (kind.seriesName spec, labels.values)
      (Meter.create meter (kind.seriesName spec) spec.help labels)
  set : ∀ {meter : μ} {instrument : η} (value : Double), view.Sound meter →
    view.Live meter instrument →
    view.Looks (Meter.set meter instrument value) (view.Live meter)
      (fun target => if target = view.target instrument then some value
        else view.shown meter target)
  retire : ∀ {meter : μ} {instrument : η}, view.Sound meter → view.Live meter instrument →
    view.Looks (Meter.retire meter instrument)
      (fun other => view.Live meter other ∧ other ≠ instrument)
      (fun target => if target = view.target instrument then none else view.shown meter target)

variable [Meter μ η] {view : MeterView μ η}

/-- Retiring a list takes exactly these instruments out of use and hides
exactly their targets. -/
theorem Lawful.retireAll (lawful : view.Lawful) {instruments : List η} {meter : μ}
    (sound : view.Sound meter) (nodup : instruments.Nodup)
    (live : ∀ instrument ∈ instruments, view.Live meter instrument) :
    view.Looks (retireAll meter instruments)
      (fun other => view.Live meter other ∧ other ∉ instruments)
      (fun target => if target ∈ instruments.map view.target then none
        else view.shown meter target) := by
  induction instruments generalizing meter with
  | nil => exact sound.looks.congr (fun _ => by simp) (fun _ => by simp)
  | cons head rest ih =>
      have first := lawful.retire sound (live head List.mem_cons_self)
      have parts := List.nodup_cons.mp nodup
      have others : ∀ other ∈ rest, view.Live (Meter.retire meter head) other := by
        intro other member
        refine (first.live_iff other).mpr ⟨live other (List.mem_cons_of_mem _ member), ?_⟩
        exact fun same => parts.1 (same ▸ member)
      refine (ih first.sound parts.2 others).congr (fun other => ?_) (fun target => ?_)
      · rw [first.live_iff, List.mem_cons, not_or, and_assoc]
      · rw [first.shown_eq]
        by_cases atHead : target = view.target head
        · simp [atHead]
        · simp [atHead]

/-- Setting values in order shows them under the instruments' targets. -/
theorem Lawful.setAll (lawful : view.Lawful) {instruments : List η} {meter : μ}
    (values : List Double) (sound : view.Sound meter)
    (live : ∀ instrument ∈ instruments, view.Live meter instrument)
    (apart : (instruments.map view.target).Nodup) :
    view.Looks (setAll meter instruments values) (view.Live meter)
      (fun target => (((instruments.map view.target).zip values).lookup target).or
        (view.shown meter target)) := by
  induction instruments generalizing meter values with
  | nil => exact sound.looks
  | cons head rest ih =>
      cases values with
      | nil => exact sound.looks
      | cons value values =>
          have first := lawful.set value sound (live head List.mem_cons_self)
          have parts := List.nodup_cons.mp apart
          have others : ∀ other ∈ rest, view.Live (Meter.set meter head value) other :=
            fun other member =>
              (first.live_iff other).mpr (live other (List.mem_cons_of_mem _ member))
          refine (ih values first.sound others parts.2).congr first.live_iff (fun target => ?_)
          rw [first.shown_eq, List.map_cons, List.zip_cons_cons, List.lookup_cons]
          by_cases atHead : target = view.target head
          · -- The head's target is not set again by the rest.
            have missing :
                ((rest.map view.target).zip values).lookup (view.target head) = none := by
              rw [List.lookup_eq_none_iff]
              rintro ⟨other, value'⟩ member
              exact bne_iff_ne.mpr fun same => parts.1 (same ▸ (List.of_mem_zip member).1)
            subst atHead
            simp [missing]
          · simp [atHead, beq_eq_false_iff_ne.mpr atHead]

/-- Where the series of some specifications are found. -/
def specTargets (kind : EntityKind) (labels : LabelSet) (specs : List SeriesSpec) : List Target :=
  specs.map fun spec => (kind.seriesName spec, labels.values)

/-- Retiring what was made so far leads back to the view before the first
creation. -/
theorem Lawful.discard (lawful : view.Lawful) {base meter : μ} {made : List η}
    (sound : view.Sound base) (apart : (made.map view.target).Nodup)
    (absent : ∀ target ∈ made.map view.target,
      ∀ other, view.Live base other → view.target other ≠ target)
    (draft : view.Looks meter (fun other => view.Live base other ∨ other ∈ made)
      (fun target => if target ∈ made.map view.target then view.initial
        else view.shown base target)) :
    view.Looks (StorageTelemetry.retireAll meter made) (view.Live base) (view.shown base) := by
  have retired := lawful.retireAll draft.sound apart.of_map
    (fun other member => (draft.live_iff other).mpr (Or.inr member))
  refine retired.congr (fun other => ?_) (fun target => ?_)
  · rw [draft.live_iff]
    constructor
    · rintro ⟨old | new, unmade⟩
      · exact old
      · exact absurd new unmade
    · intro old
      refine ⟨Or.inl old, fun new => ?_⟩
      exact absent _ (List.mem_map_of_mem new) other old rfl
  · by_cases drafted : target ∈ made.map view.target
    · rw [if_pos drafted]
      exact (lawful.shown_eq_none sound (absent target drafted)).symm
    · rw [if_neg drafted, draft.shown_eq, if_neg drafted]

/-- Creating the series of an entity one by one, from a state in which some of
them were made already, either makes all of them or leaves the view as it was
before the first. -/
theorem Lawful.createAll_from (lawful : view.Lawful) {base meter : μ} {kind : EntityKind}
    {labels : LabelSet} {specs : List SeriesSpec} {made : List η} (sound : view.Sound base)
    (keys : labels.keys = kind.labelKeys) (known : ∀ spec ∈ specs, spec ∈ kind.series)
    (apart : (made.map view.target ++ specTargets kind labels specs).Nodup)
    (absent : ∀ target ∈ made.map view.target ++ specTargets kind labels specs,
      ∀ other, view.Live base other → view.target other ≠ target)
    (draft : view.Looks meter (fun other => view.Live base other ∨ other ∈ made)
      (fun target => if target ∈ made.map view.target then view.initial
        else view.shown base target)) :
    view.AddsAll base (made.map view.target ++ specTargets kind labels specs)
      (createAll kind labels specs made meter) := by
  induction specs generalizing made meter with
  | nil =>
      have nothing : made.map view.target ++ specTargets kind labels [] = made.map view.target :=
        List.append_nil _
      rw [nothing]
      exact ⟨rfl, draft⟩
  | cons spec rest ih =>
      have listed := known spec List.mem_cons_self
      have free : ∀ other, view.Live meter other →
          view.target other ≠ (kind.seriesName spec, labels.values) := by
        intro other live
        rcases (draft.live_iff other).mp live with old | new
        · exact absent _ (List.mem_append_right _ List.mem_cons_self) other old
        · exact (List.nodup_append.mp apart).2.2 _ (List.mem_map_of_mem new) _ List.mem_cons_self
      have created := lawful.create draft.sound listed keys free
      simp only [createAll]
      cases attempt : (Meter.create meter (kind.seriesName spec) spec.help labels :
          Except Fault η × μ) with
      | mk answer next =>
          rw [attempt] at created
          cases answer with
          | ok instrument =>
              obtain ⟨placed, looks⟩ := created
              have extended : made.map view.target ++ specTargets kind labels (spec :: rest) =
                  (made ++ [instrument]).map view.target ++ specTargets kind labels rest := by
                simp [specTargets, placed]
              rw [extended] at apart absent ⊢
              refine ih (fun other member => known other (List.mem_cons_of_mem _ member)) apart
                absent (looks.congr (fun other => ?_) (fun target => ?_))
              · rw [draft.live_iff, List.mem_append, List.mem_singleton, or_assoc]
              · rw [draft.shown_eq]
                by_cases here : target = (kind.seriesName spec, labels.values)
                · simp [here, placed]
                · simp [here, placed]
          | error fault =>
              refine ⟨created.1, ?_⟩
              exact lawful.discard sound (List.nodup_append.mp apart).1
                (fun target member => absent target (List.mem_append_left _ member))
                (Looks.congr created.2 draft.live_iff draft.shown_eq)

/-- Creating all series of an entity under targets that are not in use. -/
theorem Lawful.createAll (lawful : view.Lawful) {meter : μ} {kind : EntityKind}
    {labels : LabelSet} (sound : view.Sound meter) (keys : labels.keys = kind.labelKeys)
    (absent : ∀ target ∈ kind.targets labels.values,
      ∀ other, view.Live meter other → view.target other ≠ target) :
    view.AddsAll meter (kind.targets labels.values)
      (StorageTelemetry.createAll kind labels kind.series [] meter) := by
  have targets : kind.targets labels.values =
      ([] : List η).map view.target ++ specTargets kind labels kind.series := by
    simp [EntityKind.targets, EntityKind.seriesNames, specTargets]
  have distinct := kind.targets_nodup labels.values
  rw [targets] at distinct absent ⊢
  exact lawful.createAll_from sound keys (fun _ member => member) distinct absent
    (sound.looks.congr (fun _ => by simp) (fun _ => by simp))

end MeterView

/-- An instrument set is made of the instruments for all series of the kind. -/
theorem InstrumentSet.create_eq {μ η : Type} [Meter μ η] (kind : EntityKind) (labels : LabelSet)
    (meter : μ) :
    (InstrumentSet.create kind labels meter : Except Fault (InstrumentSet η) × μ) =
      ((createAll kind labels kind.series [] meter).1.map (InstrumentSet.mk labels),
        (createAll kind labels kind.series [] meter).2) := by
  unfold InstrumentSet.create
  split <;> rename_i created <;> rw [created] <;> rfl

end StorageTelemetry
