import StorageTelemetry.Proofs.Recording.MeterView

namespace StorageTelemetry

/-!
# The view of a ledger

A ledger writes down what was done, so that the use that was made of it can be
read off afterwards.  Its events are in order if every instrument is created
before anything else happens to it, and is set and retired only while it is in
use.  That an instrument is retired at most once, and not set afterwards,
follows.

A series that was created and not yet set may be invisible, as it is in the
ledger's own table, or show some fresh value.  The view leaves this open.
-/

/-- The instrument that an event is about. -/
def LedgerEvent.instrument : LedgerEvent → LedgerInstrument
  | create instrument | set instrument _ | retire instrument => instrument

/-- Where the series of an instrument is found. -/
def LedgerInstrument.target (instrument : LedgerInstrument) : Target :=
  (instrument.name, instrument.values)

namespace Ledger

/-- Whether an instrument was created and not retired, by events listed newest
first. -/
def InUse (history : List LedgerEvent) (instrument : LedgerInstrument) : Prop :=
  .create instrument ∈ history ∧ .retire instrument ∉ history

/-- Whether each event was in order at its time: an instrument is created
before anything else happens to it, and set and retired only while in use. -/
def Orderly : List LedgerEvent → Prop
  | [] => True
  | .create instrument :: earlier =>
      (∀ event ∈ earlier, event.instrument ≠ instrument) ∧ Orderly earlier
  | .set instrument _ :: earlier => InUse earlier instrument ∧ Orderly earlier
  | .retire instrument :: earlier => InUse earlier instrument ∧ Orderly earlier

/-- The value that is seen under a target after some events, if a series shows
`fresh` from its creation on until it is first set. -/
def seen (fresh : Option Double) : List LedgerEvent → Target → Option Double
  | [], _ => none
  | .create instrument :: earlier, target =>
      if target = instrument.target then (seen fresh earlier target).or fresh
      else seen fresh earlier target
  | .set instrument value :: earlier, target =>
      if target = instrument.target then some value else seen fresh earlier target
  | .retire instrument :: earlier, target =>
      if target = instrument.target then none else seen fresh earlier target

/-- Without a fresh value, what is seen is the ledger's own table. -/
theorem visible_get? (ledger : Ledger) (target : Target) :
    ledger.visible.get? target = seen none ledger.history target := by
  unfold visible
  induction ledger.history with
  | nil => rfl
  | cons event earlier ih =>
      cases event with
      | create instrument => simp [applyEvent, seen, ih]
      | set instrument value =>
          simp only [List.foldr_cons, applyEvent, Table.get?_put, seen, ih]
          exact if_congr eq_comm rfl rfl
      | retire instrument =>
          simp only [List.foldr_cons, applyEvent, Table.get?_erase, seen, ih]
          exact if_congr eq_comm rfl rfl

/-! ## Orderly histories -/

theorem Orderly.of_cons {event : LedgerEvent} {earlier : List LedgerEvent}
    (orderly : Orderly (event :: earlier)) : Orderly earlier := by
  cases event <;> exact orderly.2

theorem Orderly.of_append {later earlier : List LedgerEvent}
    (orderly : Orderly (later ++ earlier)) : Orderly earlier := by
  induction later with
  | nil => exact orderly
  | cons event later ih => exact ih orderly.of_cons

/-- After an instrument was retired nothing happens to it. -/
theorem Orderly.unused_after_retire {later earlier : List LedgerEvent}
    {instrument : LedgerInstrument} (orderly : Orderly (later ++ .retire instrument :: earlier)) :
    ∀ event ∈ later, event.instrument ≠ instrument := by
  intro event member same
  rcases List.append_of_mem member with ⟨latest, between, split⟩
  have gone : LedgerEvent.retire instrument ∈ between ++ .retire instrument :: earlier :=
    List.mem_append_right _ List.mem_cons_self
  rw [split, List.append_assoc] at orderly
  have inOrder := orderly.of_append
  cases event with
  | create other => exact inOrder.1 _ gone same.symm
  | set other value =>
      have inUse : InUse _ other := inOrder.1
      exact inUse.2 (same ▸ gone)
  | retire other =>
      have inUse : InUse _ other := inOrder.1
      exact inUse.2 (same ▸ gone)

/-! ## The view -/

/-- What holds of a ledger that the cache writes to. -/
structure Sound (fresh : Option Double) (ledger : Ledger) : Prop where
  orderly : Orderly ledger.history
  numbered : ∀ event ∈ ledger.history, event.instrument.id < ledger.attempts
  apart : ∀ {first second}, InUse ledger.history first → InUse ledger.history second →
    first.target = second.target → first = second
  hidden : ∀ {target}, (∀ instrument, InUse ledger.history instrument →
    instrument.target ≠ target) → seen fresh ledger.history target = none

/-- A ledger as the cache sees it. -/
def view (fresh : Option Double) : MeterView Ledger LedgerInstrument where
  Sound := Sound fresh
  Live ledger := InUse ledger.history
  shown ledger := seen fresh ledger.history
  target := LedgerInstrument.target
  initial := fresh
  refuses := True

theorem inUse_set (history : List LedgerEvent) (instrument other : LedgerInstrument)
    (value : Double) : InUse (.set instrument value :: history) other ↔ InUse history other := by
  simp [InUse]

theorem inUse_retire (history : List LedgerEvent) (instrument other : LedgerInstrument) :
    InUse (.retire instrument :: history) other ↔ InUse history other ∧ other ≠ instrument := by
  simp only [InUse, List.mem_cons, reduceCtorEq, false_or, LedgerEvent.retire.injEq, not_or]
  exact ⟨fun ⟨created, different, unretired⟩ => ⟨⟨created, unretired⟩, different⟩,
    fun ⟨⟨created, unretired⟩, different⟩ => ⟨created, different, unretired⟩⟩

theorem inUse_create {history : List LedgerEvent} {instrument : LedgerInstrument}
    (new : ∀ event ∈ history, event.instrument ≠ instrument) (other : LedgerInstrument) :
    InUse (.create instrument :: history) other ↔ InUse history other ∨ other = instrument := by
  simp only [InUse, List.mem_cons, LedgerEvent.create.injEq, reduceCtorEq, false_or]
  constructor
  · rintro ⟨same | old, unretired⟩
    · exact Or.inr same
    · exact Or.inl ⟨old, unretired⟩
  · rintro (⟨old, unretired⟩ | same)
    · exact ⟨Or.inr old, unretired⟩
    · exact ⟨Or.inl same, fun retired => new _ retired same⟩

/-- A creation that is granted under a free target. -/
theorem Sound.create {fresh : Option Double} {ledger : Ledger} (sound : ledger.Sound fresh)
    {name : String} {values : List String}
    (free : ∀ other, InUse ledger.history other → other.target ≠ (name, values)) :
    (view fresh).Looks
      { ledger with
        attempts := ledger.attempts + 1
        history := .create ⟨ledger.attempts, name, values⟩ :: ledger.history }
      (fun other => InUse ledger.history other ∨ other = ⟨ledger.attempts, name, values⟩)
      (fun place => if place = (name, values) then fresh else seen fresh ledger.history place) := by
  have new : ∀ event ∈ ledger.history,
      event.instrument ≠ (⟨ledger.attempts, name, values⟩ : LedgerInstrument) := by
    intro event member same
    have number := sound.numbered event member
    rw [same] at number
    exact Nat.lt_irrefl _ number
  have lives := inUse_create new
  have shows : ∀ place, seen fresh
      (.create ⟨ledger.attempts, name, values⟩ :: ledger.history) place =
        if place = (name, values) then fresh else seen fresh ledger.history place := by
    intro place
    by_cases here : place = (name, values)
    · subst here
      simp only [seen, LedgerInstrument.target, if_true, sound.hidden free, Option.none_or]
    · exact (if_neg here).trans (if_neg here).symm
  refine ⟨⟨⟨new, sound.orderly⟩, ?_, ?_, ?_⟩, lives, shows⟩
  · intro event member
    rcases List.mem_cons.mp member with newest | old
    · rw [newest]
      exact Nat.lt_succ_self _
    · exact Nat.lt_succ_of_lt (sound.numbered event old)
  · intro first second inUse inUse' same
    rcases (lives first).mp inUse with old | new₁
    · rcases (lives second).mp inUse' with old' | new₂
      · exact sound.apart old old' same
      · exact absurd (same.trans (congrArg LedgerInstrument.target new₂)) (free first old)
    · rcases (lives second).mp inUse' with old' | new₂
      · exact absurd (same.symm.trans (congrArg LedgerInstrument.target new₁)) (free second old')
      · exact new₁.trans new₂.symm
  · intro target unused
    have elsewhere : target ≠ (name, values) :=
      fun same => unused _ ((lives _).mpr (Or.inr rfl)) same.symm
    have before := shows target
    rw [if_neg elsewhere] at before
    exact before.trans (sound.hidden fun other old => unused other ((lives other).mpr (Or.inl old)))

/-- An event about an instrument in use keeps the numbering. -/
theorem Sound.numbered_record {fresh : Option Double} {ledger : Ledger}
    (sound : ledger.Sound fresh) (event : LedgerEvent)
    (inUse : InUse ledger.history event.instrument) :
    ∀ other ∈ (ledger.record event).history,
      other.instrument.id < (ledger.record event).attempts := by
  intro other member
  rcases List.mem_cons.mp member with newest | old
  · rw [newest]
    exact sound.numbered (.create event.instrument) inUse.1
  · exact sound.numbered other old

theorem Sound.set {fresh : Option Double} {ledger : Ledger} (sound : ledger.Sound fresh)
    {instrument : LedgerInstrument} (inUse : InUse ledger.history instrument) (value : Double) :
    (ledger.record (.set instrument value)).Sound fresh := by
  have numbered := sound.numbered_record (.set instrument value) inUse
  refine ⟨⟨inUse, sound.orderly⟩, numbered, ?_, ?_⟩
  · intro first second inUse₁ inUse₂ same
    exact sound.apart ((inUse_set _ _ _ _).mp inUse₁) ((inUse_set _ _ _ _).mp inUse₂) same
  · intro target unused
    have elsewhere : target ≠ instrument.target :=
      fun same => unused instrument ((inUse_set _ _ _ _).mpr inUse) same.symm
    simp only [record, seen, if_neg elsewhere]
    exact sound.hidden fun other old => unused other ((inUse_set _ _ _ _).mpr old)

theorem Sound.retire {fresh : Option Double} {ledger : Ledger} (sound : ledger.Sound fresh)
    {instrument : LedgerInstrument} (inUse : InUse ledger.history instrument) :
    (ledger.record (.retire instrument)).Sound fresh := by
  have numbered := sound.numbered_record (.retire instrument) inUse
  refine ⟨⟨inUse, sound.orderly⟩, numbered, ?_, ?_⟩
  · intro first second inUse₁ inUse₂ same
    exact sound.apart ((inUse_retire _ _ _).mp inUse₁).1 ((inUse_retire _ _ _).mp inUse₂).1 same
  · intro target unused
    by_cases here : target = instrument.target
    · simp only [record, seen, if_pos here]
    · simp only [record, seen, if_neg here]
      refine sound.hidden fun other old same => ?_
      refine unused other ((inUse_retire _ _ _).mpr ⟨old, fun equal => here ?_⟩) same
      exact same.symm.trans (congrArg LedgerInstrument.target equal)

/-- A ledger follows the laws of the cache, whatever it refuses. -/
theorem view_lawful (fresh : Option Double) : (view fresh).Lawful where
  target_injective := fun sound => sound.apart
  shown_eq_none := fun sound => sound.hidden
  create := by
    intro ledger kind spec labels sound _ _ free
    simp only [Meter.create, Ledger.create]
    by_cases refused : ledger.refuses ledger.attempts (kind.seriesName spec) labels = true
    · rw [if_pos refused]
      exact ⟨trivial, ⟨sound.orderly, fun event member =>
        Nat.lt_succ_of_lt (sound.numbered event member), sound.apart, sound.hidden⟩,
        fun _ => Iff.rfl, fun _ => rfl⟩
    · rw [if_neg refused]
      exact ⟨rfl, sound.create free⟩
  set := by
    intro ledger instrument value sound inUse
    exact ⟨sound.set inUse value, fun other => inUse_set _ _ other _, fun _ => rfl⟩
  retire := by
    intro ledger instrument sound inUse
    exact ⟨sound.retire inUse, fun other => inUse_retire _ _ other, fun _ => rfl⟩

end Ledger
end StorageTelemetry
