import StorageTelemetry.Proofs.Recording.RegistryView

namespace StorageTelemetry

/-!
# Histories of a registry

Anybody who holds a handle may set or retire its series at any time, and some of
the handles are stale.  What is to be seen of a registry is read here off the
calls that were made, without instance numbers: a handle is in force until a
series is retired under its target, and only handles in force set anything.

The registry itself tells instances apart by their numbers.  That this comes to
the same is the invariant of all runs.
-/

/-- A call on a registry.  Handles are numbered in the order in which they were
given out. -/
inductive MeterCall
  | create (name help : String) (labels : LabelSet)
  | set (number : Nat) (value : Double)
  | retire (number : Nat)
deriving DecidableEq

/-- How a creation is answered, by what is known of its family: the keys must be
those of a known family in the same order, and the description of a new one must
be such that it can be registered. -/
def creationVerdict (known? : Option (String × List String)) (name help : String)
    (labels : LabelSet) : Except Fault Unit :=
  match known? with
  | some (known, keys) =>
      if keys = labels.keys then .ok ()
      else .error (Registry.keysFault ⟨name, known, keys, []⟩ labels.keys)
  | none =>
      match Registry.registrationFault? name help labels.keys with
      | some fault => .error fault
      | none => .ok ()

/-- Calls that were answered well, the newest first. -/
abbrev MeterHistory := List MeterCall

namespace MeterHistory

/-- The targets of the handles, in the order in which they were given out. -/
def targets : MeterHistory → List Target
  | [] => []
  | .create name _ labels :: earlier => targets earlier ++ [(name, labels.values)]
  | .set .. :: earlier => targets earlier
  | .retire _ :: earlier => targets earlier

/-- The help text and the label keys of a family, which are those of the first
creation under its name. -/
def description? : MeterHistory → String → Option (String × List String)
  | [], _ => none
  | .create name help labels :: earlier, other =>
      (description? earlier other).or (if name = other then some (help, labels.keys) else none)
  | .set .. :: earlier, other => description? earlier other
  | .retire _ :: earlier, other => description? earlier other

/-- Whether a handle was given out and no series retired under its target since. -/
def inForce : MeterHistory → Nat → Bool
  | [], _ => false
  | .create .. :: earlier, number => number == (targets earlier).length || inForce earlier number
  | .set .. :: earlier, number => inForce earlier number
  | .retire other :: earlier, number =>
      inForce earlier number && (targets earlier)[other]? != (targets earlier)[number]?

/-- The value that is shown under a target, if there is a series: zero from the
creation on, then what handles in force have set. -/
def shown? : MeterHistory → Target → Option Double
  | [], _ => none
  | .create name _ labels :: earlier, target =>
      if target = (name, labels.values) then some ((shown? earlier target).getD .zero)
      else shown? earlier target
  | .set number value :: earlier, target =>
      if inForce earlier number ∧ (targets earlier)[number]? = some target then some value
      else shown? earlier target
  | .retire number :: earlier, target =>
      if (targets earlier)[number]? = some target then none else shown? earlier target

/-- A description is for ever. -/
theorem description?_append {earlier : MeterHistory} {name : String}
    {description : String × List String} (known : earlier.description? name = some description)
    (later : MeterHistory) : description? (later ++ earlier) name = some description := by
  induction later with
  | nil => exact known
  | cons call rest ih =>
      cases call with
      | create other help labels => exact congrArg (Option.or · _) ih
      | set number value => exact ih
      | retire number => exact ih

theorem targets_grow (later earlier : MeterHistory) :
    earlier.targets <+: targets (later ++ earlier) := by
  induction later with
  | nil => exact List.prefix_rfl
  | cons call rest ih =>
      cases call with
      | create name help labels => exact ih.trans (List.prefix_append ..)
      | set number value => exact ih
      | retire number => exact ih

/-- A stale handle is stale for ever. -/
theorem stale_append {earlier : MeterHistory} {number : Nat}
    (given : number < earlier.targets.length) (stale : earlier.inForce number = false)
    (later : MeterHistory) : inForce (later ++ earlier) number = false := by
  induction later with
  | nil => exact stale
  | cons call rest ih =>
      cases call with
      | create name help labels =>
          have older : number ≠ (targets (rest ++ earlier)).length :=
            Nat.ne_of_lt (Nat.lt_of_lt_of_le given (targets_grow rest earlier).length_le)
          simp only [List.cons_append, inForce, ih, Bool.or_false]
          exact beq_eq_false_iff_ne.mpr older
      | set other value => exact ih
      | retire other =>
          simp only [List.cons_append, inForce, ih, Bool.false_and]

end MeterHistory

/-! ## Runs of calls -/

/-- A registry with the handles that were given out for it, and what was done
with them. -/
structure MeterSession where
  registry : Registry
  handles : List Handle
  history : MeterHistory

namespace MeterSession

/-- A registry that nobody has used yet. -/
def start : MeterSession := ⟨.empty, [], []⟩

/-- What becomes of the registry if something is done through a handle. -/
def through (session : MeterSession) (number : Nat) (act : Registry → Handle → Registry) :
    Registry :=
  (session.handles[number]?).elim session.registry (act session.registry)

/-- Makes a call on the registry. -/
def call (session : MeterSession) : MeterCall → Except Fault Unit × MeterSession
  | .create name help labels =>
      match Meter.create session.registry name help labels with
      | (.ok handle, registry) =>
          (.ok (), ⟨registry, session.handles ++ [handle],
            .create name help labels :: session.history⟩)
      | (.error fault, registry) => (.error fault, { session with registry })
  | .set number value =>
      (.ok (), { session with
        registry := session.through number fun registry handle => Meter.set registry handle value
        history := .set number value :: session.history })
  | .retire number =>
      (.ok (), { session with
        registry := session.through number Meter.retire
        history := .retire number :: session.history })

/-- The answers of calls that are made one after another, and what is left. -/
def callAll : MeterSession → List MeterCall → List (Except Fault Unit) × MeterSession
  | session, [] => ([], session)
  | session, call :: rest =>
      let called := session.call call
      let others := callAll called.2 rest
      (called.1 :: others.1, others.2)

theorem call_create {session : MeterSession} {name help : String} {labels : LabelSet}
    {handle : Handle} {after : Registry}
    (created : session.registry.create name help labels = .ok (handle, after)) :
    session.call (.create name help labels) =
      (.ok (), ⟨after, session.handles ++ [handle],
        .create name help labels :: session.history⟩) := by
  simp only [MeterSession.call, Meter.create, created]

theorem exists_handle_of_ok {session : MeterSession} {name help : String} {labels : LabelSet}
    (answered : (session.call (.create name help labels)).1 = .ok ()) :
    ∃ handle after, session.registry.create name help labels = .ok (handle, after) := by
  simp only [MeterSession.call, Meter.create] at answered
  cases created : session.registry.create name help labels with
  | ok given => exact ⟨given.1, given.2, rfl⟩
  | error fault =>
      rw [created] at answered
      cases answered

/-- A call that is refused changes nothing. -/
theorem call_of_error {session : MeterSession} {call : MeterCall} {fault : Fault}
    (refused : (session.call call).1 = .error fault) : (session.call call).2 = session := by
  cases call with
  | create name help labels =>
      simp only [MeterSession.call, Meter.create] at refused ⊢
      cases created : session.registry.create name help labels with
      | ok given =>
          rw [created] at refused
          cases refused
      | error fault => rfl
  | set number value => cases refused
  | retire number => cases refused

theorem history_of_ok {session : MeterSession} {call : MeterCall}
    (answered : (session.call call).1 = .ok ()) :
    (session.call call).2.history = call :: session.history := by
  cases call with
  | create name help labels =>
      obtain ⟨handle, after, created⟩ := exists_handle_of_ok answered
      rw [call_create created]
  | set number value => rfl
  | retire number => rfl

/-- Histories only grow. -/
theorem exists_history_callAll (session : MeterSession) (calls : List MeterCall) :
    ∃ later, (session.callAll calls).2.history = later ++ session.history := by
  induction calls generalizing session with
  | nil => exact ⟨[], rfl⟩
  | cons call rest ih =>
      obtain ⟨later, grown⟩ := ih (session.call call).2
      rcases answered : (session.call call).1 with fault | ⟨⟨⟩⟩
      · exact ⟨later, by rw [callAll, grown, call_of_error answered]⟩
      · exact ⟨later ++ [call], by rw [callAll, grown, history_of_ok answered, List.append_assoc,
          List.singleton_append]⟩

end MeterSession
end StorageTelemetry
