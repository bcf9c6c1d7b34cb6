import StorageTelemetry.Collection.Collect

namespace StorageTelemetry

/-!
# Laws of routines

Routines compose as one expects: how calls are bracketed into steps makes no
difference to what is asked, reported and answered, or to when.  Which requests
a routine may make, and that it does not end before it begins, can be read off
its steps, whatever the gateway answers.
-/

namespace Routine

variable {α β γ : Type}

theorem bind_of_done {routine : Routine α} {now : Instant} {value : α}
    (ended : (routine now).outcome = .done value) (next : α → Routine β) :
    (routine >>= next) now =
      { next value (routine now).finish with
        calls := (routine now).calls ++ (next value (routine now).finish).calls
        log := (routine now).log ++ (next value (routine now).finish).log } := by
  simp only [Bind.bind, andThen, ended]

theorem bind_of_failed {routine : Routine α} {now : Instant} {fault : Fault}
    (ended : (routine now).outcome = .failed fault) (next : α → Routine β) :
    (routine >>= next) now =
      ⟨.failed fault, (routine now).finish, (routine now).calls, (routine now).log⟩ := by
  simp only [Bind.bind, andThen, ended]

theorem bind_of_panicked {routine : Routine α} {now : Instant} {panic : Panic}
    (ended : (routine now).outcome = .panicked panic) (next : α → Routine β) :
    (routine >>= next) now =
      ⟨.panicked panic, (routine now).finish, (routine now).calls, (routine now).log⟩ := by
  simp only [Bind.bind, andThen, ended]

/-- A report takes no time and asks for nothing. -/
theorem bind_report (entry : LogEntry) (next : Unit → Routine β) (now : Instant) :
    (report entry >>= next) now =
      { next () now with log := entry :: (next () now).log } := rfl

/-- A routine in steps ends well if each step does. -/
theorem outcome_bind_eq_done_iff {routine : Routine α} {next : α → Routine β} {now : Instant}
    {value : β} :
    ((routine >>= next) now).outcome = .done value ↔
      ∃ first, (routine now).outcome = .done first ∧
        (next first (routine now).finish).outcome = .done value := by
  cases ended : (routine now).outcome with
  | done first => simp [bind_of_done ended]
  | failed fault => simp [bind_of_failed ended]
  | panicked panic => simp [bind_of_panicked ended]

theorem done_bind (value : α) (next : α → Routine β) : done value >>= next = next value := rfl

theorem bind_done (routine : Routine α) : routine >>= done = routine := by
  funext now
  cases ended : (routine now).outcome with
  | done value => simp [bind_of_done ended, done, ← ended]
  | failed fault => simp [bind_of_failed ended, ← ended]
  | panicked panic => simp [bind_of_panicked ended, ← ended]

theorem assoc (routine : Routine α) (second : α → Routine β) (third : β → Routine γ) :
    routine >>= second >>= third = routine >>= fun value => second value >>= third := by
  funext now
  cases ended : (routine now).outcome with
  | done value =>
      have first := bind_of_done ended second
      rw [bind_of_done ended]
      cases ended' : (second value (routine now).finish).outcome with
      | done value' =>
          rw [bind_of_done (by rw [first]; exact ended'), bind_of_done ended']
          simp only [first, List.append_assoc]
      | failed fault =>
          rw [bind_of_failed (by rw [first]; exact ended'), bind_of_failed ended']
          simp only [first]
      | panicked panic =>
          rw [bind_of_panicked (by rw [first]; exact ended'), bind_of_panicked ended']
          simp only [first]
  | failed fault =>
      rw [bind_of_failed ended, bind_of_failed (by rw [bind_of_failed ended]), bind_of_failed ended]
  | panicked panic =>
      rw [bind_of_panicked ended, bind_of_panicked (by rw [bind_of_panicked ended]),
        bind_of_panicked ended]

/-- Working on the value of a routine makes no calls. -/
theorem calls_bind_pure (routine : Routine α) (f : α → β) (now : Instant) :
    ((routine >>= fun value => pure (f value)) now).calls = (routine now).calls := by
  cases ended : (routine now).outcome with
  | done value => rw [bind_of_done ended]; exact List.append_nil _
  | failed fault => rw [bind_of_failed ended]
  | panicked panic => rw [bind_of_panicked ended]

instance : LawfulMonad Routine :=
  LawfulMonad.mk' Routine bind_done done_bind assoc

/-! ## Requests -/

/-- Whether a routine makes only requests of some sort. -/
def Asks (routine : Routine α) (sort : Request → Prop) : Prop :=
  ∀ now, ∀ call ∈ (routine now).calls, sort call.2

variable {sort : Request → Prop}

theorem asks_done (value : α) : (done value).Asks sort := fun _ _ => nofun

theorem asks_fail (fault : Fault) : (fail fault : Routine α).Asks sort := fun _ _ => nofun

theorem asks_report (entry : LogEntry) : (report entry).Asks sort := fun _ _ => nofun

theorem asks_ofExcept (answer : Except Fault α) : (ofExcept answer).Asks sort := by
  cases answer with
  | ok value => exact asks_done value
  | error fault => exact asks_fail fault

theorem asks_call {request : Request} (allowed : sort request) (ask : Instant → Reply α) :
    (call request ask).Asks sort := by
  intro now made member
  rw [List.mem_singleton.mp member]
  exact allowed

theorem Asks.bind {routine : Routine α} {next : α → Routine β} (asks : routine.Asks sort)
    (onward : ∀ value, (next value).Asks sort) : (routine >>= next).Asks sort := by
  intro now
  cases ended : (routine now).outcome with
  | done value =>
      rw [bind_of_done ended]
      intro call member
      rcases List.mem_append.mp member with first | second
      · exact asks now call first
      · exact onward value _ call second
  | failed fault =>
      rw [bind_of_failed ended]
      exact asks now
  | panicked panic =>
      rw [bind_of_panicked ended]
      exact asks now

theorem Asks.attempt {routine : Routine α} (asks : routine.Asks sort) :
    routine.attempt.Asks sort := asks

theorem asks_reports (entries : List LogEntry) : (entries.forM report).Asks sort := by
  induction entries with
  | nil => exact asks_done ()
  | cons entry rest ih => exact (asks_report entry).bind fun _ => ih

/-! ## Time -/

/-- A routine that does not end before it begins. -/
def Forward (routine : Routine α) : Prop := ∀ now, now ≤ (routine now).finish

theorem forward_done (value : α) : (done value).Forward := Nat.le_refl

theorem forward_fail (fault : Fault) : (fail fault : Routine α).Forward := Nat.le_refl

theorem forward_report (entry : LogEntry) : (report entry).Forward := Nat.le_refl

theorem forward_ofExcept (answer : Except Fault α) : (ofExcept answer).Forward := by
  cases answer with
  | ok value => exact forward_done value
  | error fault => exact forward_fail fault

theorem forward_call (request : Request) (ask : Instant → Reply α) :
    (call request ask).Forward := fun now => Nat.le_add_right now _

theorem Forward.bind {routine : Routine α} {next : α → Routine β} (forward : routine.Forward)
    (onward : ∀ value, (next value).Forward) : (routine >>= next).Forward := by
  intro now
  have first := forward now
  cases ended : (routine now).outcome with
  | done value =>
      rw [bind_of_done ended]
      exact Nat.le_trans first (onward value _)
  | failed fault =>
      rw [bind_of_failed ended]
      exact first
  | panicked panic =>
      rw [bind_of_panicked ended]
      exact first

theorem Forward.attempt {routine : Routine α} (forward : routine.Forward) :
    routine.attempt.Forward := forward

end Routine

open Routine

theorem SdcRetriever.forward_record (client : Client) (retriever : SdcRetriever) :
    (retriever.record client).Forward := by
  refine Forward.bind ?_ fun _ => forward_done _
  unfold statistics
  cases retriever.generation with
  | legacy => exact (forward_call _ _).bind fun _ => forward_done _
  | bulk => exact (forward_ofExcept _).bind fun _ => forward_done _

theorem VolumeRetriever.forward_record (client : Client) (retriever : VolumeRetriever) :
    (retriever.record client).Forward := by
  refine Forward.bind ?_ fun _ => forward_done _
  unfold statistics
  cases retriever.generation with
  | legacy => exact (forward_call _ _).bind fun _ => forward_done _
  | bulk => exact (forward_ofExcept _).bind fun _ => forward_done _

theorem PoolRetriever.forward_statistics (client : Client) (retriever : PoolRetriever) :
    (retriever.statistics client).Forward := by
  unfold statistics
  cases retriever.generation with
  | legacy => exact (forward_call _ _).bind fun _ => forward_done _
  | bulk => exact (forward_ofExcept _).bind fun _ => forward_done _

theorem StorageClassRetriever.forward_answers (storageClass : StorageClassMeta) (client : Client)
    (pools : List PoolRetriever) : (answers storageClass client pools).Forward := by
  induction pools with
  | nil => exact forward_done _
  | cons pool rest ih =>
      refine (pool.forward_statistics client).attempt.bind fun answer => ?_
      cases answer with
      | ok statistics => exact ih.bind fun _ => forward_done _
      | error fault => exact (forward_report _).bind fun _ => ih.bind fun _ => forward_done _

theorem StorageClassRetriever.forward_record (client : Client)
    (retriever : StorageClassRetriever) : (retriever.record client).Forward := by
  refine (forward_answers _ client _).bind fun answers => ?_
  obtain ⟨pools, last⟩ := answers
  cases last with
  | none => exact forward_done _
  | some fault =>
      by_cases silent : pools.isEmpty = true
      · simp only [silent, if_true]
        exact forward_fail fault
      · simp only [silent]
        exact forward_done _

end StorageTelemetry
