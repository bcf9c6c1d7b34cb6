import StorageTelemetry.Proofs.Moves
import StorageTelemetry.Proofs.Tickers
import StorageTelemetry.Scheduler.Loop

namespace StorageTelemetry

/-!
# Steps of the collection loop

What each event does to the loop is said once, by `Step`.  Everything else
about the loop is read off its steps, first for one event and then for a run.
-/

namespace CollectionLoop

theorem isWaiting_iff {loop : CollectionLoop} :
    loop.isWaiting = true ↔ loop.activity = .waiting := by
  unfold isWaiting
  cases loop.activity <;> simp

/-- What an event does to a loop in which it is possible. -/
inductive Step (loop : CollectionLoop) : Event → CollectionLoop → Prop
  | elapse (span : Nat) : Step loop (.elapse span) { loop with clock := loop.clock + span }
  | cancel : Step loop .cancel { loop with shutdown := true }
  | bootstrapEnded {result : Except BootstrapFailure Unit} {others : Nat}
      (running : loop.reporters = others + 1) :
      Step loop (.bootstrapEnded result)
        { loop with reporters := others, failures := loop.failures ++ reported result }
  | startTick {kind : EntityKind} (waiting : loop.activity = .waiting)
      (due : (loop.ticker kind).due ≤ loop.clock) :
      Step loop (.startTick kind)
        { loop with
          activity := .ticking kind
          ticker := fun other =>
            if other = kind then (loop.ticker kind).fire loop.clock else loop.ticker other
          started := (kind, loop.clock) :: loop.started }
  | finishTick {kind : EntityKind} (ticking : loop.activity = .ticking kind) :
      Step loop .finishTick { loop with activity := .waiting }
  | breakOff {kind : EntityKind} (ticking : loop.activity = .ticking kind) :
      Step loop .breakOff { loop with activity := .broken }
  | observeShutdown (waiting : loop.activity = .waiting) (requested : loop.shutdown = true) :
      Step loop .observeShutdown (loop.finish (.ok ()))
  | observeFailure {failure : BootstrapFailure} {rest : List BootstrapFailure}
      (waiting : loop.activity = .waiting) (received : loop.failures = failure :: rest) :
      Step loop .observeFailure ({ loop with failures := rest }.finish (.error failure))
  | observeClosed (waiting : loop.activity = .waiting) (closed : loop.channelClosed = true) :
      Step loop .observeClosed loop

theorem Step.of_step? {loop next : CollectionLoop} {event : Event}
    (moved : loop.step? event = some next) : loop.Step event next := by
  cases event with
  | elapse span =>
      cases moved
      exact .elapse span
  | cancel =>
      cases moved
      exact .cancel
  | bootstrapEnded result =>
      cases running : loop.reporters with
      | zero => simp only [step?, running, reduceCtorEq] at moved
      | succ others =>
          simp only [step?, running, Option.some.injEq] at moved
          exact moved ▸ .bootstrapEnded running
  | startTick kind =>
      rcases Option.ite_none_right_eq_some.mp moved with ⟨ready, same⟩
      rcases Bool.and_eq_true_iff.mp ready with ⟨waiting, due⟩
      cases same
      exact .startTick (isWaiting_iff.mp waiting) (of_decide_eq_true due)
  | finishTick =>
      cases ticking : loop.activity with
      | ticking kind =>
          simp only [step?, ticking, Option.some.injEq] at moved
          exact moved ▸ .finishTick ticking
      | _ => simp only [step?, ticking, reduceCtorEq] at moved
  | breakOff =>
      cases ticking : loop.activity with
      | ticking kind =>
          simp only [step?, ticking, Option.some.injEq] at moved
          exact moved ▸ .breakOff ticking
      | _ => simp only [step?, ticking, reduceCtorEq] at moved
  | observeShutdown =>
      rcases Option.ite_none_right_eq_some.mp moved with ⟨ready, same⟩
      rcases Bool.and_eq_true_iff.mp ready with ⟨waiting, requested⟩
      cases same
      exact .observeShutdown (isWaiting_iff.mp waiting) requested
  | observeFailure =>
      cases waiting : loop.isWaiting with
      | false => simp only [step?, waiting, reduceCtorEq] at moved
      | true =>
          cases received : loop.failures with
          | nil => simp only [step?, waiting, received, reduceCtorEq] at moved
          | cons failure rest =>
              simp only [step?, waiting, received, Option.some.injEq] at moved
              exact moved ▸ .observeFailure (isWaiting_iff.mp waiting) received
  | observeClosed =>
      rcases Option.ite_none_right_eq_some.mp moved with ⟨ready, same⟩
      rcases Bool.and_eq_true_iff.mp ready with ⟨waiting, closed⟩
      cases same
      exact .observeClosed (isWaiting_iff.mp waiting) closed

theorem Step.step? {loop next : CollectionLoop} {event : Event} (step : loop.Step event next) :
    loop.step? event = some next := by
  cases step with
  | elapse span => rfl
  | cancel => rfl
  | bootstrapEnded running => simp only [CollectionLoop.step?, running]
  | startTick waiting due =>
      have ready := decide_eq_true due
      exact if_pos (by rw [isWaiting_iff.mpr waiting, Ticker.ready, ready]; rfl)
  | finishTick ticking => simp only [CollectionLoop.step?, ticking]
  | breakOff ticking => simp only [CollectionLoop.step?, ticking]
  | observeShutdown waiting requested =>
      exact if_pos (by rw [isWaiting_iff.mpr waiting, requested]; rfl)
  | observeFailure waiting received =>
      simp only [CollectionLoop.step?, received, isWaiting_iff.mpr waiting]
  | observeClosed waiting closed =>
      exact if_pos (by rw [isWaiting_iff.mpr waiting, closed]; rfl)

/-! ## Runs -/

/-- The events lead from one state of the loop to another. -/
inductive Runs (loop : CollectionLoop) : List Event → CollectionLoop → Prop
  | nil : Runs loop [] loop
  | step {events : List Event} {event : Event} {middle next : CollectionLoop}
      (run : Runs loop events middle) (step : middle.Step event next) :
      Runs loop (events ++ [event]) next

variable {loop middle last : CollectionLoop} {events early late : List Event} {kind : EntityKind}

theorem Step.runs {event : Event} (step : loop.Step event last) : loop.Runs [event] last :=
  .step .nil step

theorem Runs.trans (first : loop.Runs early middle) (second : middle.Runs late last) :
    loop.Runs (early ++ late) last := by
  induction second with
  | nil =>
      rw [List.append_nil]
      exact first
  | step _ step ih =>
      rw [← List.append_assoc]
      exact ih.step step

theorem run?_eq (loop : CollectionLoop) (events : List Event) :
    loop.run? events = Moves.run? step? loop events := by
  induction events generalizing loop with
  | nil => rfl
  | cons event rest ih =>
      simp only [run?, Moves.run?]
      cases loop.step? event with
      | none => rfl
      | some next => exact ih next

theorem Runs.of_run? (ran : loop.run? events = some last) : loop.Runs events last := by
  rw [run?_eq] at ran
  induction events generalizing loop with
  | nil =>
      cases ran
      exact .nil
  | cons event rest ih =>
      rcases Moves.run?_cons_eq_some_iff.mp ran with ⟨next, moved, ran⟩
      exact (Step.of_step? moved).runs.trans (ih ran)

theorem Runs.run? (run : loop.Runs events last) : loop.run? events = some last := by
  rw [run?_eq]
  induction run with
  | nil => rfl
  | step _ step ih =>
      apply Moves.run?_append_eq_some_iff.mpr
      exact ⟨_, ih, Moves.run?_cons_eq_some_iff.mpr ⟨_, step.step?, rfl⟩⟩

/-- A run can be parted anywhere. -/
theorem Runs.exists_middle (run : loop.Runs (early ++ late) last) :
    ∃ middle, loop.Runs early middle ∧ middle.Runs late last := by
  have ran := run.run?
  rw [run?_eq] at ran
  rcases Moves.run?_append_eq_some_iff.mp ran with ⟨middle, first, second⟩
  rw [← run?_eq] at first second
  exact ⟨middle, .of_run? first, .of_run? second⟩

theorem Runs.exists_next {event : Event} (run : loop.Runs (event :: late) last) :
    ∃ next, loop.Step event next ∧ next.Runs late last := by
  have ran := run.run?
  rw [run?_eq] at ran
  rcases Moves.run?_cons_eq_some_iff.mp ran with ⟨next, moved, ran⟩
  rw [← run?_eq] at ran
  exact ⟨next, .of_step? moved, .of_run? ran⟩

theorem Step.perform {event : Event} (step : loop.Step event last) :
    loop.perform [event] = last :=
  congrArg (·.getD loop) step.step?

/-- What is performed of some events is a run. -/
theorem exists_runs_perform (loop : CollectionLoop) (events : List Event) :
    ∃ done, loop.Runs done (loop.perform events) := by
  induction events generalizing loop with
  | nil => exact ⟨[], .nil⟩
  | cons event rest ih =>
      have performed : loop.perform (event :: rest) =
          ((loop.step? event).getD loop).perform rest := rfl
      rw [performed]
      cases moved : loop.step? event with
      | none => exact ih loop
      | some next =>
          rcases ih next with ⟨done, run⟩
          exact ⟨[event] ++ done, (Step.of_step? moved).runs.trans run⟩

/-! ## Time -/

/-- How much time passes by an event. -/
def Event.span : Event → Nat
  | .elapse span => span
  | _ => 0

/-- How much time passes by some events. -/
def elapsed : List Event → Nat
  | [] => 0
  | event :: rest => event.span + elapsed rest

theorem elapsed_append (early late : List Event) :
    elapsed (early ++ late) = elapsed early + elapsed late := by
  induction early with
  | nil => exact (Nat.zero_add _).symm
  | cons event rest ih =>
      rw [List.cons_append, elapsed, ih, elapsed, Nat.add_assoc]

theorem Step.clock {event : Event} (step : loop.Step event last) :
    last.clock = loop.clock + event.span := by
  cases step <;> rfl

theorem Runs.clock (run : loop.Runs events last) : last.clock = loop.clock + elapsed events := by
  induction run with
  | nil => rfl
  | step _ step ih =>
      rw [step.clock, ih, elapsed_append, Nat.add_assoc]
      rfl

/-! ## Tickers -/

/-- Whether an event starts a tick of a kind. -/
def Event.starts (kind : EntityKind) : Event → Bool
  | .startTick other => other = kind
  | _ => false

/-- How many of some events start a tick of a kind. -/
def startsOf (kind : EntityKind) (events : List Event) : Nat := events.countP (Event.starts kind)

theorem Step.ticker {event : Event} (step : loop.Step event last) (kind : EntityKind) :
    last.ticker kind =
      if event.starts kind then (loop.ticker kind).fire loop.clock else loop.ticker kind := by
  cases step with
  | @startTick other =>
      by_cases own : kind = other
      · subst own
        simp only [Event.starts, decide_true, if_true]
      · have different : ¬other = kind := fun same => own same.symm
        simp only [Event.starts, own, different, decide_false, if_false, Bool.false_eq_true]
  | _ => rfl

variable {loop middle last : CollectionLoop} {events early late : List Event} {kind : EntityKind}

theorem Runs.period (run : loop.Runs events last) (kind : EntityKind) :
    (last.ticker kind).period = (loop.ticker kind).period := by
  induction run with
  | nil => rfl
  | step _ step ih =>
      rw [step.ticker kind]
      split
      · rw [Ticker.period_fire, ih]
      · exact ih

/-- Each tick moves the due moment of its ticker by a period at least, and
nothing moves it back. -/
theorem Runs.due (run : loop.Runs events last) (kind : EntityKind) :
    (loop.ticker kind).due + startsOf kind events * (loop.ticker kind).period ≤
      (last.ticker kind).due := by
  induction run with
  | nil => simp [startsOf]
  | @step events event middle next run step ih =>
      have counted : startsOf kind (events ++ [event]) =
          startsOf kind events + if event.starts kind then 1 else 0 := by
        rw [startsOf, List.countP_append, List.countP_singleton]
        rfl
      rw [step.ticker kind, counted]
      split
      · have fired := (middle.ticker kind).due_add_period_le_fire middle.clock
        rw [run.period kind] at fired
        rw [Nat.succ_mul, ← Nat.add_assoc]
        exact Nat.le_trans (Nat.add_le_add_right ih _) fired
      · exact ih

/-- Between two starts of ticks of a kind, its period passes once more than ticks
of that kind start in between, except for the tolerance. -/
theorem Runs.spaced {between : List Event}
    (run : loop.Runs (early ++ .startTick kind :: between ++ .startTick kind :: late) last) :
    (startsOf kind between + 1) * (loop.ticker kind).period ≤
      elapsed between + Ticker.tolerance := by
  rcases run.exists_middle with ⟨second, run, again⟩
  rcases run.exists_middle with ⟨first, before, run⟩
  rcases run.exists_next with ⟨started, step, meanwhile⟩
  rcases again.exists_next with ⟨startedAgain, step', -⟩
  have period := before.period kind
  have clock := meanwhile.clock
  have due := meanwhile.due kind
  have sameClock : started.clock = first.clock := step.clock
  have fired : started.ticker kind = (first.ticker kind).fire first.clock :=
    (step.ticker kind).trans (if_pos (decide_eq_true rfl))
  have next := (first.ticker kind).now_add_period_le_fire first.clock
  have ready : (second.ticker kind).due ≤ second.clock := by
    cases step' with
    | startTick _ due => exact due
  rw [fired, Ticker.period_fire, period] at due
  rw [period] at next
  rw [sameClock] at clock
  apply Nat.le_of_add_le_add_left
  calc first.clock + (startsOf kind between + 1) * (loop.ticker kind).period
      = first.clock + (loop.ticker kind).period +
          startsOf kind between * (loop.ticker kind).period := by
        rw [Nat.succ_mul, Nat.add_comm (_ * _), Nat.add_assoc]
    _ ≤ ((first.ticker kind).fire first.clock).due + Ticker.tolerance +
          startsOf kind between * (loop.ticker kind).period := Nat.add_le_add_right next _
    _ ≤ second.clock + Ticker.tolerance := by
        rw [Nat.add_right_comm]
        exact Nat.add_le_add_right (Nat.le_trans due ready) _
    _ = first.clock + (elapsed between + Ticker.tolerance) := by rw [clock, Nat.add_assoc]

/-! ## Requests to shut down -/

theorem Step.shutdown_iff {event : Event} (step : loop.Step event last) :
    last.shutdown = true ↔ loop.shutdown = true ∨ event = .cancel := by
  cases step <;> simp [finish]

theorem Runs.shutdown_iff (run : loop.Runs events last) :
    last.shutdown = true ↔ loop.shutdown = true ∨ .cancel ∈ events := by
  induction run with
  | nil => simp
  | step _ step ih =>
      rw [step.shutdown_iff, ih, List.mem_append, List.mem_singleton, or_assoc,
        @eq_comm _ Event.cancel]

/-! ## Failures -/

/-- What an event tells of a bootstrap task that failed. -/
def Event.reports : Event → List BootstrapFailure
  | .bootstrapEnded result => reported result
  | _ => []

/-- The failures that were reported to a loop, the one that ended it included. -/
def reports (loop : CollectionLoop) : List BootstrapFailure :=
  match loop.activity with
  | .ended (.error failure) => failure :: loop.failures
  | _ => loop.failures

theorem reports_of_waiting (waiting : loop.activity = .waiting) :
    loop.reports = loop.failures := by
  rw [reports, waiting]

theorem reports_of_ended {failure : BootstrapFailure}
    (ended : loop.result? = some (.error failure)) : loop.reports = failure :: loop.failures := by
  rw [result?] at ended
  rw [CollectionLoop.reports]
  cases activity : loop.activity with
  | ended result =>
      rw [activity] at ended
      cases ended
      rfl
  | _ =>
      rw [activity] at ended
      cases ended

theorem Step.reports {event : Event} (step : loop.Step event last) :
    last.reports = loop.reports ++ event.reports := by
  have none : ∀ failures : List BootstrapFailure, failures = failures ++ [] := by simp
  cases step with
  | elapse => exact none _
  | cancel => exact none _
  | bootstrapEnded running =>
      unfold CollectionLoop.reports
      rcases loop.activity with _ | _ | ⟨_ | _⟩ | _ <;> rfl
  | startTick waiting _ => exact (reports_of_waiting waiting).symm.trans (none _)
  | finishTick ticking =>
      unfold CollectionLoop.reports
      rw [ticking]
      exact none _
  | breakOff ticking =>
      unfold CollectionLoop.reports
      rw [ticking]
      exact none _
  | observeShutdown waiting _ => exact (reports_of_waiting waiting).symm.trans (none _)
  | observeFailure waiting received =>
      rw [reports_of_waiting waiting, received]
      exact none _
  | observeClosed => exact none _

theorem Runs.reports (run : loop.Runs events last) :
    last.reports = loop.reports ++ events.flatMap Event.reports := by
  induction run with
  | nil => simp
  | step _ step ih =>
      rw [step.reports, ih, List.flatMap_append, List.flatMap_singleton, List.append_assoc]

end CollectionLoop
end StorageTelemetry
