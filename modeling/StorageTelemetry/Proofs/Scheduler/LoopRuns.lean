import StorageTelemetry.Proofs.Scheduler.LoopSteps
import StorageTelemetry.Proofs.Scheduler.TickEffects
import StorageTelemetry.Scheduler.Run
import StorageTelemetry.Settings.Validation

namespace StorageTelemetry

/-!
# What the collection loop keeps to

Whatever happens and in whatever order, ticks follow one another without
overlapping, each kind is polled no faster than it is set to be, and the loop
ends for no other reason than a request to shut down or a failed bootstrap
task.  Real ticks on a clock make runs of the same loop, so all of this holds
of them.
-/

namespace CollectionLoop

variable {loop last : CollectionLoop} {events : List Event} {kind : EntityKind}

/-! ## Turns -/

/-- Whether an event is a turn of the loop: something it takes up, or the end of
that. -/
def Event.isTurn : Event → Bool
  | .startTick _ | .finishTick | .breakOff | .observeShutdown | .observeFailure => true
  | .elapse _ | .cancel | .bootstrapEnded _ | .observeClosed => false

/-- The turns of a tick that comes to its end. -/
def wholeTick (kind : EntityKind) : List Event := [.startTick kind, .finishTick]

/-- The turn with which the loop ends. -/
def endedBy : Except BootstrapFailure Unit → Event
  | .ok () => .observeShutdown
  | .error _ => .observeFailure

/-- The turns after the last whole tick, by what the loop is doing. -/
def Leaves : LoopActivity → List Event → Prop
  | .waiting, turns => turns = []
  | .ticking kind, turns => turns = [.startTick kind]
  | .ended result, turns => turns = [endedBy result]
  | .broken, turns => ∃ kind, turns = [.startTick kind, .breakOff]

theorem Step.activity_of_not_turn {event : Event} (step : loop.Step event last)
    (silent : event.isTurn = false) : last.activity = loop.activity := by
  cases step with
  | elapse | cancel | bootstrapEnded | observeClosed => rfl
  | startTick | finishTick | breakOff | observeShutdown | observeFailure => cases silent

/-- A turn completes the turns after the last whole tick, or is added to them. -/
theorem Step.leaves {event : Event} (step : loop.Step event last) (turn : event.isTurn = true)
    {turns : List Event} (left : Leaves loop.activity turns) :
    ∃ (kinds : List EntityKind) (rest : List Event),
      turns ++ [event] = kinds.flatMap wholeTick ++ rest ∧ Leaves last.activity rest := by
  cases step with
  | elapse | cancel | bootstrapEnded | observeClosed => cases turn
  | @finishTick kind ticking =>
      rw [ticking] at left
      cases left
      exact ⟨[kind], [], rfl, rfl⟩
  | @breakOff kind ticking =>
      rw [ticking] at left
      cases left
      exact ⟨[], _, rfl, kind, rfl⟩
  | startTick waiting _ | observeShutdown waiting _ | observeFailure waiting _ =>
      rw [waiting] at left
      cases left
      exact ⟨[], _, rfl, rfl⟩

/-- The turns of a run are whole ticks one after the other, except for what the
loop is doing at last. -/
theorem Runs.exists_turns (run : loop.Runs events last) (waiting : loop.activity = .waiting) :
    ∃ (kinds : List EntityKind) (turns : List Event),
      events.filter Event.isTurn = kinds.flatMap wholeTick ++ turns ∧
        Leaves last.activity turns := by
  induction run with
  | nil => exact ⟨[], [], rfl, by rw [waiting]; rfl⟩
  | @step events event middle next _ step ih =>
      rcases ih with ⟨kinds, turns, taken, left⟩
      rw [List.filter_append, taken]
      cases turn : event.isTurn with
      | false =>
          rw [step.activity_of_not_turn turn, List.filter_cons_of_neg (by simp [turn])]
          exact ⟨kinds, turns, List.append_nil _, left⟩
      | true =>
          rcases step.leaves turn left with ⟨further, rest, added, left⟩
          refine ⟨kinds ++ further, rest, ?_, left⟩
          rw [List.filter_cons_of_pos turn, List.flatMap_append, List.append_assoc,
            List.append_assoc, ← added]
          rfl

/-! ## The end -/

theorem result?_of_waiting (waiting : loop.activity = .waiting) : loop.result? = none := by
  rw [result?, waiting]

theorem result?_of_ticking (ticking : loop.activity = .ticking kind) : loop.result? = none := by
  rw [result?, ticking]

theorem Step.stopped {event : Event} (step : loop.Step event last)
    (proper : loop.tokensStopped = loop.result?.isSome) :
    last.tokensStopped = last.result?.isSome := by
  cases step with
  | elapse | cancel | bootstrapEnded | observeClosed => exact proper
  | startTick waiting _ => exact proper.trans (congrArg _ (result?_of_waiting waiting))
  | finishTick ticking => exact proper.trans (congrArg _ (result?_of_ticking ticking))
  | breakOff ticking => exact proper.trans (congrArg _ (result?_of_ticking ticking))
  | observeShutdown | observeFailure => rfl

/-- The token refresh is stopped by the end of the loop, and not before. -/
theorem Runs.stopped (run : loop.Runs events last)
    (proper : loop.tokensStopped = loop.result?.isSome) :
    last.tokensStopped = last.result?.isSome := by
  induction run with
  | nil => exact proper
  | step _ step ih => exact step.stopped ih

/-- Why a loop may end with a result: it was asked to shut down, or the failure
was the first to be reported. -/
def Justifies (events : List Event) : Except BootstrapFailure Unit → Prop
  | .ok () => .cancel ∈ events
  | .error failure => (events.flatMap Event.reports).head? = some failure

/-- The loop ends by its own turn, for a reason that came before. -/
theorem Runs.exists_end {period : EntityKind → Nat} {result : Except BootstrapFailure Unit}
    (run : (start period).Runs events last) (ended : last.result? = some result) :
    ∃ early late, events = early ++ endedBy result :: late ∧ Justifies early result := by
  induction run with
  | nil => cases ended
  | @step events event middle next run step ih =>
      have goesOn : middle.result? = some result → ∃ early late,
          events ++ [event] = early ++ endedBy result :: late ∧ Justifies early result := by
        intro before
        rcases ih before with ⟨early, late, rfl, reason⟩
        exact ⟨early, late ++ [event], List.append_assoc _ _ _, reason⟩
      cases step with
      | elapse | cancel | bootstrapEnded | observeClosed => exact goesOn ended
      | startTick | finishTick | breakOff => cases ended
      | observeShutdown _ requested =>
          cases ended
          exact ⟨events, [], rfl, (run.shutdown_iff.mp requested).resolve_left nofun⟩
      | observeFailure waiting received =>
          cases ended
          refine ⟨events, [], rfl, ?_⟩
          have reported := run.reports
          rw [reports_of_waiting waiting, received] at reported
          exact congrArg List.head? reported.symm

/-! ## The schedule -/

/-- What the loop keeps to after any events, if it began with these periods.  Its
turns are whole ticks, and a tick in progress can always be finished.  Ticks of a
kind are a period apart, and one that is due can be started.  A closed channel
changes nothing.  The loop ends for a reason only, and stops the token refresh
when it does. -/
structure KeepsTo (period : EntityKind → Nat) (events : List Event) (loop : CollectionLoop) :
    Prop where
  turns : ∃ (kinds : List EntityKind) (turns : List Event),
    events.filter Event.isTurn = kinds.flatMap wholeTick ++ turns ∧ Leaves loop.activity turns
  finishes : ∀ kind, loop.activity = .ticking kind →
    loop.step? .finishTick = some { loop with activity := .waiting }
  spaced : ∀ kind early between late,
    events = early ++ .startTick kind :: between ++ .startTick kind :: late →
      (startsOf kind between + 1) * period kind ≤ elapsed between + Ticker.tolerance
  serves : ∀ kind, loop.activity = .waiting → (loop.ticker kind).due ≤ loop.clock →
    (loop.step? (.startTick kind)).isSome = true
  passesBy : ∀ next, loop.step? .observeClosed = some next → next = loop
  ends : ∀ result, loop.result? = some result →
    ∃ early late, events = early ++ endedBy result :: late ∧ Justifies early result
  stopped : loop.tokensStopped = loop.result?.isSome

theorem Runs.keepsTo {period : EntityKind → Nat} (run : (start period).Runs events last) :
    last.KeepsTo period events where
  turns := run.exists_turns rfl
  finishes _ ticking := (Step.finishTick ticking).step?
  spaced kind early between late parted := by
    rw [parted] at run
    exact run.spaced
  serves kind waiting due := Option.isSome_of_eq_some (Step.startTick waiting due).step?
  passesBy next moved := by
    cases Step.of_step? moved with
    | observeClosed => rfl
  ends _ ended := run.exists_end ended
  stopped := run.stopped rfl

end CollectionLoop

/-! ## Periods -/

/-- The periods of the tickers, as they are set. -/
def CollectionSettings.period (settings : CollectionSettings) (kind : EntityKind) : Nat :=
  secondsSpan (settings.pollSeconds kind).toNat

theorem ensure_bind_eq_ok_iff {condition : Bool} {problem : SettingsProblem}
    {next : Unit → Except SettingsProblem Unit} :
    (ensure condition problem >>= next) = .ok () ↔ condition = true ∧ next () = .ok () := by
  cases condition with
  | true => exact ⟨fun passed => ⟨rfl, passed⟩, fun passed => passed.2⟩
  | false => exact ⟨nofun, fun passed => nomatch passed.1⟩

theorem isPollInterval_pollSeconds {settings : CollectionSettings}
    (valid : settings.validate = .ok ()) (kind : EntityKind) :
    isPollInterval (settings.pollSeconds kind) = true := by
  unfold CollectionSettings.validate at valid
  rcases ensure_bind_eq_ok_iff.mp valid with ⟨sdc, others⟩
  rcases ensure_bind_eq_ok_iff.mp others with ⟨volume, others⟩
  rcases ensure_bind_eq_ok_iff.mp others with ⟨pool, -⟩
  cases kind with
  | sdc => exact sdc
  | volume => exact volume
  | storagePool => exact pool

/-- No period is shorter than the shortest accepted interval. -/
theorem le_period {settings : CollectionSettings} (valid : settings.validate = .ok ())
    (kind : EntityKind) : secondsSpan minPollInterval.toNat ≤ settings.period kind := by
  have accepted := isPollInterval_pollSeconds valid kind
  rcases Bool.and_eq_true_iff.mp accepted with ⟨long, -⟩
  exact Nat.mul_le_mul_left 1000 (UInt64.le_iff_toNat_le.mp (of_decide_eq_true long))

theorem legalPeriods_of_valid {settings : CollectionSettings}
    (valid : settings.validate = .ok ()) :
    CollectionLoop.legalPeriods settings.period = true := by
  have positive : ∀ kind, 0 < settings.period kind := fun kind =>
    Nat.lt_of_lt_of_le (by decide) (le_period valid kind)
  simp only [CollectionLoop.legalPeriods, positive, decide_true, Bool.and_self]

/-! ## Ticks on a clock -/

/-- What the loop does after a tick with an outcome. -/
def TickOutcome.leaves : TickOutcome → LoopActivity
  | .brokenOff _ => .broken
  | _ => .waiting

namespace LoopRun

variable {scheduler : Scheduler} {surroundings : Surroundings} {run next : LoopRun}

theorem exists_runs_passTo (surroundings : Surroundings) (moment : Instant)
    (loop : CollectionLoop) : ∃ events, loop.Runs events (passTo surroundings moment loop) := by
  unfold passTo
  split
  · split
    · exact loop.exists_runs_perform _
    · exact loop.exists_runs_perform _
  · exact loop.exists_runs_perform _

theorem activity_passTo (surroundings : Surroundings) (moment : Instant) (loop : CollectionLoop) :
    (passTo surroundings moment loop).activity = loop.activity := by
  unfold passTo
  split
  · split <;> rfl
  · rfl

theorem exists_runs_afterTick (scheduler : Scheduler) (surroundings : Surroundings)
    (run : LoopRun) (kind : EntityKind) :
    ∃ events, run.loop.Runs events (run.afterTick scheduler surroundings kind).loop := by
  rcases run.loop.exists_runs_perform [.startTick kind] with ⟨begin, started⟩
  rcases exists_runs_passTo surroundings _ _ with ⟨during, passed⟩
  rcases CollectionLoop.exists_runs_perform _ [_] with ⟨last, finished⟩
  exact ⟨_, (started.trans passed).trans finished⟩

theorem exists_runs_take? {branch : Branch}
    (taken : run.take? scheduler surroundings branch = some next) :
    ∃ events, run.loop.Runs events next.loop := by
  cases branch with
  | shutdown =>
      rcases Option.ite_none_right_eq_some.mp taken with ⟨-, same⟩
      cases same
      exact run.loop.exists_runs_perform _
  | failure =>
      cases received : run.loop.failures with
      | nil => simp only [take?, received, reduceCtorEq] at taken
      | cons failure rest =>
          simp only [take?, received, Option.some.injEq] at taken
          exact taken ▸ run.loop.exists_runs_perform _
  | ticker kind =>
      rcases Option.ite_none_right_eq_some.mp taken with ⟨-, same⟩
      cases same
      exact exists_runs_afterTick scheduler surroundings run kind

theorem exists_runs_next? (moved : run.next? scheduler surroundings = some next) :
    ∃ events, run.loop.Runs events next.loop := by
  rcases Option.ite_none_right_eq_some.mp moved with ⟨-, same⟩
  cases same
  cases taken : (branchOrder run.loop).findSome? (run.take? scheduler surroundings) with
  | none => exact exists_runs_passTo surroundings _ run.loop
  | some next =>
      rcases List.exists_of_findSome?_eq_some taken with ⟨branch, -, taken⟩
      exact exists_runs_take? taken

theorem exists_runs_toEnd (scheduler : Scheduler) (surroundings : Surroundings) (stages : Nat)
    (run : LoopRun) :
    ∃ events, run.loop.Runs events (run.toEnd scheduler surroundings stages).loop := by
  induction stages generalizing run with
  | zero => exact ⟨[], .nil⟩
  | succ stages ih =>
      unfold toEnd
      cases moved : run.next? scheduler surroundings with
      | none => exact ⟨[], .nil⟩
      | some next =>
          rcases exists_runs_next? moved with ⟨early, first⟩
          rcases ih next with ⟨late, second⟩
          exact ⟨early ++ late, first.trans second⟩

/-- Every clocked run of the loop is one of its runs. -/
theorem exists_run_toEnd (scheduler : Scheduler) (surroundings : Surroundings)
    (exporter : MetricsExporter) (stages : Nat) :
    ∃ events, (CollectionLoop.start scheduler.settings.period).run? events =
      some ((start scheduler surroundings exporter).toEnd scheduler surroundings stages).loop := by
  rcases CollectionLoop.exists_runs_perform (.start scheduler.settings.period)
    (surroundings.failures.map fun failure => .bootstrapEnded (.error failure)) with ⟨early, begun⟩
  rcases exists_runs_toEnd scheduler surroundings stages (start scheduler surroundings exporter)
    with ⟨late, run⟩
  exact ⟨early ++ late, (begun.trans run).run?⟩

/-- However a tick comes out, the loop waits again after it, unless the tick broke
off. -/
theorem activity_afterTick (scheduler : Scheduler) (surroundings : Surroundings) {run : LoopRun}
    {kind : EntityKind} (waiting : run.loop.activity = .waiting)
    (due : (run.loop.ticker kind).due ≤ run.loop.clock) :
    (run.afterTick scheduler surroundings kind).loop.activity =
      (scheduler.tick (surroundings.leads run.loop.clock) kind run.loop.clock
        run.exporter).outcome.leaves := by
  have ticking : ∀ moment, (passTo surroundings moment
      (run.loop.perform [.startTick kind])).activity = .ticking kind := by
    intro moment
    rw [activity_passTo, (CollectionLoop.Step.startTick waiting due).perform]
  unfold afterTick
  simp only
  cases outcome : (scheduler.tick (surroundings.leads run.loop.clock) kind run.loop.clock
    run.exporter).outcome with
  | brokenOff panic =>
      exact congrArg CollectionLoop.activity (CollectionLoop.Step.breakOff (ticking _)).perform
  | _ => exact congrArg CollectionLoop.activity (CollectionLoop.Step.finishTick (ticking _)).perform

end LoopRun

/-! ## The loop as it is set up -/

/-- A loop with valid settings can be started, and polls no faster than the
shortest interval.  Whatever happens to it and whatever it takes up first, it
keeps to the schedule.  A run on a clock with real ticks is such a run, and
only a tick that breaks off ends the loop with it. -/
theorem loop_keeps_to_schedule (scheduler : Scheduler)
    (valid : scheduler.settings.validate = .ok ()) :
    CollectionLoop.legalPeriods scheduler.settings.period = true ∧
    (∀ kind, secondsSpan minPollInterval.toNat ≤ scheduler.settings.period kind) ∧
    (∀ events loop, (CollectionLoop.start scheduler.settings.period).run? events = some loop →
      loop.KeepsTo scheduler.settings.period events) ∧
    ∀ surroundings exporter,
      (∀ stages, ∃ events, (CollectionLoop.start scheduler.settings.period).run? events =
        some ((LoopRun.start scheduler surroundings exporter).toEnd scheduler surroundings
          stages).loop) ∧
      ∀ (run : LoopRun) (kind : EntityKind), run.loop.activity = .waiting →
        (run.loop.ticker kind).due ≤ run.loop.clock →
          (run.afterTick scheduler surroundings kind).loop.activity =
            (scheduler.tick (surroundings.leads run.loop.clock) kind run.loop.clock
              run.exporter).outcome.leaves := by
  refine ⟨legalPeriods_of_valid valid, le_period valid, ?_, ?_⟩
  · intro events loop ran
    exact (CollectionLoop.Runs.of_run? ran).keepsTo
  · intro surroundings exporter
    refine ⟨LoopRun.exists_run_toEnd scheduler surroundings exporter, ?_⟩
    intro run kind waiting due
    exact LoopRun.activity_afterTick scheduler surroundings waiting due

/-- Both bootstrap tasks end well, a tick takes longer than its period, and a
request to shut down arrives during another. -/
def slowTicks : List CollectionLoop.Event :=
  [.bootstrapEnded (.ok ()), .bootstrapEnded (.ok ()), .observeClosed, .startTick .sdc,
    .elapse 40000, .finishTick, .startTick .volume, .finishTick, .startTick .sdc, .cancel,
    .elapse 100, .finishTick, .observeShutdown]

theorem slowTicks_keep_to_schedule :
    unlistedClients.settings.validate = .ok () ∧
      ∃ loop, (CollectionLoop.start unlistedClients.settings.period).run? slowTicks = some loop ∧
        loop.result? = some (.ok ()) ∧ loop.tokensStopped = true ∧
          loop.KeepsTo unlistedClients.settings.period slowTicks := by
  have valid : unlistedClients.settings.validate = .ok () := rfl
  have keeps := (loop_keeps_to_schedule unlistedClients valid).2.2.1 slowTicks
  have ran : ∃ loop, (CollectionLoop.start unlistedClients.settings.period).run? slowTicks =
      some loop ∧ loop.result? = some (.ok ()) := ⟨_, rfl, rfl⟩
  rcases ran with ⟨loop, ran, ended⟩
  have kept := keeps loop ran
  refine ⟨valid, loop, ran, ended, ?_, kept⟩
  rw [kept.stopped, ended]
  rfl

end StorageTelemetry
