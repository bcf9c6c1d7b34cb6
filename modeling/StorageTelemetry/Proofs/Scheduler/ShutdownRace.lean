import StorageTelemetry.Proofs.Scheduler.LoopRuns

namespace StorageTelemetry

/-!
# Requests to shut down against due tickers

A loop that was asked to shut down looks at the request when it waits, but the
due tickers are looked at as well and any of them may be taken first.  So a
tick that takes longer than another kind's period can be followed by further
ticks.  If no ticker is due when the tick in progress ends, there are none.
-/

namespace CollectionLoop

variable {loop state last : CollectionLoop} {events before after : List Event}

/-- Whether the loop has something to take up. -/
def hasTurn (loop : CollectionLoop) : Bool :=
  loop.isWaiting && (loop.shutdown || !loop.failures.isEmpty ||
    [EntityKind.sdc, .volume, .storagePool].any fun kind => (loop.ticker kind).ready loop.clock)

/-- Whether time passes only while the loop has nothing to take up. -/
def prompt (loop : CollectionLoop) : List Event → Bool
  | [] => true
  | event :: rest =>
      (event.span == 0 || !loop.hasTurn) &&
        match loop.step? event with
        | some next => next.prompt rest
        | none => true

theorem prompt_cons {event : Event} {rest : List Event} (step : loop.Step event state)
    (prompt : loop.prompt (event :: rest) = true) :
    (event.span = 0 ∨ loop.hasTurn = false) ∧ state.prompt rest = true := by
  rw [CollectionLoop.prompt, step.step?] at prompt
  simpa using prompt

theorem Runs.prompt (run : loop.Runs before state)
    (prompt : loop.prompt (before ++ after) = true) : state.prompt after = true := by
  induction before generalizing loop with
  | nil =>
      cases run.run?
      exact prompt
  | cons event rest ih =>
      rcases run.exists_next with ⟨next, step, run⟩
      exact ih run (prompt_cons step prompt).2

theorem hasTurn_of_asked (waiting : loop.activity = .waiting) (asked : loop.shutdown = true) :
    loop.hasTurn = true := by
  rw [hasTurn, isWaiting_iff.mpr waiting, asked]
  rfl

/-! ## Turns from a state on -/

theorem Step.ticker_of_not_turn {event : Event} (step : loop.Step event state)
    (silent : event.isTurn = false) : state.ticker = loop.ticker := by
  cases step with
  | startTick => cases silent
  | _ => rfl

/-- A turn needs a loop that waits or ticks. -/
theorem Step.activity_of_turn {event : Event} (step : loop.Step event state)
    (turn : event.isTurn = true) :
    loop.activity = .waiting ∨ ∃ kind, loop.activity = .ticking kind := by
  cases step with
  | elapse | cancel | bootstrapEnded | observeClosed => cases turn
  | startTick waiting _ => exact .inl waiting
  | finishTick ticking => exact .inr ⟨_, ticking⟩
  | breakOff ticking => exact .inr ⟨_, ticking⟩
  | observeShutdown waiting _ => exact .inl waiting
  | observeFailure waiting _ => exact .inl waiting

/-- Whether a loop has come to its end, one way or the other. -/
def isOver (loop : CollectionLoop) : Bool :=
  match loop.activity with
  | .waiting | .ticking _ => false
  | .ended _ | .broken => true

theorem turns_cons_of_not_turn {event : Event} {rest : List Event}
    (silent : event.isTurn = false) :
    (event :: rest).filter Event.isTurn = rest.filter Event.isTurn :=
  List.filter_cons_of_neg (by simp [silent])

theorem Runs.stays_over (run : loop.Runs events last) (done : loop.isOver = true) :
    events.filter Event.isTurn = [] ∧ last.activity = loop.activity := by
  induction events generalizing loop with
  | nil =>
      cases run.run?
      exact ⟨rfl, rfl⟩
  | cons event rest ih =>
      rcases run.exists_next with ⟨next, step, run⟩
      cases turn : event.isTurn with
      | true =>
          rw [isOver] at done
          rcases step.activity_of_turn turn with waiting | ⟨kind, ticking⟩
          · rw [waiting] at done
            cases done
          · rw [ticking] at done
            cases done
      | false =>
          have same := step.activity_of_not_turn turn
          rw [turns_cons_of_not_turn turn, ← same]
          apply ih run
          rw [isOver, same]
          exact done

/-- A tick in progress ends before anything else is taken up. -/
theorem Runs.turns_of_ticking {kind : EntityKind} (run : loop.Runs events last)
    (ticking : loop.activity = .ticking kind) :
    events.filter Event.isTurn = [] ∨ events.filter Event.isTurn = [.breakOff] ∨
      ∃ rest, events.filter Event.isTurn = .finishTick :: rest := by
  induction events generalizing loop with
  | nil => exact .inl rfl
  | cons event rest ih =>
      rcases run.exists_next with ⟨next, step, run⟩
      cases turn : event.isTurn with
      | false =>
          rw [turns_cons_of_not_turn turn]
          exact ih run ((step.activity_of_not_turn turn).trans ticking)
      | true =>
          rw [List.filter_cons_of_pos turn]
          cases step with
          | elapse | cancel | bootstrapEnded | observeClosed => cases turn
          | startTick waiting _ | observeShutdown waiting _ | observeFailure waiting _ =>
              cases ticking.symm.trans waiting
          | finishTick => exact .inr (.inr ⟨_, rfl⟩)
          | breakOff =>
              rw [(run.stays_over rfl).1]
              exact .inr (.inl rfl)

/-- A loop that waits, was asked to shut down and received no failure ends at once
or starts a tick that is due at once. -/
theorem Runs.turns_of_waiting (run : loop.Runs events last) (waiting : loop.activity = .waiting)
    (asked : loop.shutdown = true) (healthy : loop.reports ++ events.flatMap Event.reports = [])
    (prompt : loop.prompt events = true) :
    (events.filter Event.isTurn = [] ∧ elapsed events = 0) ∨
    (events.filter Event.isTurn = [.observeShutdown] ∧ last.result? = some (.ok ())) ∨
    ∃ kind rest, events.filter Event.isTurn = .startTick kind :: rest ∧
      (loop.ticker kind).due ≤ loop.clock := by
  induction events generalizing loop with
  | nil => exact .inl ⟨rfl, rfl⟩
  | cons event rest ih =>
      rcases run.exists_next with ⟨next, step, run⟩
      rcases prompt_cons step prompt with ⟨still, prompt⟩
      have span : event.span = 0 :=
        still.resolve_right (by simp [hasTurn_of_asked waiting asked])
      have healthy' : next.reports ++ rest.flatMap Event.reports = [] := by
        rw [step.reports, List.append_assoc]
        exact healthy
      cases turn : event.isTurn with
      | false =>
          have clock : next.clock = loop.clock := by
            rw [step.clock, span]
            rfl
          have waits := (step.activity_of_not_turn turn).trans waiting
          rw [turns_cons_of_not_turn turn, elapsed, span, Nat.zero_add, ← clock,
            ← step.ticker_of_not_turn turn]
          exact ih run waits (step.shutdown_iff.mpr (.inl asked)) healthy' prompt
      | true =>
          rw [List.filter_cons_of_pos turn]
          cases step with
          | elapse | cancel | bootstrapEnded | observeClosed => cases turn
          | startTick _ due => exact .inr (.inr ⟨_, _, rfl, due⟩)
          | finishTick ticking | breakOff ticking => cases waiting.symm.trans ticking
          | observeShutdown =>
              have stays := run.stays_over rfl
              rw [stays.1, result?, stays.2]
              exact .inr (.inl ⟨rfl, rfl⟩)
          | observeFailure _ received =>
              rw [reports_of_waiting waiting, received] at healthy
              cases healthy

/-! ## Shutting down -/

/-- How a loop that was asked to shut down goes on until another state.  A tick in
progress is finished first.  A loop that waits can end well, and if it takes up
at once what it can, it ends or starts a tick that is due.  So nothing new is
started if no ticker is due when the tick in progress ends. -/
structure HeedsShutdown (loop : CollectionLoop) (events : List Event) (last : CollectionLoop) :
    Prop where
  current : ∀ kind, loop.activity = .ticking kind →
    events.filter Event.isTurn = [] ∨ events.filter Event.isTurn = [.breakOff] ∨
      ∃ rest, events.filter Event.isTurn = .finishTick :: rest
  heeds : loop.activity = .waiting → ∃ ended, loop.step? .observeShutdown = some ended ∧
    ended.result? = some (.ok ()) ∧ ended.tokensStopped = true
  next : loop.activity = .waiting → loop.prompt events = true →
    (events.filter Event.isTurn = [] ∧ elapsed events = 0) ∨
    (events.filter Event.isTurn = [.observeShutdown] ∧ last.result? = some (.ok ())) ∨
    ∃ kind rest, events.filter Event.isTurn = .startTick kind :: rest ∧
      (loop.ticker kind).due ≤ loop.clock
  nothingNew : ∀ kind during rest finished, loop.activity = .ticking kind →
    events = during ++ .finishTick :: rest → during.filter Event.isTurn = [] →
    loop.run? (during ++ [.finishTick]) = some finished →
    (∀ other, finished.clock < (finished.ticker other).due) → loop.prompt events = true →
      (events.filter Event.isTurn = [.finishTick] ∧ elapsed rest = 0) ∨
      (events.filter Event.isTurn = [.finishTick, .observeShutdown] ∧
        last.result? = some (.ok ()))
  ends : ∀ result, last.result? = some result → result = .ok ()

theorem Runs.activity_of_finishTick (run : loop.Runs (events ++ [.finishTick]) last) :
    last.activity = .waiting := by
  rcases run.exists_middle with ⟨ticking, -, run⟩
  rcases run.exists_next with ⟨next, step, run⟩
  cases run.run?
  cases step
  rfl

/-- What is known of a loop that was asked to shut down and received no failure. -/
structure Asked (loop : CollectionLoop) (events : List Event) : Prop where
  requested : loop.shutdown = true
  unreported : loop.reports ++ events.flatMap Event.reports = []

theorem Asked.after_run (asked : loop.Asked (before ++ after)) (run : loop.Runs before state) :
    state.Asked after where
  requested := run.shutdown_iff.mpr (.inl asked.requested)
  unreported := by
    rw [run.reports, List.append_assoc, ← List.flatMap_append]
    exact asked.unreported

theorem Asked.heedsShutdown (asked : loop.Asked after) (run : loop.Runs after last) :
    loop.HeedsShutdown after last where
  current _ ticking := run.turns_of_ticking ticking
  heeds waiting := ⟨_, (Step.observeShutdown waiting asked.requested).step?, rfl, rfl⟩
  next waiting prompt := run.turns_of_waiting waiting asked.requested asked.unreported prompt
  nothingNew kind during rest finished ticking parted silent ran notDue prompt := by
    have first := Runs.of_run? ran
    rw [parted, List.append_cons] at asked run prompt ⊢
    rcases run.exists_middle with ⟨middle, same, further⟩
    cases Option.some.inj (ran.symm.trans same.run?)
    have waiting := first.activity_of_finishTick
    have still := asked.after_run first
    have turns : ((during ++ [Event.finishTick]) ++ rest).filter Event.isTurn =
        .finishTick :: rest.filter Event.isTurn := by
      rw [List.filter_append, List.filter_append, silent]
      rfl
    rw [turns]
    rcases further.turns_of_waiting waiting still.requested still.unreported (first.prompt prompt)
      with ⟨none, instantly⟩ | ⟨observed, ended⟩ | ⟨other, others, -, due⟩
    · exact .inl ⟨congrArg _ none, instantly⟩
    · exact .inr ⟨congrArg _ observed, ended⟩
    · exact absurd (notDue other) (Nat.not_lt_of_le due)
  ends result ended := by
    cases result with
    | ok => rfl
    | error failure =>
        have reported := run.reports
        rw [asked.unreported, reports_of_ended ended] at reported
        cases reported

end CollectionLoop

/-- After the request to shut down the loop finishes the tick in progress, and
whenever it waits it can end well.  It may start a further tick only if that is
due when it comes to wait. -/
theorem shutdown_heeded_unless_due (settings : CollectionSettings)
    {before after : List CollectionLoop.Event} {loop last : CollectionLoop}
    (reached : (CollectionLoop.start settings.period).run? before = some loop)
    (asked : .cancel ∈ before) (ran : loop.run? after = some last)
    (healthy : (before ++ after).flatMap CollectionLoop.Event.reports = []) :
    loop.HeedsShutdown after last := by
  have run := CollectionLoop.Runs.of_run? reached
  have unreported : loop.reports ++ after.flatMap CollectionLoop.Event.reports = [] := by
    rw [run.reports, List.append_assoc, ← List.flatMap_append]
    exact healthy
  have known : loop.Asked after := ⟨run.shutdown_iff.mpr (.inr asked), unreported⟩
  exact known.heedsShutdown (.of_run? ran)

/-- Settings by which pools are polled more often than anything else. -/
def frequentPools : CollectionSettings :=
  ⟨30, 600, 7, true, true, true, 10, 60, 5, ["csi-vxflexos.dellemc.com"]⟩

/-- The loop until it is asked to shut down, in the middle of its first tick over
data clients. -/
def untilAsked : List CollectionLoop.Event :=
  CollectionLoop.wholeTick .volume ++ CollectionLoop.wholeTick .storagePool ++
    [.startTick .sdc, .elapse 3000, .cancel]

/-- The tick in progress ends before the pools are due. -/
def shortEnd : List CollectionLoop.Event := [.elapse 1000, .finishTick, .observeShutdown]

theorem shortEnd_starts_nothing :
    ∃ loop last, (CollectionLoop.start frequentPools.period).run? untilAsked = some loop ∧
      loop.activity = .ticking .sdc ∧ loop.run? shortEnd = some last ∧
        loop.prompt shortEnd = true ∧ loop.HeedsShutdown shortEnd last ∧
          last.result? = some (.ok ()) := by
  have asked : .cancel ∈ untilAsked := by simp [untilAsked]
  refine ⟨_, _, rfl, rfl, rfl, rfl, ?_, rfl⟩
  exact shutdown_heeded_unless_due frequentPools rfl asked rfl rfl

/-- The tick in progress goes on until the pools are due. -/
def lateEnd : List CollectionLoop.Event :=
  [.elapse 5000, .finishTick] ++ CollectionLoop.wholeTick .storagePool ++ [.observeShutdown]

/-- With valid settings, no failure and no delay, a tick may be started long after
the request to shut down. -/
theorem lateEnd_starts_another :
    frequentPools.validate = .ok () ∧
      ∃ loop last, (CollectionLoop.start frequentPools.period).run? untilAsked = some loop ∧
        loop.activity = .ticking .sdc ∧ loop.shutdown = true ∧
        loop.run? lateEnd = some last ∧ loop.prompt lateEnd = true ∧
        (untilAsked ++ lateEnd).flatMap CollectionLoop.Event.reports = [] ∧
        lateEnd.filter CollectionLoop.Event.isTurn =
          [.finishTick, .startTick .storagePool, .finishTick, .observeShutdown] :=
  ⟨rfl, _, _, rfl, rfl, rfl, rfl, rfl, rfl, rfl⟩

end StorageTelemetry
