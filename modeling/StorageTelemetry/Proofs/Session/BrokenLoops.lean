import StorageTelemetry.Proofs.Session.RefreshTimes

namespace StorageTelemetry

/-!
# Loops that break

A loop sets up its ticker when its first login has ended.  If the moment at which
that ticker would be due lies beyond the range of the clock, the loop breaks there.
Up to then it goes by its timetable like any other, so it logs in once, and nobody
is told that no login follows.
-/

/-! ## Single steps -/

theorem Timetable.afterRefresh_beyond {timetable : Timetable} (beyond : ¬timetable.InRange) :
    RefreshLoop.afterRefresh timetable.period (timetable.ends 0) none = .broken := by
  have none : RefreshLoop.firstTicker? timetable.period (timetable.ends 0) = none := by
    apply if_neg
    intro inRange
    have both := Bool.and_eq_true_iff.mp inRange
    exact beyond ⟨of_decide_eq_true both.1, of_decide_eq_true both.2⟩
  rw [RefreshLoop.afterRefresh, none]

theorem Timetable.eq_zero_of_held {timetable : Timetable} {n : Nat}
    (unset : timetable.held n = none) : n = 0 := by
  cases n with
  | zero => rfl
  | succ n => cases unset

/-- A loop that refreshes stays as it is until its refresh has ended. -/
theorem LoopView.Step.loops_of_busy {view next : LoopView} {ticket : Ticket}
    {ticker : Option Ticker} (step : view.Step next)
    (loop : view.loops = [.refreshing ticket ticker])
    (busy : ∀ succeeded, view.stage ticket ≠ some (.refreshed succeeded)) :
    next.loops = [.refreshing ticket ticker] := by
  cases step with
  | aside | begin | finish | pass => exact loop
  | rest refreshes refreshed =>
      rcases Phase.ticket_of_loop loop refreshes with ⟨rfl, -⟩
      exact absurd refreshed (busy _)
  | fire _ idles | ends idles => cases loop.symm.trans idles

/-- A loop that has broken, after its only login. -/
structure Broken (timetable : Timetable) (view : LoopView) (log : LoopLog) : Prop where
  tally : Tally timetable view log 1 1
  nothing : view.loginEnd = none
  loop : view.loops = [.broken]
  done : view.AllDone
  runs : log.returned = none

/-- Where a loop stands that is to break: in its first refresh, for which it has
no ticker yet, or behind that. -/
inductive Doomed (timetable : Timetable) (view : LoopView) (log : LoopLog) : Prop
  | refreshes {ticket : Ticket} (phase : Phase timetable view log)
      (loop : view.loops = [.refreshing ticket none])
  | broken (broken : Broken timetable view log)

section

variable {timetable : Timetable} {view next : LoopView} {log : LoopLog}

theorem Broken.step (broken : Broken timetable view log) (step : view.Step next) :
    Broken timetable next (log.after view next) := by
  have tally := broken.tally
  have silent : ∀ other : LoopView, other.loops = [.broken] → other.return? = none := by
    intro other loop
    rw [LoopView.return?, loop]
  cases step with
  | aside | pass =>
      exact ⟨tally.same rfl rfl rfl rfl, broken.nothing, broken.loop, broken.done,
        LoopLog.returned_after broken.runs (silent _ broken.loop)⟩
  | begin asks => cases broken.done _ _ asks
  | finish planned => cases broken.nothing.symm.trans planned
  | rest loop | fire _ loop | ends loop => cases broken.loop.symm.trans loop

variable (beyond : ¬timetable.InRange)

include beyond

/-- When its first login has ended, the loop breaks. -/
theorem Doomed.of_rests {ticket : Ticket} {succeeded : Bool}
    (tally : Tally timetable view log 1 1) (clock : view.clock = timetable.ends 0)
    (nothing : view.loginEnd = none) (loop : view.loops = [.refreshing ticket (timetable.held 0)])
    (own : view.stage ticket = some (.refreshed succeeded)) (done : view.AllDone)
    (heeds : Heeds timetable view log 0) (runs : log.returned = none) (step : view.Step next) :
    Doomed timetable next (log.after view next) := by
  cases step with
  | aside kept =>
      have begun : timetable.begins 0 ≤ view.clock := clock ▸ timetable.begins_le_ends 0
      refine .refreshes (.rests (tally.same rfl rfl rfl rfl) clock nothing loop own done ?_ ?_) loop
      · exact heeds.after begun (Nat.le_refl _) kept
      · exact LoopLog.returned_after runs (LoopView.return?_of_refreshing loop)
  | begin asks => cases done _ _ asks
  | finish planned => cases nothing.symm.trans planned
  | rest refreshes refreshed =>
      rcases Phase.ticket_of_loop loop refreshes with ⟨rfl, rfl⟩
      have breaks : [RefreshLoop.afterRefresh view.period view.clock none] = [.broken] := by
        rw [tally.period, clock, timetable.afterRefresh_beyond beyond]
      refine .broken ⟨tally.same rfl rfl rfl rfl, nothing, breaks, done, ?_⟩
      apply LoopLog.returned_after runs
      rw [LoopView.return?]
      exact breaks ▸ rfl
  | fire _ idles | ends idles => cases loop.symm.trans idles
  | pass calm => exact absurd own (calm.refreshing _ _ _ loop)

theorem Doomed.step (doomed : Doomed timetable view log) (step : view.Step next) :
    Doomed timetable next (log.after view next) := by
  cases doomed with
  | broken broken => exact .broken (broken.step step)
  | @refreshes ticket phase loop =>
      cases phase with
      | asks tally clock nothing loop' own alone heeds runs =>
          rcases Phase.ticket_of_loop loop loop' with ⟨rfl, -⟩
          have busy : ∀ succeeded, view.stage _ ≠ some (.refreshed succeeded) :=
            fun _ refreshed => nomatch own.symm.trans refreshed
          exact .refreshes (.of_asks tally clock nothing loop' own alone heeds runs step)
            (step.loops_of_busy loop busy)
      | logsIn tally begun inTime planned loop' own alone heeds runs =>
          rcases Phase.ticket_of_loop loop loop' with ⟨rfl, -⟩
          have busy : ∀ succeeded, view.stage _ ≠ some (.refreshed succeeded) :=
            fun _ refreshed => nomatch own.symm.trans refreshed
          exact .refreshes (.of_logsIn tally begun inTime planned loop' own alone heeds runs step)
            (step.loops_of_busy loop busy)
      | rests tally clock nothing loop' own done heeds runs =>
          rcases Phase.ticket_of_loop loop loop' with ⟨-, unset⟩
          rcases timetable.eq_zero_of_held unset
          exact .of_rests beyond tally clock nothing loop' own done heeds runs step
      | idles _ _ _ _ loop' | ended _ _ loop' => cases loop.symm.trans loop'

end

/-! ## Turns of the session -/

/-- While nobody logs in, the token stays what it is. -/
theorem SessionWorld.Tended.token_eq {world next : SessionWorld} (tended : world.Tended)
    (nothing : world.loginEnd = none) (turn : world.Turn next) :
    next.manager.token = world.manager.token := by
  cases turn with
  | pass | read | stop | shutDown => rfl
  | react moved =>
      rcases tended.react?_cases moved with
        ended | acquired | expired | ⟨loop, after, left, single, first, rfl⟩
      · rw [endLogin?, nothing] at ended
        cases ended
      · simp only [acquire?] at acquired
        split at acquired
        · rename_i ticket manager queued granted
          have granted : world.manager.step? .acquire = some manager := granted
          have same := (TokenManager.step?_eq_some_iff.mp granted).session_eq rfl
          split at acquired
          · cases acquired
            exact same.1
          · cases acquired
            exact (manager.session_apply rfl).1.trans same.1
        · cases acquired
      · rcases Option.map_eq_some_iff.mp expired with ⟨⟨ticket, deadline⟩, -, rfl⟩
        exact (world.manager.session_apply rfl).1
      · cases loop with
        | refreshing =>
            simp only [moveLoop?] at first
            split at first
            · cases first
              rfl
            · cases first
        | idle =>
            simp only [moveLoop?] at first
            split at first
            · cases first
              rfl
            · cases first
              rfl
            · cases first
        | ended | broken => cases first

namespace Watched

variable {timetable : Timetable} {watched later : Watched}

/-- A session whose loop is to break. -/
structure Failing (timetable : Timetable) (watched : Watched) : Prop where
  sound : watched.world.manager.Sound
  doomed : Doomed timetable watched.world.view watched.log

namespace Failing

theorem tended (failing : watched.Failing timetable) : watched.world.Tended := by
  cases failing.doomed with
  | refreshes phase => exact OnTime.tended ⟨failing.sound, phase⟩
  | broken broken =>
      have loop : watched.world.loops = _ := broken.loop
      exact ⟨failing.sound, by simp [loop], fun underWay => absurd broken.nothing underWay⟩

theorem turn (beyond : ¬timetable.InRange) (failing : watched.Failing timetable)
    (turn : watched.Turn later) : later.Failing timetable := by
  cases turn with
  | of turn =>
      exact ⟨turn.sound failing.sound, failing.doomed.step beyond (failing.tended.step turn)⟩

theorem reaches (beyond : ¬timetable.InRange) (failing : watched.Failing timetable)
    (reaches : watched.Reaches later) : later.Failing timetable := by
  induction reaches with
  | refl => exact failing
  | tail _ turn ih => exact ih.turn beyond turn

theorem first {plan : Nat → Login} {period : Nat} {before : SessionWorld}
    (turns : Relation.ReflTransGen SessionWorld.Turn (.start plan period) before) :
    (first before).Failing ⟨plan, period, before.clock⟩ := by
  have onTime := OnTime.first turns
  have none : before.loops = [] := (Fresh.of_turns turns).2.loops
  have loop : before.startLoop.loops = [.refreshing before.manager.nextTicket .none] := by
    rw [SessionWorld.startLoop, none, List.nil_append]
  exact ⟨onTime.sound, .refreshes onTime.phase loop⟩

theorem runs (failing : watched.Failing timetable) : watched.log.returned = none := by
  cases failing.doomed with
  | broken broken => exact broken.runs
  | refreshes phase loop =>
      cases phase with
      | asks _ _ _ _ _ _ _ runs | logsIn _ _ _ _ _ _ _ _ runs | rests _ _ _ _ _ _ _ runs =>
          exact runs
      | idles _ _ _ _ loop' | ended _ _ loop' => cases loop.symm.trans loop'

/-- Such a loop begins no second login. -/
theorem exists_tally (failing : watched.Failing timetable) :
    ∃ begun ended, Tally timetable watched.world.view watched.log begun ended ∧
      begun ≤ 1 ∧ ended ≤ 1 := by
  cases failing.doomed with
  | broken broken => exact ⟨1, 1, broken.tally, Nat.le_refl 1, Nat.le_refl 1⟩
  | refreshes phase loop =>
      cases phase with
      | asks tally _ _ loop' | logsIn tally _ _ _ loop' | rests tally _ _ loop' =>
          rcases timetable.eq_zero_of_held (Phase.ticket_of_loop loop loop').2
          exact ⟨_, _, tally, by decide, by decide⟩
      | idles _ _ _ _ loop' | ended _ _ loop' => cases loop.symm.trans loop'

/-! ## The end of the loop -/

theorem broken (failing : watched.Failing timetable) (loop : watched.world.loops = [.broken]) :
    Broken timetable watched.world.view watched.log := by
  cases failing.doomed with
  | broken broken => exact broken
  | refreshes _ loop' => cases loop.symm.trans loop'

variable (beyond : ¬timetable.InRange)

include beyond

/-- A session that is left alone comes to the end of the login, or its loop breaks:
there is only so much to be done before. -/
theorem exists_end (failing : watched.Failing timetable) :
    ∃ steps, watched.log.ends.length < (onward^[steps] watched).log.ends.length ∨
      (onward^[steps] watched).world.loops = [.broken] := by
  generalize distance : watched.world.distance = bound
  induction bound using Nat.strongRecOn generalizing watched with
  | ind bound ih =>
      cases failing.doomed with
      | broken broken => exact ⟨0, .inr broken.loop⟩
      | refreshes phase =>
          have onTime : watched.OnTime timetable := ⟨failing.sound, phase⟩
          have failing' := failing.turn beyond (.of watched.world.turn_onward)
          rcases onTime.distance_onward failing.runs with brings | nearer
          · rcases onward_of_brings brings with later | returned
            · exact ⟨1, .inl later⟩
            · exact absurd failing'.runs returned
          · rcases ih _ (distance ▸ nearer) failing' rfl with ⟨steps, reached⟩
            refine ⟨steps + 1, reached.imp_left fun later => Nat.lt_of_le_of_lt ?_ later⟩
            simp [LoopLog.after]

/-- The loop breaks, unless it were to log in twice. -/
theorem exists_broken (failing : watched.Failing timetable) :
    ∃ steps, (onward^[steps] watched).world.loops = [.broken] := by
  rcases failing.exists_end beyond with ⟨steps, more | broken⟩
  · have failing' := failing.reaches beyond (reaches_iterate_onward steps watched)
    rcases failing'.exists_end beyond with ⟨steps', twice | broken⟩
    · have failing'' := failing'.reaches beyond (reaches_iterate_onward steps' _)
      rcases failing''.exists_tally with ⟨begun, ended, tally, -, once⟩
      rw [← tally.length_ends] at once
      omega
    · refine ⟨steps' + steps, ?_⟩
      rw [Function.iterate_add_apply]
      exact broken
  · exact ⟨steps, broken⟩

/-- Behind the end of its loop nothing is kept fresh any more. -/
theorem of_broken (failing : watched.Failing timetable) (loop : watched.world.loops = [.broken])
    (reaches : watched.Reaches later) :
    later.world.loops = [.broken] ∧ later.log.begins = watched.log.begins ∧
      later.world.manager.token = watched.world.manager.token := by
  induction reaches with
  | refl => exact ⟨loop, rfl, rfl⟩
  | @tail middle last before turn ih =>
      have failing' := failing.reaches beyond before
      have broken := failing'.broken ih.1
      cases turn with
      | of turn =>
          have broken' := broken.step (failing'.tended.step turn)
          refine ⟨broken'.loop, ?_, ?_⟩
          · exact broken'.tally.begins.trans (broken.tally.begins.symm.trans ih.2.1)
          · exact (failing'.tended.token_eq broken.nothing turn).trans ih.2.2

end Failing
end Watched

/-- What is seen of a loop whose ticker cannot be set up.  It logs in no more than
once and does not return.  Left alone it breaks, and from then on nobody logs in and
the token stays as it is, whatever happens. -/
structure Fails (timetable : Timetable) (watched : Watched) : Prop where
  begins : watched.log.begins = [] ∨ watched.log.begins = [timetable.start]
  ends : watched.log.ends = [] ∨ watched.log.ends = [timetable.ends 0]
  returned : watched.log.returned = none
  breaks : ∃ later, watched.ComesTo later ∧ later.world.loops = [.broken]
  silent : watched.world.loops = [.broken] →
    watched.log.ends = [timetable.ends 0] ∧ ∀ later, watched.Reaches later →
      later.world.loops = [.broken] ∧ later.log.begins = watched.log.begins ∧
        later.world.manager.token = watched.world.manager.token

theorem Watched.Failing.fails {timetable : Timetable} {watched : Watched}
    (beyond : ¬timetable.InRange) (failing : watched.Failing timetable) :
    Fails timetable watched := by
  rcases failing.exists_tally with ⟨begun, ended, tally, once, once'⟩
  have oneOf : ∀ (f : Nat → Instant) {count : Nat}, count ≤ 1 →
      (List.range count).map f = [] ∨ (List.range count).map f = [f 0] := by
    intro f count few
    rcases Nat.le_one_iff_eq_zero_or_eq_one.mp few with rfl | rfl
    · exact .inl rfl
    · exact .inr rfl
  constructor
  case begins => exact tally.begins ▸ oneOf timetable.begins once
  case ends => exact tally.ends ▸ oneOf timetable.ends once'
  case returned => exact failing.runs
  case breaks =>
    rcases failing.exists_broken beyond with ⟨steps, broken⟩
    exact ⟨_, OnTime.comesTo watched steps, broken⟩
  case silent =>
    intro loop
    exact ⟨(failing.broken loop).tally.ends, fun later => failing.of_broken beyond loop⟩

/-- A loop whose ticker can be set up does not break. -/
theorem Phase.not_broken {timetable : Timetable} {view : LoopView} {log : LoopLog}
    (phase : Phase timetable view log) : .broken ∉ view.loops := by
  cases phase with
  | asks _ _ _ loop | logsIn _ _ _ _ loop | rests _ _ _ loop | idles _ _ _ _ loop
  | ended _ _ loop => simp [loop]

end StorageTelemetry
