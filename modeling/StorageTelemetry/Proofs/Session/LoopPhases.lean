import Mathlib.Logic.Relation
import StorageTelemetry.Proofs.Session.LoopTurns
import StorageTelemetry.Proofs.Session.Timetable

namespace StorageTelemetry

/-!
# The phases of a refresh loop

A loop asks for the lock, logs in, rests for an instant and idles until its
ticker is due, over and over, until it is told to end.  In each phase the clock
lies within bounds that the timetable sets, so whatever was seen of the loop is
what the timetable says.
-/

/-! ## What is seen of a loop -/

/-- The return of a loop: when and why, and whether it was then told to shut
down. -/
structure LoopReturn where
  moment : Instant
  reason : LoopEnd
  shutdown : Bool
deriving DecidableEq

def LoopView.return? (view : LoopView) : Option LoopReturn :=
  match view.loops with
  | [.ended reason] => some ⟨view.clock, reason, view.shutdown⟩
  | _ => none

/-- What was seen of a loop so far: when its logins began and ended, when it
was first told to end, and its return. -/
structure LoopLog where
  begins : List Instant
  ends : List Instant
  told : Option Instant
  returned : Option LoopReturn
deriving DecidableEq

namespace LoopLog

/-- The log of a loop that starts.  It may have been told to end before. -/
def first (view : LoopView) : LoopLog :=
  ⟨[], [], if view.told then some view.clock else none, none⟩

/-- The log after a turn, from what is seen before and after it. -/
def after (log : LoopLog) (view next : LoopView) : LoopLog where
  begins := log.begins ++ if view.logins < next.logins then [next.clock] else []
  ends := log.ends ++ if view.loginEnd.isSome && next.loginEnd.isNone then [next.clock] else []
  told := log.told.or (if next.told then some next.clock else none)
  returned := log.returned.or next.return?

variable {log : LoopLog} {view next : LoopView}

theorem returned_after (runs : log.returned = none) (goesOn : next.return? = none) :
    (log.after view next).returned = none := by
  rw [after, runs, goesOn]
  rfl

theorem told_after_of_untold (untold : log.told = none) (still : next.told = false) :
    (log.after view next).told = none := by
  rw [after, untold, still]
  rfl

/-- A loop is told either before a turn or by it. -/
theorem told_after_cases {moment : Instant}
    (told : (log.after view next).told = some moment) :
    log.told = some moment ∨ (log.told = none ∧ next.told = true ∧ moment = next.clock) := by
  cases before : log.told with
  | some first =>
      rw [after, before, Option.some_or] at told
      exact .inl told
  | none =>
      rw [after, before, Option.none_or, Option.ite_none_right_eq_some] at told
      exact .inr ⟨rfl, told.1, (Option.some.inj told.2).symm⟩

end LoopLog

/-! ## Phases -/

namespace LoopView

/-- Whether nobody else refreshes. -/
def Alone (view : LoopView) (ticket : Ticket) : Prop :=
  ∀ other stage, other ≠ ticket → view.stage other = some stage → stage.isDone = true

/-- Whether all refreshes are over. -/
def AllDone (view : LoopView) : Prop :=
  ∀ ticket stage, view.stage ticket = some stage → stage.isDone = true

variable {view : LoopView} {ticket : Ticket} {ticker : Option Ticker} {stage : CallerStage}

theorem return?_of_refreshing (loop : view.loops = [.refreshing ticket ticker]) :
    view.return? = none := by
  simp only [return?, loop]

theorem return?_of_idle {ticker : Ticker} (loop : view.loops = [.idle ticker]) :
    view.return? = none := by
  simp only [return?, loop]

theorem put_self (view : LoopView) (ticket : Ticket) (stage : CallerStage) :
    (view.put ticket stage).stage ticket = some stage := if_pos rfl

theorem put_of_ne (view : LoopView) {ticket other : Ticket} (different : other ≠ ticket)
    (stage : CallerStage) : (view.put ticket stage).stage other = view.stage other :=
  if_neg (Ne.symm different)

theorem AllDone.put (done : view.AllDone) (ticket : Ticket) (stage : CallerStage) :
    (view.put ticket stage).Alone ticket := fun other stage' different found =>
  done other stage' ((view.put_of_ne different stage).symm.trans found)

theorem Alone.put (alone : view.Alone ticket) (stage : CallerStage) :
    (view.put ticket stage).Alone ticket := fun other stage' different found =>
  alone other stage' different ((view.put_of_ne different stage).symm.trans found)

theorem Alone.allDone (alone : view.Alone ticket) (own : view.stage ticket = some stage)
    (done : stage.isDone = true) : view.AllDone := by
  intro other stage' found
  by_cases same : other = ticket
  · subst same
    exact Option.some.inj (own.symm.trans found) ▸ done
  · exact alone other stage' same found

/-- Only the loop's own refresh is not done. -/
theorem Alone.eq_of_busy (alone : view.Alone ticket) {other : Ticket}
    (found : view.stage other = some stage) (busy : stage.isDone = false) : other = ticket := by
  by_contra different
  exact absurd (alone other stage different found) (by simp [busy])

/-- Time does not pass while the loop asks for a login. -/
theorem Alone.ne_waiting (alone : view.Alone ticket) {moment : Instant} (calm : view.Calm moment) :
    view.stage ticket ≠ some (.waiting .refresh) := by
  intro own
  refine calm.free (fun other => ⟨fun logsIn => ?_, fun stores => ?_⟩) ticket own
  · obtain rfl := alone.eq_of_busy logsIn rfl
    cases own.symm.trans logsIn
  · obtain rfl := alone.eq_of_busy stores rfl
    cases own.symm.trans stores

end LoopView

/-- What a loop has come to after some logins were begun and some ended. -/
structure Tally (timetable : Timetable) (view : LoopView) (log : LoopLog) (begun ended : Nat) :
    Prop where
  plan : view.plan = timetable.plan
  period : view.period = timetable.period
  logins : view.logins = begun
  begins : log.begins = (List.range begun).map timetable.begins
  ends : log.ends = (List.range ended).map timetable.ends

/-- What a loop knows of being told to end, that has begun its last login or is
to begin it now. -/
structure Heeds (timetable : Timetable) (view : LoopView) (log : LoopLog) (n : Nat) : Prop where
  known : log.told.isSome = view.told
  since : ∀ moment, log.told = some moment → timetable.begins n ≤ moment
  soFar : ∀ moment, log.told = some moment → moment ≤ view.clock

/-- Where a loop stands on its timetable. -/
inductive Phase (timetable : Timetable) (view : LoopView) (log : LoopLog) : Prop
  | asks {n : Nat} {ticket : Ticket} (tally : Tally timetable view log n n)
      (clock : view.clock = timetable.begins n) (nothing : view.loginEnd = none)
      (loop : view.loops = [.refreshing ticket (timetable.held n)])
      (own : view.stage ticket = some (.waiting .refresh)) (alone : view.Alone ticket)
      (heeds : Heeds timetable view log n) (runs : log.returned = none)
  | logsIn {n : Nat} {ticket : Ticket} (tally : Tally timetable view log (n + 1) n)
      (begun : timetable.begins n ≤ view.clock) (inTime : view.clock ≤ timetable.ends n)
      (planned : view.loginEnd = some (timetable.ends n, (timetable.plan n).result))
      (loop : view.loops = [.refreshing ticket (timetable.held n)])
      (own : view.stage ticket = some .loggingIn) (alone : view.Alone ticket)
      (heeds : Heeds timetable view log n) (runs : log.returned = none)
  | rests {n : Nat} {ticket : Ticket} {succeeded : Bool}
      (tally : Tally timetable view log (n + 1) (n + 1))
      (clock : view.clock = timetable.ends n) (nothing : view.loginEnd = none)
      (loop : view.loops = [.refreshing ticket (timetable.held n)])
      (own : view.stage ticket = some (.refreshed succeeded)) (done : view.AllDone)
      (heeds : Heeds timetable view log n) (runs : log.returned = none)
  | idles {n : Nat} (tally : Tally timetable view log (n + 1) (n + 1))
      (rested : timetable.ends n ≤ view.clock)
      (inTime : view.clock ≤ timetable.begins (n + 1)) (nothing : view.loginEnd = none)
      (loop : view.loops = [.idle (timetable.ticker n)]) (done : view.AllDone)
      (heeds : Heeds timetable view log n)
      (atOnce : ∀ moment, log.told = some moment → view.clock = max moment (timetable.ends n))
      (runs : log.returned = none)
  | ended {n : Nat} {moment : Instant} {last : LoopReturn}
      (tally : Tally timetable view log (n + 1) (n + 1)) (nothing : view.loginEnd = none)
      (loop : view.loops = [.ended last.reason]) (done : view.AllDone)
      (heeds : Heeds timetable view log n) (told : log.told = some moment)
      (atOnce : last.moment = max moment (timetable.ends n))
      (inTime : last.moment ≤ timetable.begins (n + 1))
      (reason : last.reason = if last.shutdown then .shutDown else .stopped)
      (returned : log.returned = some last)

namespace Tally

variable {timetable : Timetable} {view next : LoopView} {log : LoopLog} {begun ended : Nat}

theorem length_begins (tally : Tally timetable view log begun ended) :
    log.begins.length = begun := by
  rw [tally.begins, List.length_map, List.length_range]

theorem length_ends (tally : Tally timetable view log begun ended) : log.ends.length = ended := by
  rw [tally.ends, List.length_map, List.length_range]

/-- No login begins or ends. -/
theorem same (tally : Tally timetable view log begun ended) (plan : next.plan = view.plan)
    (period : next.period = view.period) (logins : next.logins = view.logins)
    (loginEnd : next.loginEnd = view.loginEnd) :
    Tally timetable next (log.after view next) begun ended where
  plan := plan.trans tally.plan
  period := period.trans tally.period
  logins := logins.trans tally.logins
  begins := by simp [LoopLog.after, logins, tally.begins]
  ends := by
    have neither : (view.loginEnd.isSome && view.loginEnd.isNone) = false := by
      cases view.loginEnd <;> rfl
    simp only [LoopLog.after, loginEnd, neither, tally.ends, Bool.false_eq_true, if_false,
      List.append_nil]

theorem begin (tally : Tally timetable view log begun ended) (plan : next.plan = view.plan)
    (period : next.period = view.period) (logins : next.logins = view.logins + 1)
    (nothing : view.loginEnd = none) (clock : next.clock = timetable.begins begun) :
    Tally timetable next (log.after view next) (begun + 1) ended where
  plan := plan.trans tally.plan
  period := period.trans tally.period
  logins := logins.trans (congrArg (· + 1) tally.logins)
  begins := by simp [LoopLog.after, logins, clock, tally.begins, List.range_succ]
  ends := by simp [LoopLog.after, nothing, tally.ends]

theorem finish (tally : Tally timetable view log begun ended) (plan : next.plan = view.plan)
    (period : next.period = view.period) (logins : next.logins = view.logins)
    (planned : view.loginEnd.isSome = true) (closed : next.loginEnd = none)
    (clock : next.clock = timetable.ends ended) :
    Tally timetable next (log.after view next) begun (ended + 1) where
  plan := plan.trans tally.plan
  period := period.trans tally.period
  logins := logins.trans tally.logins
  begins := by simp [LoopLog.after, logins, tally.begins]
  ends := by simp [LoopLog.after, planned, closed, clock, tally.ends, List.range_succ]

end Tally

namespace Heeds

variable {timetable : Timetable} {view next : LoopView} {log : LoopLog} {n : Nat}

/-- What is told stays told, and the first moment stays the first. -/
theorem after (heeds : Heeds timetable view log n) (begun : timetable.begins n ≤ view.clock)
    (forward : view.clock ≤ next.clock) (kept : view.told = true → next.told = true) :
    Heeds timetable next (log.after view next) n where
  known := by
    have known := heeds.known
    cases told : log.told with
    | some moment =>
        rw [told, Option.isSome_some] at known
        rw [LoopLog.after, told, kept known.symm]
        rfl
    | none =>
        rw [LoopLog.after, told, Option.none_or]
        cases next.told <;> rfl
  since := by
    intro moment told
    rcases LoopLog.told_after_cases told with before | ⟨-, -, rfl⟩
    · exact heeds.since moment before
    · exact Nat.le_trans begun forward
  soFar := by
    intro moment told
    rcases LoopLog.told_after_cases told with before | ⟨-, -, rfl⟩
    · exact Nat.le_trans (heeds.soFar moment before) forward
    · exact Nat.le_refl _

theorem of_untold (silent : log.told = none) (untold : view.told = false) :
    Heeds timetable view log n where
  known := by rw [silent, untold, Option.isSome_none]
  since moment told := by cases silent.symm.trans told
  soFar moment told := by cases silent.symm.trans told

theorem untold (heeds : Heeds timetable view log n) (untold : view.told = false) :
    log.told = none := by
  have known := heeds.known
  rwa [untold, Option.isSome_eq_false_iff, Option.isNone_iff_eq_none] at known

end Heeds

namespace Phase

variable {timetable : Timetable} {view next : LoopView} {log : LoopLog} {n : Nat} {ticket : Ticket}

theorem ticket_of_loop {other : Ticket} {ticker ticker' : Option Ticker}
    (loop : view.loops = [.refreshing ticket ticker])
    (same : view.loops = [.refreshing other ticker']) : other = ticket ∧ ticker' = ticker := by
  simpa using same.symm.trans loop

theorem of_asks (tally : Tally timetable view log n n)
    (clock : view.clock = timetable.begins n) (nothing : view.loginEnd = none)
    (loop : view.loops = [.refreshing ticket (timetable.held n)])
    (own : view.stage ticket = some (.waiting .refresh)) (alone : view.Alone ticket)
    (heeds : Heeds timetable view log n) (runs : log.returned = none) (step : view.Step next) :
    Phase timetable next (log.after view next) := by
  have begun : timetable.begins n ≤ view.clock := Nat.le_of_eq clock.symm
  cases step with
  | aside kept =>
      exact .asks (tally.same rfl rfl rfl rfl) clock nothing loop own alone
        (heeds.after begun (Nat.le_refl _) kept)
        (LoopLog.returned_after runs (LoopView.return?_of_refreshing loop))
  | @begin other asks =>
      obtain rfl : ticket = other := (alone.eq_of_busy asks rfl).symm
      refine .logsIn (tally.begin rfl rfl rfl nothing clock) begun ?_ ?_ loop
        (view.put_self ticket .loggingIn) (alone.put _) (heeds.after begun (Nat.le_refl _) id)
        (LoopLog.returned_after runs (LoopView.return?_of_refreshing loop))
      · exact clock ▸ timetable.ends_eq n ▸ Nat.le_add_right _ _
      · simp only [tally.plan, tally.logins, clock, timetable.ends_eq n]
  | finish planned => cases nothing.symm.trans planned
  | rest refreshes refreshed =>
      obtain ⟨rfl, -⟩ := ticket_of_loop loop refreshes
      cases own.symm.trans refreshed
  | fire _ idles | ends idles => cases loop.symm.trans idles
  | pass calm => exact absurd own (alone.ne_waiting calm)

theorem of_logsIn (tally : Tally timetable view log (n + 1) n)
    (begun : timetable.begins n ≤ view.clock) (inTime : view.clock ≤ timetable.ends n)
    (planned : view.loginEnd = some (timetable.ends n, (timetable.plan n).result))
    (loop : view.loops = [.refreshing ticket (timetable.held n)])
    (own : view.stage ticket = some .loggingIn) (alone : view.Alone ticket)
    (heeds : Heeds timetable view log n) (runs : log.returned = none) (step : view.Step next) :
    Phase timetable next (log.after view next) := by
  cases step with
  | aside kept =>
      exact .logsIn (tally.same rfl rfl rfl rfl) begun inTime planned loop own alone
        (heeds.after begun (Nat.le_refl _) kept)
        (LoopLog.returned_after runs (LoopView.return?_of_refreshing loop))
  | begin asks =>
      obtain rfl := alone.eq_of_busy asks rfl
      cases own.symm.trans asks
  | @finish other time result ends due logsIn =>
      obtain rfl : ticket = other := (alone.eq_of_busy logsIn rfl).symm
      obtain ⟨rfl, rfl⟩ : timetable.ends n = time ∧ (timetable.plan n).result = result := by
        simpa using planned.symm.trans ends
      have refreshed := view.put_self ticket (.refreshed (timetable.plan n).result.isOk)
      have clock : view.clock = timetable.ends n := Nat.le_antisymm inTime due
      exact .rests (tally.finish rfl rfl rfl (by rw [planned]; rfl) rfl clock) clock rfl loop
        refreshed ((alone.put _).allDone refreshed rfl) (heeds.after begun (Nat.le_refl _) id)
        (LoopLog.returned_after runs (LoopView.return?_of_refreshing loop))
  | rest refreshes refreshed =>
      obtain ⟨rfl, -⟩ := ticket_of_loop loop refreshes
      cases own.symm.trans refreshed
  | fire _ idles | ends idles => cases loop.symm.trans idles
  | pass calm =>
      exact .logsIn (tally.same rfl rfl rfl rfl) (Nat.le_trans begun calm.forward)
        (calm.login _ _ planned) planned loop own alone (heeds.after begun calm.forward id)
        (LoopLog.returned_after runs (LoopView.return?_of_refreshing loop))

theorem of_rests (inRange : timetable.InRange) {succeeded : Bool}
    (tally : Tally timetable view log (n + 1) (n + 1))
    (clock : view.clock = timetable.ends n) (nothing : view.loginEnd = none)
    (loop : view.loops = [.refreshing ticket (timetable.held n)])
    (own : view.stage ticket = some (.refreshed succeeded)) (done : view.AllDone)
    (heeds : Heeds timetable view log n) (runs : log.returned = none) (step : view.Step next) :
    Phase timetable next (log.after view next) := by
  have begun : timetable.begins n ≤ view.clock := clock ▸ timetable.begins_le_ends n
  cases step with
  | aside kept =>
      exact .rests (tally.same rfl rfl rfl rfl) clock nothing loop own done
        (heeds.after begun (Nat.le_refl _) kept)
        (LoopLog.returned_after runs (LoopView.return?_of_refreshing loop))
  | begin asks => cases done _ _ asks
  | finish planned => cases nothing.symm.trans planned
  | rest refreshes refreshed =>
      obtain ⟨rfl, rfl⟩ := ticket_of_loop loop refreshes
      have idles : [RefreshLoop.afterRefresh view.period view.clock (timetable.held n)] =
          [.idle (timetable.ticker n)] := by
        rw [tally.period, clock, timetable.afterRefresh_held n inRange]
      refine .idles (tally.same rfl rfl rfl rfl) (Nat.le_of_eq clock.symm) ?_ nothing idles done
        (heeds.after begun (Nat.le_refl _) id) ?_
        (LoopLog.returned_after runs (LoopView.return?_of_idle idles))
      · exact clock ▸ timetable.ends_le_begins n
      · intro moment told
        have soFar : moment ≤ view.clock := by
          rcases LoopLog.told_after_cases told with before | ⟨-, -, rfl⟩
          · exact heeds.soFar moment before
          · exact Nat.le_refl _
        exact clock ▸ (Nat.max_eq_right soFar).symm
  | fire _ idles | ends idles => cases loop.symm.trans idles
  | pass calm => exact absurd own (calm.refreshing _ _ _ loop)

theorem of_idles (tally : Tally timetable view log (n + 1) (n + 1))
    (rested : timetable.ends n ≤ view.clock)
    (inTime : view.clock ≤ timetable.begins (n + 1)) (nothing : view.loginEnd = none)
    (loop : view.loops = [.idle (timetable.ticker n)]) (done : view.AllDone)
    (heeds : Heeds timetable view log n)
    (atOnce : ∀ moment, log.told = some moment → view.clock = max moment (timetable.ends n))
    (runs : log.returned = none) (step : view.Step next) :
    Phase timetable next (log.after view next) := by
  have begun := Nat.le_trans (timetable.begins_le_ends n) rested
  cases step with
  | aside kept =>
      refine .idles (tally.same rfl rfl rfl rfl) rested inTime nothing loop done
        (heeds.after begun (Nat.le_refl _) kept) ?_
        (LoopLog.returned_after runs (LoopView.return?_of_idle loop))
      intro moment told
      rcases LoopLog.told_after_cases told with before | ⟨-, -, rfl⟩
      · exact atOnce moment before
      · exact (Nat.max_eq_left rested).symm
  | begin asks => cases done _ _ asks
  | finish planned => cases nothing.symm.trans planned
  | rest refreshes => cases loop.symm.trans refreshes
  | @fire ticker other idles untold due =>
      obtain rfl : timetable.ticker n = ticker := by simpa using loop.symm.trans idles
      have clock : view.clock = timetable.begins (n + 1) :=
        Nat.le_antisymm inTime (Nat.max_le.mpr ⟨rested, due⟩)
      have fired : [RefreshLoop.refreshing other (some ((timetable.ticker n).fire view.clock))] =
          [.refreshing other (timetable.held (n + 1))] := by
        rw [clock]
        rfl
      have silent : (log.after view _).told = none :=
        LoopLog.told_after_of_untold (heeds.untold untold) untold
      exact .asks (tally.same rfl rfl rfl rfl) clock nothing fired (view.put_self _ _)
        (done.put _ _) (.of_untold silent untold)
        (LoopLog.returned_after runs (LoopView.return?_of_refreshing fired))
  | ends idles told =>
      obtain ⟨moment, heard⟩ := Option.isSome_iff_exists.mp (heeds.known.trans told)
      let last : LoopReturn := ⟨view.clock, view.reason, view.shutdown⟩
      have returns : last.moment = max moment (timetable.ends n) := atOnce moment heard
      refine .ended (tally.same rfl rfl rfl rfl) nothing rfl done
        (heeds.after begun (Nat.le_refl _) id) ?_ returns inTime rfl ?_
      · rw [LoopLog.after, heard, Option.some_or]
      · rw [LoopLog.after, runs, Option.none_or]
        rfl
  | pass calm =>
      obtain ⟨untold, due⟩ := calm.idle _ loop
      refine .idles (tally.same rfl rfl rfl rfl) (Nat.le_trans rested calm.forward)
        (Nat.le_trans due (timetable.due_le_begins n)) nothing loop done
        (heeds.after begun calm.forward id) ?_
        (LoopLog.returned_after runs (LoopView.return?_of_idle loop))
      intro moment told
      rcases LoopLog.told_after_cases told with before | ⟨-, now, -⟩
      · cases (heeds.untold untold).symm.trans before
      · cases untold.symm.trans now

theorem of_ended {moment : Instant} {last : LoopReturn}
    (tally : Tally timetable view log (n + 1) (n + 1)) (nothing : view.loginEnd = none)
    (loop : view.loops = [.ended last.reason]) (done : view.AllDone)
    (heeds : Heeds timetable view log n) (told : log.told = some moment)
    (atOnce : last.moment = max moment (timetable.ends n))
    (inTime : last.moment ≤ timetable.begins (n + 1))
    (reason : last.reason = if last.shutdown then .shutDown else .stopped)
    (returned : log.returned = some last) (step : view.Step next) :
    Phase timetable next (log.after view next) := by
  have told' : (log.after view next).told = some moment := by
    rw [LoopLog.after, told, Option.some_or]
  have returned' : (log.after view next).returned = some last := by
    rw [LoopLog.after, returned, Option.some_or]
  have begun := Nat.le_trans (heeds.since moment told) (heeds.soFar moment told)
  cases step with
  | aside kept =>
      exact .ended (tally.same rfl rfl rfl rfl) nothing loop done
        (heeds.after begun (Nat.le_refl _) kept) told' atOnce inTime reason returned'
  | pass calm =>
      exact .ended (tally.same rfl rfl rfl rfl) nothing loop done
        (heeds.after begun calm.forward id) told' atOnce inTime reason returned'
  | begin asks => cases done _ _ asks
  | finish planned => cases nothing.symm.trans planned
  | rest other | fire _ other | ends other => cases loop.symm.trans other

/-- A step keeps the loop on its timetable. -/
theorem step (inRange : timetable.InRange) (phase : Phase timetable view log)
    (step : view.Step next) : Phase timetable next (log.after view next) := by
  cases phase with
  | asks tally clock nothing loop own alone heeds runs =>
      exact of_asks tally clock nothing loop own alone heeds runs step
  | logsIn tally begun inTime planned loop own alone heeds runs =>
      exact of_logsIn tally begun inTime planned loop own alone heeds runs step
  | rests tally clock nothing loop own done heeds runs =>
      exact of_rests inRange tally clock nothing loop own done heeds runs step
  | idles tally rested inTime nothing loop done heeds atOnce runs =>
      exact of_idles tally rested inTime nothing loop done heeds atOnce runs step
  | ended tally nothing loop done heeds told atOnce inTime reason returned =>
      exact of_ended tally nothing loop done heeds told atOnce inTime reason returned step

/-- There is one loop. -/
theorem single (phase : Phase timetable view log) : view.loops.length = 1 := by
  cases phase with
  | asks _ _ _ loop | logsIn _ _ _ _ loop | rests _ _ _ loop | idles _ _ _ _ loop
  | ended _ _ loop =>
      rw [loop]
      rfl

/-- Who logs in is the loop's own refresh. -/
theorem exists_loggingIn (phase : Phase timetable view log) (underWay : view.loginEnd ≠ none) :
    ∃ ticket, view.stage ticket = some .loggingIn := by
  cases phase with
  | logsIn _ _ _ _ _ own => exact ⟨_, own⟩
  | asks _ _ nothing | rests _ _ nothing | idles _ _ _ nothing | ended _ nothing =>
      exact absurd nothing underWay

end Phase

/-! ## Sessions on their timetable -/

/-- A session, with what was seen of its loop. -/
structure Watched where
  world : SessionWorld
  log : LoopLog

namespace Watched

/-- A turn of the session is seen at once. -/
inductive Turn (watched : Watched) : Watched → Prop
  | of {next : SessionWorld} (turn : watched.world.Turn next) :
      Turn watched ⟨next, watched.log.after watched.world.view next.view⟩

/-- Some turns lead from one state to another. -/
abbrev Reaches : Watched → Watched → Prop := Relation.ReflTransGen Turn

structure OnTime (timetable : Timetable) (watched : Watched) : Prop where
  sound : watched.world.manager.Sound
  phase : Phase timetable watched.world.view watched.log

namespace OnTime

variable {timetable : Timetable} {watched next : Watched}

theorem tended (onTime : watched.OnTime timetable) : watched.world.Tended where
  sound := onTime.sound
  single := Nat.le_of_eq onTime.phase.single
  logsIn underWay := by
    obtain ⟨ticket, logsIn⟩ := onTime.phase.exists_loggingIn underWay
    exact ⟨ticket, (SessionWorld.stage_eq_some_iff.mp logsIn).1⟩

theorem turn (inRange : timetable.InRange) (onTime : watched.OnTime timetable)
    (turn : watched.Turn next) : next.OnTime timetable := by
  cases turn with
  | of turn =>
      exact ⟨turn.sound onTime.sound, onTime.phase.step inRange (onTime.tended.step turn)⟩

theorem reaches (inRange : timetable.InRange) (onTime : watched.OnTime timetable)
    (reaches : watched.Reaches next) : next.OnTime timetable := by
  induction reaches with
  | refl => exact onTime
  | tail _ turn ih => exact ih.turn inRange turn

end OnTime
end Watched
end StorageTelemetry
