import StorageTelemetry.Proofs.Session.LoopProgress

namespace StorageTelemetry

/-!
# When a refresh loop logs in, and when it returns

A loop that starts logs in at once, and then goes by its timetable until it is
told to end.  Whoever stops a session or shuts it down may do so at any moment,
also before the loop starts: a login under way is finished first, and none
begins after it.  If the loop has to wait for nothing, it returns at the moment
at which it is told.
-/

/-! ## Sessions before their loop -/

/-- A session in which no loop has started. -/
structure Fresh (plan : Nat → Login) (period : Nat) (view : LoopView) : Prop where
  plan : view.plan = plan
  period : view.period = period
  logins : view.logins = 0
  nothing : view.loginEnd = none
  loops : view.loops = []
  done : view.AllDone

namespace Fresh

variable {plan : Nat → Login} {period : Nat}

theorem step {view next : LoopView} (fresh : Fresh plan period view) (step : view.Step next) :
    Fresh plan period next := by
  cases step with
  | aside | pass => exact { fresh with }
  | begin asks => cases fresh.done _ _ asks
  | finish planned => cases fresh.nothing.symm.trans planned
  | rest loop | fire _ loop | ends loop => cases fresh.loops.symm.trans loop

variable {before : SessionWorld}

theorem tended (sound : before.manager.Sound) (fresh : Fresh plan period before.view) :
    before.Tended where
  sound := sound
  single := by
    have loops : before.loops = [] := fresh.loops
    simp [loops]
  logsIn underWay := absurd fresh.nothing underWay

theorem of_turns (turns : Relation.ReflTransGen SessionWorld.Turn (.start plan period) before) :
    before.manager.Sound ∧ Fresh plan period before.view := by
  induction turns with
  | refl =>
      refine ⟨TokenManager.sound_initial, rfl, rfl, rfl, rfl, rfl, ?_⟩
      intro ticket stage found
      cases found
  | tail _ turn ih =>
      obtain ⟨sound, fresh⟩ := ih
      exact ⟨turn.sound sound, fresh.step ((fresh.tended sound).step turn)⟩

end Fresh

/-! ## What is seen of a loop -/

/-- Whether no login is under way and nobody asks for one. -/
def SessionWorld.Free (world : SessionWorld) : Prop :=
  world.loginEnd = none ∧
    ∀ ticket, world.manager.callers.get? ticket ≠ some (.waiting .refresh)

namespace Watched

/-- A session whose loop starts. -/
def first (before : SessionWorld) : Watched :=
  ⟨before.startLoop, .first before.startLoop.view⟩

/-- Whether a session comes to another one by itself. -/
def ComesTo (watched later : Watched) : Prop :=
  watched.Reaches later ∧
    ∃ steps, later.world = SessionWorld.runUntil (fun _ => false) none steps watched.world

theorem OnTime.first {plan : Nat → Login} {period : Nat} {before : SessionWorld}
    (turns : Relation.ReflTransGen SessionWorld.Turn (.start plan period) before) :
    (first before).OnTime ⟨plan, period, before.clock⟩ := by
  obtain ⟨sound, fresh⟩ := Fresh.of_turns turns
  have callers : (before.manager.request .refresh).callers =
      before.manager.callers.put before.manager.nextTicket (.waiting .refresh) := rfl
  have stages : before.startLoop.view.stage =
      (before.view.put before.manager.nextTicket (.waiting .refresh)).stage :=
    TokenManager.refreshStage?_put callers rfl
  have loops : before.startLoop.view.loops =
      [.refreshing before.manager.nextTicket none] := by
    have none : before.loops = [] := fresh.loops
    simp only [SessionWorld.view, SessionWorld.startLoop, none, List.nil_append]
  refine ⟨sound.request .refresh, .asks ⟨fresh.plan, fresh.period, fresh.logins, rfl, rfl⟩ rfl
    fresh.nothing loops ?_ ?_ ⟨?_, ?_, ?_⟩ rfl⟩
  · exact (congrFun stages _).trans (before.view.put_self _ _)
  · intro other stage different found
    exact fresh.done.put _ _ other stage different ((congrFun stages other).symm.trans found)
  · cases told : before.startLoop.view.told <;> simp [Watched.first, LoopLog.first, told]
  · intro moment told
    exact Nat.le_of_eq (Option.some.inj (Option.ite_none_right_eq_some.mp told).2)
  · intro moment told
    exact Nat.le_of_eq (Option.some.inj (Option.ite_none_right_eq_some.mp told).2).symm

/-! ## Being told to end -/

variable {timetable : Timetable} {watched later : Watched}

/-- In each phase a loop heeds that it is told to end. -/
theorem OnTime.exists_heeds (onTime : watched.OnTime timetable) :
    ∃ begun last, begun ≤ last + 1 ∧
      watched.log.begins = (List.range begun).map timetable.begins ∧
      Heeds timetable watched.world.view watched.log last := by
  cases onTime.phase with
  | asks tally _ _ _ _ _ heeds => exact ⟨_, _, Nat.le_succ _, tally.begins, heeds⟩
  | logsIn tally _ _ _ _ _ _ heeds | rests tally _ _ _ _ _ heeds | idles tally _ _ _ _ _ heeds
  | ended tally _ _ _ heeds => exact ⟨_, _, Nat.le_refl _, tally.begins, heeds⟩

theorem OnTime.isSome_told (onTime : watched.OnTime timetable) :
    watched.log.told.isSome = (watched.world.shutdown || watched.world.stopped) := by
  obtain ⟨begun, last, bound, begins, heeds⟩ := onTime.exists_heeds
  exact heeds.known

/-- No login begins after the moment at which the loop is told to end. -/
theorem OnTime.begins_le_told (onTime : watched.OnTime timetable) {moment : Instant}
    (told : watched.log.told = some moment) {login : Instant} (seen : login ∈ watched.log.begins) :
    login ≤ moment := by
  obtain ⟨begun, last, bound, begins, heeds⟩ := onTime.exists_heeds
  rw [begins] at seen
  obtain ⟨n, listed, rfl⟩ := List.mem_map.mp seen
  have before : n < last + 1 := Nat.lt_of_lt_of_le (List.mem_range.mp listed) bound
  have order := timetable.begins_monotone (Nat.lt_succ_iff.mp before)
  exact Nat.le_trans order (heeds.since moment told)

theorem told_of_reaches {moment : Instant} (told : watched.log.told = some moment)
    (reaches : watched.Reaches later) : later.log.told = some moment := by
  induction reaches with
  | refl => exact told
  | tail _ turn ih =>
      cases turn with
      | of turn => rw [LoopLog.after, ih, Option.some_or]

/-- Logins begin and end by turns. -/
theorem OnTime.exists_tally (onTime : watched.OnTime timetable) :
    ∃ begun ended, Tally timetable watched.world.view watched.log begun ended ∧
      (ended = begun ∨ begun = ended + 1) := by
  cases onTime.phase with
  | asks tally | rests tally | idles tally | ended tally => exact ⟨_, _, tally, .inl rfl⟩
  | logsIn tally => exact ⟨_, _, tally, .inr rfl⟩

/-- A loop that is told to end returns: it would log in later than it may. -/
theorem OnTime.exists_return (inRange : timetable.InRange) (onTime : watched.OnTime timetable)
    (told : watched.log.told ≠ none) :
    ∃ steps, (onward^[steps] watched).log.returned ≠ none := by
  obtain ⟨moment, told⟩ := Option.ne_none_iff_exists'.mp told
  obtain ⟨steps, many | returned⟩ := onTime.exists_ends inRange (moment + 2)
  · have reaches := reaches_iterate_onward steps watched
    have later := onTime.reaches inRange reaches
    obtain ⟨begun, ended, tally, turns⟩ := later.exists_tally
    have fewer : ended ≤ begun := by
      rcases turns with rfl | rfl
      · exact Nat.le_refl _
      · exact Nat.le_succ _
    have count : moment + 1 < begun := by
      rw [tally.length_ends] at many
      exact Nat.lt_of_lt_of_le many fewer
    have seen : timetable.begins (moment + 1) ∈ (onward^[steps] watched).log.begins := by
      rw [tally.begins]
      exact List.mem_map_of_mem (List.mem_range.mpr count)
    have early := later.begins_le_told (told_of_reaches told reaches) seen
    have late := timetable.le_begins (moment + 1) inRange.1
    exact absurd (Nat.le_trans late early) (Nat.not_succ_le_self moment)
  · exact ⟨steps, returned⟩

end Watched

/-- Whether a loop is told to end while nobody refreshes. -/
structure LoopView.Closed (view : LoopView) : Prop where
  told : view.told = true
  nothing : view.loginEnd = none
  done : view.AllDone

theorem LoopView.Closed.step {view next : LoopView} (closed : view.Closed) (step : view.Step next) :
    next.Closed ∧ next.logins = view.logins := by
  cases step with
  | aside kept => exact ⟨⟨kept closed.told, closed.nothing, closed.done⟩, rfl⟩
  | begin asks => cases closed.done _ _ asks
  | finish planned => cases closed.nothing.symm.trans planned
  | fire _ _ untold => cases closed.told.symm.trans untold
  | rest | ends | pass => exact ⟨⟨closed.told, closed.nothing, closed.done⟩, rfl⟩

namespace Watched

variable {timetable : Timetable} {watched later : Watched}

theorem OnTime.closed (onTime : watched.OnTime timetable) (told : watched.log.told ≠ none)
    (free : watched.world.Free) : watched.world.view.Closed := by
  have heard : watched.world.view.told = true :=
    onTime.isSome_told.symm.trans (Option.isSome_iff_ne_none.mpr told)
  refine ⟨heard, free.1, ?_⟩
  cases onTime.phase with
  | asks _ _ _ _ own => exact absurd (SessionWorld.stage_eq_some_iff.mp own).1 (free.2 _)
  | logsIn _ _ _ planned => cases free.1.symm.trans planned
  | rests _ _ _ _ _ done | idles _ _ _ _ _ done | ended _ _ _ done => exact done

theorem OnTime.begins_of_closed (inRange : timetable.InRange) (onTime : watched.OnTime timetable)
    (closed : watched.world.view.Closed) (reaches : watched.Reaches later) :
    later.log.begins = watched.log.begins := by
  suffices later.world.view.Closed ∧ later.log.begins = watched.log.begins from this.2
  induction reaches with
  | refl => exact ⟨closed, rfl⟩
  | tail before turn ih =>
      have onTime := onTime.reaches inRange before
      obtain ⟨closed, same⟩ := ih
      cases turn with
      | of turn =>
          obtain ⟨closed', logins⟩ := closed.step (onTime.tended.step turn)
          exact ⟨closed', by simp [LoopLog.after, logins, same]⟩

end Watched

/-! ## The whole life of a loop -/

/-- The return of a loop that was first told to end at a moment: it returns at
once, or else at the end of the login then under way, the one of number `n`. -/
structure Returned (timetable : Timetable) (watched : Watched) (last : LoopReturn) (n : Nat)
    (moment : Instant) : Prop where
  begun : watched.log.begins.length = n + 1
  ended : watched.log.ends.length = n + 1
  told : watched.log.told = some moment
  since : timetable.begins n ≤ moment
  atOnce : last.moment = max moment (timetable.ends n)
  inTime : last.moment ≤ timetable.begins (n + 1)
  loop : watched.world.loops = [.ended last.reason]
  result : last.reason.result = if last.shutdown then .error .cancelled else .ok ()
  free : watched.world.Free

/-- What is seen of a loop at any moment, and what will be.  The logins so far
are the first ones of the timetable, and the next one is not late: time does not
pass before the first, beyond the end of one that is under way, or beyond the
beginning of the next.  Once the loop is told to end, time does not pass between
logins either, and none begins any more.  Left alone the loop logs in as often as
one likes or returns, and if it is told to end it returns. -/
structure Keeps (timetable : Timetable) (watched : Watched) : Prop where
  begins : watched.log.begins =
    (List.range watched.log.begins.length).map timetable.begins
  ends : watched.log.ends = (List.range watched.log.ends.length).map timetable.ends
  byTurns : watched.log.ends.length = watched.log.begins.length ∨
    watched.log.begins.length = watched.log.ends.length + 1
  told : watched.log.told.isSome = (watched.world.shutdown || watched.world.stopped)
  notLater : ∀ moment, watched.log.told = some moment →
    ∀ begun ∈ watched.log.begins, begun ≤ moment
  first : watched.log.begins = [] →
    watched.world.clock = timetable.start ∧ watched.log.returned = none
  underWay : ∀ n, watched.log.begins.length = n + 1 → watched.log.ends.length = n →
    timetable.begins n ≤ watched.world.clock ∧ watched.world.clock ≤ timetable.ends n ∧
      watched.log.returned = none
  between : ∀ n, watched.log.begins.length = n + 1 → watched.log.ends.length = n + 1 →
    watched.log.returned = none →
      timetable.ends n ≤ watched.world.clock ∧ watched.world.clock ≤ timetable.begins (n + 1) ∧
        ∀ moment, watched.log.told = some moment →
          watched.world.clock = max moment (timetable.ends n)
  returned : ∀ last, watched.log.returned = some last →
    ∃ n moment, Returned timetable watched last n moment
  closed : watched.log.told ≠ none → watched.world.Free →
    ∀ later, watched.Reaches later → later.log.begins = watched.log.begins
  goesOn : ∀ count, ∃ later, watched.ComesTo later ∧
    (count ≤ later.log.ends.length ∨ later.log.returned ≠ none)
  returns : watched.log.told ≠ none →
    ∃ later, watched.ComesTo later ∧ later.log.returned ≠ none

namespace Watched.OnTime

variable {timetable : Timetable} {watched : Watched}

theorem notYet (onTime : watched.OnTime timetable) (none : watched.log.begins = []) :
    watched.world.clock = timetable.start ∧ watched.log.returned = .none := by
  cases onTime.phase with
  | @asks n _ tally clock _ _ _ _ _ runs =>
      obtain rfl : n = 0 := by rw [← tally.length_begins, none, List.length_nil]
      exact ⟨clock, runs⟩
  | logsIn tally | rests tally | idles tally | ended tally =>
      have some := tally.length_begins
      rw [none] at some
      cases some

theorem underWay (onTime : watched.OnTime timetable) {n : Nat}
    (begun : watched.log.begins.length = n + 1) (ended : watched.log.ends.length = n) :
    timetable.begins n ≤ watched.world.clock ∧ watched.world.clock ≤ timetable.ends n ∧
      watched.log.returned = none := by
  cases onTime.phase with
  | @logsIn last _ tally since inTime _ _ _ _ _ runs =>
      obtain rfl : last = n := tally.length_ends.symm.trans ended
      exact ⟨since, inTime, runs⟩
  | asks tally | rests tally | idles tally | ended tally =>
      have same := tally.length_begins.trans tally.length_ends.symm
      rw [begun, ended] at same
      exact absurd same (Nat.succ_ne_self n)

theorem between (onTime : watched.OnTime timetable) {n : Nat}
    (begun : watched.log.begins.length = n + 1) (ended : watched.log.ends.length = n + 1)
    (goesOn : watched.log.returned = none) :
    timetable.ends n ≤ watched.world.clock ∧ watched.world.clock ≤ timetable.begins (n + 1) ∧
      ∀ moment, watched.log.told = some moment →
        watched.world.clock = max moment (timetable.ends n) := by
  cases onTime.phase with
  | @asks last _ tally clock _ _ _ _ heeds runs =>
      obtain rfl : last = n + 1 := tally.length_ends.symm.trans ended
      have clock : watched.world.clock = timetable.begins (n + 1) := clock
      rw [clock]
      refine ⟨timetable.ends_le_begins n, Nat.le_refl _, fun moment told => ?_⟩
      have since := heeds.since moment told
      have soFar : moment ≤ timetable.begins (n + 1) := clock ▸ heeds.soFar moment told
      rw [Nat.max_eq_left (Nat.le_trans (timetable.ends_le_begins n) since)]
      exact Nat.le_antisymm since soFar
  | @logsIn last _ tally =>
      have same := tally.length_begins.trans (congrArg (· + 1) tally.length_ends.symm)
      rw [begun, ended] at same
      exact absurd same.symm (Nat.succ_ne_self _)
  | @rests last _ _ tally clock _ _ _ _ heeds runs =>
      obtain rfl : last = n := Nat.succ.inj (tally.length_ends.symm.trans ended)
      have clock : watched.world.clock = timetable.ends last := clock
      rw [clock]
      refine ⟨Nat.le_refl _, timetable.ends_le_begins last, fun moment told => ?_⟩
      exact (Nat.max_eq_right (clock ▸ heeds.soFar moment told)).symm
  | @idles last tally rested inTime _ _ _ _ atOnce runs =>
      obtain rfl : last = n := Nat.succ.inj (tally.length_ends.symm.trans ended)
      exact ⟨rested, inTime, atOnce⟩
  | ended _ _ _ _ _ _ _ _ _ returned => cases goesOn.symm.trans returned

theorem exists_returned (onTime : watched.OnTime timetable) {last : LoopReturn}
    (returns : watched.log.returned = some last) :
    ∃ n moment, Returned timetable watched last n moment := by
  cases onTime.phase with
  | asks _ _ _ _ _ _ _ runs | logsIn _ _ _ _ _ _ _ _ runs | rests _ _ _ _ _ _ _ runs
  | idles _ _ _ _ _ _ _ _ runs => cases runs.symm.trans returns
  | @ended n moment other tally nothing loop done heeds told atOnce inTime reason returned =>
      obtain rfl : other = last := Option.some.inj (returned.symm.trans returns)
      refine ⟨n, moment, tally.length_begins, tally.length_ends, told, heeds.since moment told,
        atOnce, inTime, loop, ?_, nothing, fun ticket asks => ?_⟩
      · rw [reason]
        cases other.shutdown <;> rfl
      · cases done ticket _ (SessionWorld.stage_eq_some_iff.mpr ⟨asks, rfl⟩)

theorem comesTo (watched : Watched) (steps : Nat) : watched.ComesTo (onward^[steps] watched) :=
  ⟨reaches_iterate_onward steps watched, steps, world_iterate_onward steps watched⟩

theorem keeps (inRange : timetable.InRange) (onTime : watched.OnTime timetable) :
    Keeps timetable watched := by
  obtain ⟨begun, ended, tally, turns⟩ := onTime.exists_tally
  constructor
  case begins => rw [tally.length_begins, tally.begins]
  case ends => rw [tally.length_ends, tally.ends]
  case byTurns => rwa [tally.length_begins, tally.length_ends]
  case told => exact onTime.isSome_told
  case notLater => exact fun moment told begun => onTime.begins_le_told told
  case first => exact onTime.notYet
  case underWay => exact fun n => onTime.underWay
  case between => exact fun n => onTime.between
  case returned => exact fun last => onTime.exists_returned
  case closed =>
    exact fun told free later => onTime.begins_of_closed inRange (onTime.closed told free)
  case goesOn =>
    intro count
    obtain ⟨steps, reached⟩ := onTime.exists_ends inRange count
    exact ⟨_, comesTo watched steps, reached⟩
  case returns =>
    intro told
    obtain ⟨steps, returned⟩ := onTime.exists_return inRange told
    exact ⟨_, comesTo watched steps, returned⟩

end Watched.OnTime

/-- A loop that starts goes by its timetable, whatever its logins bring and
whenever it is told to end. -/
theorem refresh_loop_goes_by_timetable {plan : Nat → Login} {period : Nat} {before : SessionWorld}
    (turns : Relation.ReflTransGen SessionWorld.Turn (.start plan period) before)
    (inRange : Timetable.InRange ⟨plan, period, before.clock⟩) :
    Timetable.Laws ⟨plan, period, before.clock⟩ ∧
      ∀ watched, (Watched.first before).Reaches watched →
        Keeps ⟨plan, period, before.clock⟩ watched :=
  ⟨Timetable.laws _, fun _ reaches =>
    ((Watched.OnTime.first turns).reaches inRange reaches).keeps inRange⟩

/-! A slow login that fails is followed by the next at once, and that one is
finished although the loop is told to end. -/

def slowLogins : Nat → Login
  | 1 => ⟨25, .error (.http "no answer")⟩
  | _ => ⟨3, .ok "token"⟩

def slowSession : Watched :=
  Watched.onward^[12] (.first (.start slowLogins 10))

/-- The session after it was stopped and shut down while its third login is
under way. -/
def endedSession : Watched :=
  let world := { slowSession.world with stopped := true }
  let log := slowSession.log.after slowSession.world.view world.view
  let last := { world with shutdown := true }
  Watched.onward^[4] ⟨last, log.after world.view last.view⟩

theorem endedSession_reached :
    (Watched.first (.start slowLogins 10)).Reaches endedSession := by
  refine (Watched.reaches_iterate_onward 12 _).trans ?_
  refine .head (.of .stop) (.head (.of .shutDown) ?_)
  exact Watched.reaches_iterate_onward 4 _

theorem slowLogins_go_by_timetable :
    Timetable.InRange ⟨slowLogins, 10, 0⟩ ∧
      endedSession.log =
        ⟨[0, 13, 38], [3, 38, 41], some 38, some ⟨41, .shutDown, true⟩⟩ ∧
      Keeps ⟨slowLogins, 10, 0⟩ endedSession :=
  have inRange : Timetable.InRange ⟨slowLogins, 10, 0⟩ := ⟨by decide, by decide⟩
  have goes : Timetable.Laws ⟨slowLogins, 10, 0⟩ ∧
      ∀ watched, (Watched.first (.start slowLogins 10)).Reaches watched →
        Keeps ⟨slowLogins, 10, 0⟩ watched := refresh_loop_goes_by_timetable .refl inRange
  ⟨inRange, by rfl, goes.2 endedSession endedSession_reached⟩

end StorageTelemetry
