import Mathlib.Logic.Function.Iterate
import StorageTelemetry.Proofs.Session.LoopPhases

namespace StorageTelemetry

/-!
# Progress of a refresh loop

A session that is left alone makes the moves that it can make, and then time
passes to the next moment at which something is due.  So one login of its loop
ends after the other, or the loop returns: there is only so much to be done
before, and each turn leaves less of it.
-/

namespace LoopView

variable {view next : LoopView}

/-- What is before a loop until it asks for its next login.  Whoever asks joins
a queue, so a turn that does counts for more than one that leaves the queue. -/
def ahead (view : LoopView) : Nat :=
  match view.loops with
  | [.idle _] => 4
  | [.refreshing ticket _] => if (view.stage ticket).any CallerStage.isDone then 6 else 0
  | _ => 0

theorem ahead_of_idle {ticker : Ticker} (idles : view.loops = [.idle ticker]) : view.ahead = 4 := by
  simp only [ahead, idles]

variable {ticket : Ticket} {ticker : Option Ticker}

theorem ahead_of_refreshed {succeeded : Bool} (refreshes : view.loops = [.refreshing ticket ticker])
    (own : view.stage ticket = some (.refreshed succeeded)) : view.ahead = 6 := by
  simp only [ahead, refreshes, own, Option.any_some, CallerStage.isDone, if_true]

theorem ahead_of_asks (refreshes : view.loops = [.refreshing ticket ticker])
    (own : view.stage ticket = some (.waiting .refresh)) : view.ahead = 0 := by
  simp only [ahead, refreshes, own, Option.any_some, CallerStage.isDone, Bool.false_eq_true,
    if_false]

theorem ahead_of_rested {period : Nat} {now : Instant}
    (loops : view.loops = [.afterRefresh period now ticker]) : view.ahead ≤ 4 := by
  simp only [ahead, loops]
  split
  · exact Nat.le_refl _
  · rename_i refreshes
    unfold RefreshLoop.afterRefresh at refreshes
    split at refreshes
    · cases refreshes
    · split at refreshes <;> cases refreshes
  · exact Nat.zero_le _

/-- A caller who is not done is not nearer to it than before. -/
theorem ahead_put_le (ticket : Ticket) {stage : CallerStage} (busy : stage.isDone = false)
    (loops : next.loops = view.loops) (stages : next.stage = (view.put ticket stage).stage) :
    next.ahead ≤ view.ahead := by
  simp only [ahead, loops, stages, put]
  split
  · exact Nat.le_refl _
  · rename_i own ticker refreshes
    by_cases same : ticket = own
    · simp [same, busy]
    · simp [same]
  · exact Nat.le_refl _

/-- Before a loop there is not more after a step than before it, unless a login
has ended. -/
theorem Step.ahead_le (step : view.Step next) :
    next.ahead ≤ view.ahead ∨ (view.loginEnd.isSome && next.loginEnd.isNone) = true := by
  cases step with
  | aside | pass => exact .inl (Nat.le_refl _)
  | @begin ticket asks => exact .inl (ahead_put_le ticket rfl rfl rfl)
  | finish planned =>
      refine .inr ?_
      rw [planned]
      rfl
  | rest refreshes refreshed =>
      have before := ahead_of_refreshed refreshes refreshed
      exact .inl (Nat.le_trans (ahead_of_rested rfl) (before ▸ by decide))
  | fire ticket idles untold due =>
      have own := view.put_self ticket (.waiting .refresh)
      exact .inl (Nat.le_trans (Nat.le_of_eq (ahead_of_asks rfl own)) (Nat.zero_le _))
  | ends idles told => exact .inl (Nat.zero_le _)

end LoopView

namespace TokenManager

variable {manager next : TokenManager}

theorem queue_of_acquire (granted : manager.acquire? = some next) :
    manager.queue.length = next.queue.length + 1 := by
  have granted : manager.step? .acquire = some next := granted
  cases step?_eq_some_iff.mp granted with
  | beginRefresh free queued | enter free queued => rw [queued, List.length_cons]

theorem queue_apply_readMark (manager : TokenManager) (ticket : Ticket) :
    (manager.apply (.readMark ticket)).queue = manager.queue := by
  unfold apply
  cases moved : manager.step? (.readMark ticket) with
  | none => rfl
  | some next =>
      cases step?_eq_some_iff.mp moved with
      | readMark holding => rfl

theorem queue_apply_expire {ticket : Ticket} {purpose : Purpose} {deadline : Instant}
    (queued : ticket ∈ manager.queue)
    (waits : manager.callers.get? ticket = some (.waiting purpose))
    (reads : purpose.deadline? = some deadline) :
    manager.queue.length = (manager.apply (.expire ticket)).queue.length + 1 := by
  have possible : Step manager (.expire ticket) _ := .expire queued waits reads
  rw [possible.apply_eq, List.length_erase_of_mem queued]
  exact (Nat.sub_add_cancel (List.length_pos_of_mem queued)).symm

end TokenManager

namespace SessionWorld

variable {world next : SessionWorld}

/-- What has to be done until the next login of the loop ends. -/
def distance (world : SessionWorld) : Nat :=
  2 * world.manager.queue.length + world.view.ahead + if world.react?.isSome then 0 else 1

theorem queue_of_acquire? (acquired : world.acquire? = some next) :
    world.manager.queue.length = next.manager.queue.length + 1 := by
  simp only [acquire?] at acquired
  split at acquired
  · rename_i ticket manager first granted
    have shorter := TokenManager.queue_of_acquire granted
    split at acquired
    · cases acquired
      exact shorter
    · cases acquired
      rw [TokenManager.queue_apply_readMark]
      exact shorter
  · cases acquired

theorem queue_of_expire? (expired : world.expire? = some next) :
    world.manager.queue.length = next.manager.queue.length + 1 := by
  obtain ⟨⟨ticket, deadline⟩, found, rfl⟩ := Option.map_eq_some_iff.mp expired
  obtain ⟨queued, waits⟩ := mem_deadlines_iff.mp (List.mem_of_find?_eq_some found)
  obtain ⟨purpose, waits, reads⟩ := Clocked.deadlineOf?_eq_some_iff.mp waits
  exact TokenManager.queue_apply_expire queued waits reads

/-- Whether a turn has brought what was ahead: the end of a login, or of the
loop. -/
def Brings (world next : SessionWorld) : Prop :=
  (world.view.loginEnd.isSome && next.view.loginEnd.isNone) = true ∨
    ∃ reason, next.loops = [.ended reason]

theorem endLogin?_brings (ended : world.endLogin? = some next) :
    (world.view.loginEnd.isSome && next.view.loginEnd.isNone) = true := by
  simp only [endLogin?] at ended
  split at ended
  · rename_i time result planned
    have before : world.view.loginEnd.isSome = true := by simp only [view, planned, Option.isSome]
    rw [before]
    split at ended
    · split at ended <;> cases ended <;> rfl
    · cases ended
  · cases ended

/-- A turn that takes someone out of the queue leaves less to be done. -/
theorem distance_of_queue (step : world.view.Step next.view) (moved : world.react? = some next)
    (shorter : world.manager.queue.length = next.manager.queue.length + 1) :
    world.Brings next ∨ next.distance < world.distance := by
  rcases step.ahead_le with less | ends
  · refine .inr ?_
    have moves : world.react?.isSome = true := by rw [moved, Option.isSome_some]
    simp only [distance, moves, if_true]
    split <;> omega
  · exact .inl (.inl ends)

/-- A move of the loop leaves less to be done, even if it joins the queue. -/
theorem distance_of_moveLoop? {loop after : RefreshLoop} {left : SessionWorld}
    (single : world.loops = [loop]) (first : world.moveLoop? loop = some (after, left))
    (moved : world.react? = some { left with loops := [after] }) :
    world.Brings { left with loops := [after] } ∨
      { left with loops := [after] }.distance < world.distance := by
  have moves : world.react?.isSome = true := by rw [moved, Option.isSome_some]
  cases loop with
  | refreshing ticket ticker =>
      simp only [moveLoop?] at first
      split at first
      · rename_i succeeded refreshed
        cases first
        have own : world.view.stage ticket = some (.refreshed succeeded) :=
          stage_eq_some_iff.mpr ⟨refreshed, rfl⟩
        have before : world.view.ahead = 6 := LoopView.ahead_of_refreshed single own
        have behind : LoopView.ahead
            (view { world with loops := [.afterRefresh world.period world.clock ticker] }) ≤ 4 :=
          LoopView.ahead_of_rested rfl
        refine .inr ?_
        simp only [distance, moves, if_true, before]
        split <;> omega
      · cases first
  | idle ticker =>
      have before : world.view.ahead = 4 := LoopView.ahead_of_idle single
      simp only [moveLoop?] at first
      split at first
      · cases first
        exact .inl (.inr ⟨_, rfl⟩)
      · rename_i ticker' fires
        cases first
        have callers : (world.manager.request .refresh).callers =
            world.manager.callers.put world.manager.nextTicket (.waiting .refresh) := rfl
        have own : (world.manager.request .refresh).refreshStage? world.manager.nextTicket =
            some (.waiting .refresh) := by
          rw [TokenManager.refreshStage?_put callers rfl]
          exact if_pos rfl
        have behind : LoopView.ahead (view { world.request .refresh with
            loops := [.refreshing world.manager.nextTicket (some ticker')] }) = 0 :=
          LoopView.ahead_of_asks rfl own
        have longer : (world.request .refresh).manager.queue.length =
            world.manager.queue.length + 1 := List.length_append
        refine .inr ?_
        simp only [distance, moves, if_true, before, behind, longer]
        split <;> omega
      · cases first
  | ended | broken => cases first

theorem Tended.distance_of_react? (tended : world.Tended) (moved : world.react? = some next) :
    world.Brings next ∨ next.distance < world.distance := by
  obtain ended | acquired | expired | ⟨loop, after, left, single, first, rfl⟩ :=
    tended.react?_cases moved
  · exact .inl (.inl (endLogin?_brings ended))
  · exact distance_of_queue (acquire?_step tended.sound acquired) moved
      (queue_of_acquire? acquired)
  · exact distance_of_queue (expire?_step tended.sound expired) moved (queue_of_expire? expired)
  · exact distance_of_moveLoop? single first moved

/-! ## Time -/

theorem moveLoop?_of_still {loops : List RefreshLoop} (still : world.moveLoops? loops = none)
    {loop : RefreshLoop} (listed : loop ∈ loops) : world.moveLoop? loop = none := by
  induction loops with
  | nil => cases listed
  | cons first rest ih =>
      simp only [moveLoops?] at still
      split at still
      · cases still
      · rename_i moved
        rcases List.mem_cons.mp listed with rfl | listed
        · exact moved
        · exact ih (Option.map_eq_none_iff.mp still) listed

/-- An idle loop that does not move waits for its ticker. -/
theorem lt_due_of_still {ticker : Ticker} (still : world.moveLoop? (.idle ticker) = none) :
    world.clock < ticker.due := by
  by_contra due
  have ready : ticker.ready world.clock = true := decide_eq_true (Nat.le_of_not_lt due)
  simp only [moveLoop?, RefreshLoop.react, ready, if_true] at still
  split at still
  · cases still
  · cases still
  · rename_i waits
    split at waits
    · cases waits
    · split at waits <;> cases waits

/-- What a session waits for that stands still is still to come. -/
theorem lt_of_still (still : world.react? = none) {moment : Instant}
    (listed : moment ∈ world.dueMoments) : world.clock < moment := by
  obtain ⟨ended, -, expired, moved⟩ := moves_of_still still
  rcases List.mem_append.mp listed with listed | listed
  · rcases List.mem_append.mp listed with listed | listed
    · obtain ⟨⟨time, result⟩, planned, rfl⟩ :=
        Option.map_eq_some_iff.mp (Option.mem_toList.mp listed)
      by_contra due
      have due : time ≤ world.clock := Nat.le_of_not_lt due
      simp only [endLogin?, planned, if_pos due] at ended
      split at ended <;> cases ended
    · obtain ⟨entry, waits, rfl⟩ := List.mem_map.mp listed
      have early := List.find?_eq_none.mp (Option.map_eq_none_iff.mp expired) entry waits
      simpa using early
  · obtain ⟨loop, present, shown⟩ := List.mem_filterMap.mp listed
    have still := moveLoop?_of_still moved present
    cases loop with
    | idle ticker =>
        obtain rfl := Option.some.inj shown
        exact lt_due_of_still still
    | refreshing | ended | broken => cases shown

/-- The session after its next turn, when it is left alone. -/
def onward (world : SessionWorld) : SessionWorld :=
  match world.react? with
  | some next => next
  | none =>
      match world.nextMoment? none with
      | some moment => { world with clock := max world.clock moment }
      | none => world

theorem exists_nextMoment? {moment : Instant} (listed : moment ∈ world.dueMoments) :
    ∃ moment, world.nextMoment? none = some moment := by
  obtain ⟨least, found⟩ := Option.isSome_iff_exists.mp
    (List.isSome_min?_iff.mpr (List.ne_nil_of_mem listed))
  exact ⟨least, by simp only [nextMoment?, found]⟩

theorem mem_of_nextMoment? {moment : Instant} (due : world.nextMoment? none = some moment) :
    moment ∈ world.dueMoments := by
  simp only [nextMoment?] at due
  split at due
  · rename_i least found
    exact Option.some.inj due ▸ List.min?_mem found
  · cases due

/-- What a session does when it is left alone is a turn. -/
theorem turn_onward (world : SessionWorld) : world.Turn world.onward := by
  unfold onward
  split
  · rename_i next moved
    exact .react moved
  · rename_i still
    split
    · rename_i moment due
      refine .pass still (Nat.le_max_left _ _) fun other listed => Nat.max_le.mpr ⟨?_, ?_⟩
      · exact Nat.le_of_lt (lt_of_still still listed)
      · exact nextMoment?_le due listed
    · exact .pass still (Nat.le_refl _) fun other listed => Nat.le_of_lt (lt_of_still still listed)

theorem runUntil_eq_iterate (steps : Nat) (world : SessionWorld) :
    runUntil (fun _ => false) none steps world = onward^[steps] world := by
  induction steps generalizing world with
  | zero => rfl
  | succ steps ih =>
      rw [Function.iterate_succ_apply]
      cases moved : world.react? with
      | some next => simp only [runUntil, onward, moved, ih]
      | none =>
          cases due : world.nextMoment? none with
          | some moment =>
              simp only [runUntil, onward, moved, due, ih, Bool.false_eq_true, if_false]
          | none =>
              have stays : world.onward = world := by simp only [onward, moved, due]
              rw [stays, Function.iterate_fixed stays]
              simp only [runUntil, moved, due, Bool.false_eq_true, if_false]

/-- When time has passed to the next moment at which something is due, a
session can move. -/
theorem distance_pass {moment : Instant} (still : world.react? = none)
    (due : moment ∈ world.dueMoments) :
    { world with clock := max world.clock moment }.distance < world.distance := by
  have moves : ({ world with clock := max world.clock moment }.react?).isSome = true := by
    by_contra stands
    have due : moment ∈ { world with clock := max world.clock moment }.dueMoments := due
    have late := lt_of_still (Option.not_isSome_iff_eq_none.mp stands) due
    exact absurd (Nat.le_max_right world.clock moment) (Nat.not_le_of_lt late)
  have before : world.react?.isSome = false := by rw [still, Option.isSome_none]
  have same : { world with clock := max world.clock moment }.view.ahead = world.view.ahead := rfl
  simp only [distance, moves, before, same, if_true, Bool.false_eq_true, if_false]
  exact Nat.lt_succ_self _

end SessionWorld

/-! ## From login to login -/

namespace Watched

variable {timetable : Timetable} {watched : Watched}

/-- A loop that has not returned does not wait in vain. -/
theorem OnTime.exists_due (onTime : watched.OnTime timetable)
    (runs : watched.log.returned = none) (still : watched.world.react? = none) :
    ∃ moment, moment ∈ watched.world.dueMoments := by
  have calm : watched.world.view.Calm watched.world.clock :=
    onTime.tended.calm still (Nat.le_refl _) fun other listed =>
      Nat.le_of_lt (SessionWorld.lt_of_still still listed)
  cases onTime.phase with
  | asks _ _ _ _ own alone => exact absurd own (alone.ne_waiting calm)
  | @logsIn n _ _ _ _ planned =>
      have planned : watched.world.loginEnd = _ := planned
      refine ⟨timetable.ends n, List.mem_append_left _ (List.mem_append_left _ ?_)⟩
      simp [planned]
  | rests _ _ _ loop own => exact absurd own (calm.refreshing _ _ _ loop)
  | @idles n _ _ _ _ loop =>
      have loop : watched.world.loops = _ := loop
      refine ⟨(timetable.ticker n).due, List.mem_append_right _ ?_⟩
      simp [loop]
  | ended _ _ _ _ _ _ _ _ _ returned => cases runs.symm.trans returned

/-- The session after its next turn, when it is left alone, and what is seen. -/
def onward (watched : Watched) : Watched :=
  ⟨watched.world.onward, watched.log.after watched.world.view watched.world.onward.view⟩

theorem reaches_iterate_onward (steps : Nat) (watched : Watched) :
    watched.Reaches (onward^[steps] watched) := by
  induction steps generalizing watched with
  | zero => exact .refl
  | succ steps ih => exact .head (.of watched.world.turn_onward) (ih watched.onward)

theorem world_iterate_onward (steps : Nat) (watched : Watched) :
    (onward^[steps] watched).world =
      SessionWorld.runUntil (fun _ => false) none steps watched.world := by
  rw [SessionWorld.runUntil_eq_iterate]
  induction steps generalizing watched with
  | zero => rfl
  | succ steps ih => exact ih watched.onward

theorem onward_of_brings (brings : watched.world.Brings watched.world.onward) :
    watched.log.ends.length < watched.onward.log.ends.length ∨
      watched.onward.log.returned ≠ none := by
  rcases brings with ends | ⟨reason, loops⟩
  · refine .inl ?_
    simp only [onward, LoopLog.after, ends, if_true, List.length_append, List.length_singleton]
    exact Nat.lt_succ_self _
  · refine .inr ?_
    have returns : watched.world.onward.view.return? =
        some ⟨watched.world.onward.clock, reason, watched.world.onward.shutdown⟩ := by
      simp only [LoopView.return?, SessionWorld.view, loops]
    have some : watched.onward.log.returned.isSome = true := by
      simp only [onward, LoopLog.after, returns, Option.isSome_or, Option.isSome_some, Bool.or_true]
    exact Option.isSome_iff_ne_none.mp some

/-- Each turn that a session makes alone brings the end of a login or of the
loop, or leaves less to be done before. -/
theorem OnTime.distance_onward (onTime : watched.OnTime timetable)
    (runs : watched.log.returned = none) :
    watched.world.Brings watched.world.onward ∨
      watched.world.onward.distance < watched.world.distance := by
  cases moved : watched.world.react? with
  | some next =>
      have onward : watched.world.onward = next := by simp only [SessionWorld.onward, moved]
      exact onward ▸ onTime.tended.distance_of_react? moved
  | none =>
      obtain ⟨other, listed⟩ := onTime.exists_due runs moved
      obtain ⟨moment, due⟩ := SessionWorld.exists_nextMoment? listed
      have onward : watched.world.onward =
          { watched.world with clock := max watched.world.clock moment } := by
        simp only [SessionWorld.onward, moved, due]
      exact .inr (onward ▸ SessionWorld.distance_pass moved (SessionWorld.mem_of_nextMoment? due))

variable (inRange : timetable.InRange)

include inRange

theorem OnTime.exists_end (onTime : watched.OnTime timetable) :
    ∃ steps, watched.log.ends.length < (onward^[steps] watched).log.ends.length ∨
      (onward^[steps] watched).log.returned ≠ none := by
  generalize distance : watched.world.distance = bound
  induction bound using Nat.strongRecOn generalizing watched with
  | ind bound ih =>
      by_cases runs : watched.log.returned = none
      · rcases onTime.distance_onward runs with brings | nearer
        · exact ⟨1, onward_of_brings brings⟩
        · have onTime' : watched.onward.OnTime timetable :=
            onTime.turn inRange (.of watched.world.turn_onward)
          obtain ⟨steps, reached⟩ := ih _ (distance ▸ nearer) onTime' rfl
          refine ⟨steps + 1, reached.imp_left fun later => Nat.lt_of_le_of_lt ?_ later⟩
          simp [onward, LoopLog.after]
      · exact ⟨0, .inr runs⟩

/-- As many logins end as one likes, unless the loop returns. -/
theorem OnTime.exists_ends (onTime : watched.OnTime timetable) (count : Nat) :
    ∃ steps, count ≤ (onward^[steps] watched).log.ends.length ∨
      (onward^[steps] watched).log.returned ≠ none := by
  induction count with
  | zero => exact ⟨0, .inl (Nat.zero_le _)⟩
  | succ count ih =>
      obtain ⟨steps, enough | returned⟩ := ih
      · have later := onTime.reaches inRange (reaches_iterate_onward steps watched)
        obtain ⟨more, reached⟩ := later.exists_end inRange
        refine ⟨more + steps, ?_⟩
        rw [Function.iterate_add_apply]
        exact reached.imp_left (Nat.lt_of_le_of_lt enough)
      · exact ⟨steps, .inr returned⟩

end Watched
end StorageTelemetry
