import StorageTelemetry.Proofs.Session.Moments

namespace StorageTelemetry

/-!
# Turns around a refresh loop

A session is looked at from its only refresh loop.  What the loop can tell of
it is its clock, the login under way, the flags that stop it, and how far the
callers have come who refresh.  Readers may come and go as they like: the lock
is theirs for no time, so the loop sees nothing of them.  What remains are a
few steps, and time passes only when none of them is left to be taken.
-/

/-- Whether a stage is one of a refresh. -/
def CallerStage.refreshes : CallerStage → Bool
  | waiting .refresh | loggingIn | storing | refreshed _ => true
  | waiting (.read _) | waiting (.authenticate _) | gotToken _ | holding _ | checked _ _
  | timedOut => false

/-! ## Readers -/

namespace TokenManager

variable {manager next : TokenManager} {event : Event} {ticket : Ticket}

/-- How far a caller has come who refreshes. -/
def refreshStage? (manager : TokenManager) (ticket : Ticket) : Option CallerStage :=
  (manager.callers.get? ticket).filter CallerStage.refreshes

/-- Whether a move is one of a reader, beside taking the lock. -/
def Event.reads : Event → Bool
  | request purpose => purpose.deadline?.isSome
  | expire _ | readMark _ => true
  | acquire | loginSucceeded _ | markGood | loginFailed => false

theorem refreshes_waiting {purpose : Purpose} {deadline : Instant}
    (reads : purpose.deadline? = some deadline) :
    (CallerStage.waiting purpose).refreshes = false := by
  cases purpose with
  | refresh => cases reads
  | read | authenticate => rfl

/-- A caller comes to a stage of a refresh, and to the others nothing happens. -/
theorem refreshStage?_put {stage : CallerStage}
    (callers : next.callers = manager.callers.put ticket stage)
    (refreshes : stage.refreshes = true) :
    next.refreshStage? =
      fun other => if ticket = other then some stage else manager.refreshStage? other := by
  funext other
  unfold refreshStage?
  rw [callers, Table.get?_put]
  split
  · rw [Option.filter_some, if_pos refreshes]
  · rfl

/-- What does not refresh before and after is not seen. -/
theorem refreshStage?_aside {stage : CallerStage}
    (callers : next.callers = manager.callers.put ticket stage)
    (before : manager.refreshStage? ticket = none) (after : stage.refreshes = false) :
    next.refreshStage? = manager.refreshStage? := by
  funext other
  by_cases same : ticket = other
  · subst same
    rw [before, refreshStage?, callers, Table.get?_put, if_pos rfl, Option.filter_some, after]
    rfl
  · rw [refreshStage?, callers, Table.get?_put, if_neg same, refreshStage?]

theorem refreshStage?_of_waits {purpose : Purpose} {deadline : Instant}
    (waits : manager.callers.get? ticket = some (.waiting purpose))
    (reads : purpose.deadline? = some deadline) : manager.refreshStage? ticket = none := by
  rw [refreshStage?, waits, Option.filter_some, refreshes_waiting reads]
  rfl

theorem Step.refreshStage?_eq (possible : Step manager event next) (sound : manager.Sound)
    (apart : event.reads = true) : next.refreshStage? = manager.refreshStage? := by
  cases possible with
  | request purpose =>
      obtain ⟨deadline, reads⟩ := Option.isSome_iff_exists.mp apart
      refine refreshStage?_aside rfl ?_ (refreshes_waiting reads)
      rw [refreshStage?, sound.stage_of_new]
      rfl
  | expire queued waits reads =>
      exact refreshStage?_aside rfl (refreshStage?_of_waits waits reads) rfl
  | readMark holding =>
      refine refreshStage?_aside rfl ?_ rfl
      rw [refreshStage?, holding]
      rfl
  | beginRefresh | enter | loginSucceeded | markGood | loginFailed => cases apart

theorem refreshStage?_apply (sound : manager.Sound) (apart : event.reads = true) :
    (manager.apply event).refreshStage? = manager.refreshStage? := by
  unfold apply
  cases moved : manager.step? event with
  | none => rfl
  | some next => exact (step?_eq_some_iff.mp moved).refreshStage?_eq sound apart

theorem Step.apply_eq (possible : Step manager event next) : manager.apply event = next := by
  rw [apply, step?_eq_some_iff.mpr possible, Option.getD_some]

/-- A refresh ends with its login, whatever the login brings. -/
theorem refreshStage?_fail (holds : manager.holder = some ticket)
    (logsIn : manager.callers.get? ticket = some .loggingIn) :
    (manager.apply .loginFailed).refreshStage? = fun other =>
      if ticket = other then some (.refreshed false) else manager.refreshStage? other := by
  rw [(Step.loginFailed holds logsIn).apply_eq]
  exact refreshStage?_put rfl rfl

theorem refreshStage?_succeed (holds : manager.holder = some ticket)
    (logsIn : manager.callers.get? ticket = some .loggingIn) (token : String) :
    ((manager.apply (.loginSucceeded token)).apply .markGood).refreshStage? = fun other =>
      if ticket = other then some (.refreshed true) else manager.refreshStage? other := by
  have stored := Step.loginSucceeded token holds logsIn
  have stores : (manager.apply (.loginSucceeded token)).callers.get? ticket = some .storing := by
    rw [stored.apply_eq, Table.get?_put, if_pos rfl]
  have holds' : (manager.apply (.loginSucceeded token)).holder = some ticket := by
    rw [stored.apply_eq, holds]
  rw [(Step.markGood holds' stores).apply_eq, refreshStage?_put rfl rfl, stored.apply_eq,
    refreshStage?_put rfl rfl]
  funext other
  by_cases same : ticket = other
  · simp only [if_pos same]
  · simp only [if_neg same]

/-- Who takes the lock logs in if it refreshes, and is not seen if it reads. -/
theorem acquire_cases (granted : manager.acquire? = some next)
    (first : manager.queue.head? = some ticket) :
    (manager.refreshStage? ticket = some (.waiting .refresh) ∧
        next.callers = manager.callers.put ticket .loggingIn) ∨
      (next.refreshStage? = manager.refreshStage? ∧
        next.callers.get? ticket ≠ some .loggingIn) := by
  have granted : manager.step? .acquire = some next := granted
  cases step?_eq_some_iff.mp granted with
  | @beginRefresh asker rest free queued waits =>
      obtain rfl : asker = ticket := by simpa [queued] using first
      exact .inl ⟨by rw [refreshStage?, waits]; rfl, rfl⟩
  | @enter reader rest purpose deadline free queued waits reads =>
      obtain rfl : reader = ticket := by simpa [queued] using first
      refine .inr ⟨refreshStage?_aside rfl (refreshStage?_of_waits waits reads) ?_, ?_⟩
      · cases purpose with
        | refresh => cases reads
        | read | authenticate => rfl
      · rw [Table.get?_put, if_pos rfl]
        cases purpose with
        | refresh => cases reads
        | read | authenticate => exact nofun

end TokenManager

/-! ## Views -/

/-- What a refresh loop can tell of its session. -/
structure LoopView where
  clock : Instant
  plan : Nat → Login
  period : Nat
  logins : Nat
  loginEnd : Option (Instant × Except Fault String)
  loops : List RefreshLoop
  stage : Ticket → Option CallerStage
  shutdown : Bool
  stopped : Bool

namespace LoopView

/-- The view after a caller has come to a stage. -/
def put (view : LoopView) (ticket : Ticket) (stage : CallerStage) : LoopView :=
  { view with stage := fun other => if ticket = other then some stage else view.stage other }

/-- Whether the loop is to end. -/
def told (view : LoopView) : Bool := view.shutdown || view.stopped

/-- Why a loop ends that is told to. -/
def reason (view : LoopView) : LoopEnd := if view.shutdown then .shutDown else .stopped

/-- Whether time may pass up to a moment: nothing is due before it, nothing is
left to be done, and no refresh waits for a free lock. -/
structure Calm (view : LoopView) (moment : Instant) : Prop where
  forward : view.clock ≤ moment
  login : ∀ time result, view.loginEnd = some (time, result) → moment ≤ time
  free : (∀ ticket, view.stage ticket ≠ some .loggingIn ∧ view.stage ticket ≠ some .storing) →
    ∀ ticket, view.stage ticket ≠ some (.waiting .refresh)
  idle : ∀ ticker, view.loops = [.idle ticker] → view.told = false ∧ moment ≤ ticker.due
  refreshing : ∀ ticket ticker succeeded, view.loops = [.refreshing ticket ticker] →
    view.stage ticket ≠ some (.refreshed succeeded)

/-- The steps of a session, as its loop sees them.  What is told to a loop stays
told. -/
inductive Step (view : LoopView) : LoopView → Prop
  | aside {shutdown stopped : Bool} (kept : view.told = true → (shutdown || stopped) = true) :
      Step view { view with shutdown, stopped }
  | begin {ticket : Ticket} (asks : view.stage ticket = some (.waiting .refresh)) :
      Step view
        { view.put ticket .loggingIn with
          logins := view.logins + 1
          loginEnd := some (view.clock + (view.plan view.logins).delay,
            (view.plan view.logins).result) }
  | finish {ticket : Ticket} {time : Instant} {result : Except Fault String}
      (planned : view.loginEnd = some (time, result)) (due : time ≤ view.clock)
      (logsIn : view.stage ticket = some .loggingIn) :
      Step view { view.put ticket (.refreshed result.isOk) with loginEnd := none }
  | rest {ticket : Ticket} {ticker : Option Ticker} {succeeded : Bool}
      (refreshes : view.loops = [.refreshing ticket ticker])
      (refreshed : view.stage ticket = some (.refreshed succeeded)) :
      Step view { view with loops := [.afterRefresh view.period view.clock ticker] }
  | fire {ticker : Ticker} (ticket : Ticket) (idles : view.loops = [.idle ticker])
      (untold : view.told = false) (due : ticker.due ≤ view.clock) :
      Step view
        { view.put ticket (.waiting .refresh) with
          loops := [.refreshing ticket (some (ticker.fire view.clock))] }
  | ends {ticker : Ticker} (idles : view.loops = [.idle ticker]) (told : view.told = true) :
      Step view { view with loops := [.ended view.reason] }
  | pass {moment : Instant} (calm : view.Calm moment) : Step view { view with clock := moment }

theorem Step.refl (view : LoopView) : view.Step view := .aside id

theorem Step.of_eq {view next other : LoopView} (step : view.Step next) (same : other = next) :
    view.Step other := same ▸ step

end LoopView

namespace SessionWorld

variable {world next : SessionWorld}

def view (world : SessionWorld) : LoopView where
  clock := world.clock
  plan := world.plan
  period := world.period
  logins := world.loginsBegun
  loginEnd := world.loginEnd
  loops := world.loops
  stage := world.manager.refreshStage?
  shutdown := world.shutdown
  stopped := world.stopped

theorem stage_eq_some_iff {ticket : Ticket} {stage : CallerStage} :
    world.view.stage ticket = some stage ↔
      world.manager.callers.get? ticket = some stage ∧ stage.refreshes = true :=
  Option.filter_eq_some_iff

/-- What can happen to a session in which only its loops refresh: it moves by
itself, time passes until something is due, a reader comes, or its loops are
told to end. -/
inductive Turn (world : SessionWorld) : SessionWorld → Prop
  | react {next : SessionWorld} (moved : world.react? = some next) : Turn world next
  | pass {moment : Instant} (still : world.react? = none) (forward : world.clock ≤ moment)
      (due : ∀ other ∈ world.dueMoments, moment ≤ other) : Turn world { world with clock := moment }
  | read {purpose : Purpose} {deadline : Instant} (reads : purpose.deadline? = some deadline) :
      Turn world (world.request purpose)
  | stop : Turn world { world with stopped := true }
  | shutDown : Turn world { world with shutdown := true }

theorem Turn.sound (turn : world.Turn next) (sound : world.manager.Sound) :
    next.manager.Sound := by
  cases turn with
  | react moved =>
      obtain ⟨moves, ran⟩ := react?_reaches moved
      exact sound.run (Clocked.run_events ran)
  | read reads => exact sound.request _
  | pass | stop | shutDown => exact sound

/-! ## Own moves -/

/-- A manager of whose refreshes nothing else is seen. -/
theorem view_aside {manager : TokenManager}
    (same : manager.refreshStage? = world.manager.refreshStage?) :
    { world with manager }.view = world.view := by
  simp only [view, same]

/-- Taking the free lock begins a login, or is not seen. -/
theorem acquire?_step (sound : world.manager.Sound) (acquired : world.acquire? = some next) :
    world.view.Step next.view := by
  simp only [acquire?] at acquired
  split at acquired
  · rename_i ticket manager first granted
    have possible : TokenManager.Step world.manager .acquire manager :=
      TokenManager.step?_eq_some_iff.mp granted
    rcases TokenManager.acquire_cases granted first with ⟨asks, callers⟩ | ⟨aside, reading⟩
    · rw [callers, Table.get?_put, if_pos rfl] at acquired
      cases acquired
      refine (LoopView.Step.begin asks).of_eq ?_
      simp only [view, LoopView.put, TokenManager.refreshStage?_put callers rfl]
    · split at acquired
      · rename_i logsIn
        exact absurd logsIn reading
      · cases acquired
        have marked : (manager.apply (.readMark ticket)).refreshStage? = manager.refreshStage? :=
          TokenManager.refreshStage?_apply (sound.step possible) rfl
        rw [view_aside (marked.trans aside)]
        exact .refl _
  · cases acquired

/-- A reader who gives up is not seen. -/
theorem expire?_step (sound : world.manager.Sound) (expired : world.expire? = some next) :
    world.view.Step next.view := by
  obtain ⟨⟨ticket, deadline⟩, -, rfl⟩ := Option.map_eq_some_iff.mp expired
  have aside : (world.manager.apply (.expire ticket)).refreshStage? =
      world.manager.refreshStage? := TokenManager.refreshStage?_apply sound rfl
  rw [view_aside aside]
  exact .refl _

/-- A login that is due ends, and with it its refresh. -/
theorem endLogin?_step_of_logsIn (sound : world.manager.Sound) {ticket : Ticket}
    (logsIn : world.manager.callers.get? ticket = some .loggingIn)
    (ended : world.endLogin? = some next) : world.view.Step next.view := by
  have holds := (sound.held ticket).mpr (.inl logsIn)
  have seen : world.view.stage ticket = some .loggingIn := stage_eq_some_iff.mpr ⟨logsIn, rfl⟩
  simp only [endLogin?] at ended
  split at ended
  · rename_i time result planned
    split at ended
    · rename_i due
      cases result with
      | ok token =>
          cases ended
          refine (LoopView.Step.finish planned due seen).of_eq ?_
          simp only [view, LoopView.put, TokenManager.refreshStage?_succeed holds logsIn]
          rfl
      | error fault =>
          cases ended
          refine (LoopView.Step.finish planned due seen).of_eq ?_
          simp only [view, LoopView.put, TokenManager.refreshStage?_fail holds logsIn]
          rfl
    · cases ended
  · cases ended

/-- A loop that is told to end does so, and shutting down counts first. -/
theorem react_of_told (told : world.view.told = true) (ticker : Ticker) (now : Instant) :
    RefreshLoop.react ticker now world.shutdown world.stopped = .finish world.view.reason := by
  cases shutdown : world.shutdown <;> cases stopped : world.stopped <;>
    simp_all [RefreshLoop.react, view, LoopView.told, LoopView.reason]

theorem react_of_untold (untold : world.view.told = false) (ticker : Ticker) (now : Instant) :
    RefreshLoop.react ticker now world.shutdown world.stopped =
      if ticker.due ≤ now then .refresh (ticker.fire now) else .wait := by
  obtain ⟨shutdown, stopped⟩ : world.shutdown = false ∧ world.stopped = false := by
    simpa [view, LoopView.told] using untold
  simp only [RefreshLoop.react, shutdown, stopped, Bool.false_eq_true, if_false, Ticker.ready,
    decide_eq_true_eq]

/-- The loop goes on when its refresh has ended, and ends or refreshes when it
idles. -/
theorem moveLoop?_step {loop after : RefreshLoop} (single : world.loops = [loop])
    (moved : world.moveLoop? loop = some (after, next)) :
    world.view.Step { next with loops := [after] }.view := by
  cases loop with
  | refreshing ticket ticker =>
      simp only [moveLoop?] at moved
      split at moved
      · rename_i succeeded refreshed
        cases moved
        exact .rest single (stage_eq_some_iff.mpr ⟨refreshed, rfl⟩)
      · cases moved
  | idle ticker =>
      by_cases told : world.view.told = true
      · have finishes : RefreshLoop.react ticker world.clock world.shutdown world.stopped =
            .finish world.view.reason := react_of_told told ticker world.clock
        simp only [moveLoop?, finishes] at moved
        cases moved
        exact .ends single told
      · have untold : world.view.told = false := by simpa using told
        by_cases due : ticker.due ≤ world.clock
        · have refreshes := react_of_untold untold ticker world.clock
          rw [if_pos due] at refreshes
          simp only [moveLoop?, refreshes] at moved
          cases moved
          have asks : (world.manager.request .refresh).callers =
              world.manager.callers.put world.manager.nextTicket (.waiting .refresh) := rfl
          refine (LoopView.Step.fire world.manager.nextTicket single untold due).of_eq ?_
          simp only [view, LoopView.put, request, TokenManager.refreshStage?_put asks rfl]
        · have waits := react_of_untold untold ticker world.clock
          rw [if_neg due] at waits
          simp only [moveLoop?, waits, reduceCtorEq] at moved
  | ended reason | broken => cases moved

/-! ## All turns -/

/-- Whether the session has no more than one loop, and knows who logs in. -/
structure Tended (world : SessionWorld) : Prop where
  sound : world.manager.Sound
  single : world.loops.length ≤ 1
  logsIn : world.loginEnd ≠ none → ∃ ticket, world.manager.callers.get? ticket = some .loggingIn

/-- If a loop moves, it is the only one. -/
theorem Tended.of_moveLoops? (tended : world.Tended) {result : List RefreshLoop × SessionWorld}
    (went : world.moveLoops? world.loops = some result) :
    ∃ loop after left, world.loops = [loop] ∧ world.moveLoop? loop = some (after, left) ∧
      result = ([after], left) := by
  cases loops : world.loops with
  | nil =>
      rw [loops] at went
      cases went
  | cons loop rest =>
      obtain rfl : rest = [] := by simpa [loops] using tended.single
      rw [loops] at went
      simp only [moveLoops?, Option.map_none] at went
      split at went
      · rename_i after left first
        exact ⟨loop, after, left, rfl, first, (Option.some.inj went).symm⟩
      · cases went

/-- What a session does by itself: a login ends, someone gets the lock or gives
up, or its loop moves. -/
theorem Tended.react?_cases (tended : world.Tended) (moved : world.react? = some next) :
    world.endLogin? = some next ∨ world.acquire? = some next ∨ world.expire? = some next ∨
      ∃ loop after left, world.loops = [loop] ∧ world.moveLoop? loop = some (after, left) ∧
        next = { left with loops := [after] } := by
  simp only [react?] at moved
  split at moved
  · rename_i ended
    exact .inl (moved ▸ ended)
  · split at moved
    · rename_i acquired
      exact .inr (.inl (moved ▸ acquired))
    · split at moved
      · rename_i expired
        exact .inr (.inr (.inl (moved ▸ expired)))
      · obtain ⟨result, went, rfl⟩ := Option.map_eq_some_iff.mp moved
        obtain ⟨loop, after, left, single, first, rfl⟩ := tended.of_moveLoops? went
        exact .inr (.inr (.inr ⟨loop, after, left, single, first, rfl⟩))

theorem Tended.endLogin?_step (tended : world.Tended) (ended : world.endLogin? = some next) :
    world.view.Step next.view := by
  have underWay : world.loginEnd ≠ none := by
    intro nothing
    rw [endLogin?, nothing] at ended
    cases ended
  obtain ⟨ticket, logsIn⟩ := tended.logsIn underWay
  exact endLogin?_step_of_logsIn tended.sound logsIn ended

theorem Tended.react_step (tended : world.Tended) (moved : world.react? = some next) :
    world.view.Step next.view := by
  obtain ended | acquired | expired | ⟨loop, after, left, single, first, rfl⟩ :=
    tended.react?_cases moved
  · exact tended.endLogin?_step ended
  · exact acquire?_step tended.sound acquired
  · exact expire?_step tended.sound expired
  · exact moveLoop?_step single first

/-- A session that has nothing left to do has not left out any of its moves. -/
theorem moves_of_still (still : world.react? = none) :
    world.endLogin? = none ∧ world.acquire? = none ∧ world.expire? = none ∧
      world.moveLoops? world.loops = none := by
  simp only [react?] at still
  split at still
  · cases still
  · rename_i ended
    split at still
    · cases still
    · rename_i acquired
      split at still
      · cases still
      · rename_i expired
        exact ⟨ended, acquired, expired, Option.map_eq_none_iff.mp still⟩

/-- A free lock is not left while someone waits for it. -/
theorem Tended.queue_eq_nil (tended : world.Tended) (still : world.acquire? = none)
    (free : world.manager.holder = none) : world.manager.queue = [] := by
  by_contra waiting
  obtain ⟨ticket, rest, queued⟩ := List.exists_cons_of_ne_nil waiting
  obtain ⟨clocked, granted⟩ := Clocked.exists_acquire
    (show world.clocked.manager.Sound from tended.sound) free waiting
  cases Clocked.step?_eq_some_iff.mp granted with
  | @act _ manager allowed possible =>
      have granted : world.manager.acquire? = some manager :=
        TokenManager.step?_eq_some_iff.mpr possible
      simp only [acquire?, queued, granted, List.head?_cons] at still
      split at still <;> cases still

/-- While nobody logs in, no refresh is left waiting. -/
theorem Tended.ne_waiting (tended : world.Tended) (still : world.acquire? = none)
    (nobody : ∀ ticket, world.view.stage ticket ≠ some .loggingIn ∧
      world.view.stage ticket ≠ some .storing) (ticket : Ticket) :
    world.view.stage ticket ≠ some (.waiting .refresh) := by
  intro asks
  have free : world.manager.holder = none := by
    refine Option.eq_none_iff_forall_ne_some.mpr fun holder holds => ?_
    rcases (tended.sound.held holder).mp holds with logsIn | stores
    · exact (nobody holder).1 (stage_eq_some_iff.mpr ⟨logsIn, rfl⟩)
    · exact (nobody holder).2 (stage_eq_some_iff.mpr ⟨stores, rfl⟩)
  have queued := (tended.sound.queued ticket).mpr ⟨_, (stage_eq_some_iff.mp asks).1⟩
  rw [tended.queue_eq_nil still free] at queued
  cases queued

/-- When nothing is left to be done, time passes until the next thing is due. -/
theorem Tended.calm (tended : world.Tended) (still : world.react? = none) {moment : Instant}
    (forward : world.clock ≤ moment) (due : ∀ other ∈ world.dueMoments, moment ≤ other) :
    world.view.Calm moment := by
  obtain ⟨ended, acquired, -, moved⟩ := moves_of_still still
  refine ⟨forward, ?_, tended.ne_waiting acquired, ?_, ?_⟩
  · intro time result planned
    refine due time (List.mem_append_left _ (List.mem_append_left _ ?_))
    have planned : world.loginEnd = some (time, result) := planned
    simp [planned]
  · intro ticker idles
    have single : world.loops = [.idle ticker] := idles
    refine ⟨?_, due ticker.due (List.mem_append_right _ (by simp [single]))⟩
    by_contra told
    have finishes := react_of_told (by simpa using told) ticker world.clock
    simp [single, moveLoops?, moveLoop?, finishes] at moved
  · intro ticket ticker succeeded refreshes refreshed
    have single : world.loops = [.refreshing ticket ticker] := refreshes
    have found := (stage_eq_some_iff.mp refreshed).1
    simp [single, moveLoops?, moveLoop?, found] at moved

theorem Tended.step (tended : world.Tended) (turn : world.Turn next) :
    world.view.Step next.view := by
  cases turn with
  | react moved => exact tended.react_step moved
  | pass still forward due => exact .pass (tended.calm still forward due)
  | @read purpose deadline reads =>
      have possible : TokenManager.Step world.manager (.request purpose)
        (world.manager.request purpose) := .request purpose
      have apart : (TokenManager.Event.request purpose).reads = true := by
        simp [TokenManager.Event.reads, reads]
      have seen : (world.request purpose).view = world.view :=
        view_aside (possible.refreshStage?_eq tended.sound apart)
      rw [seen]
      exact .refl _
  | stop => exact .aside fun _ => Bool.or_true _
  | shutDown => exact .aside fun _ => Bool.true_or _

end SessionWorld
end StorageTelemetry
