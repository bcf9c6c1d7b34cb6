import StorageTelemetry.Proofs.Session.Runs

namespace StorageTelemetry

/-!
# Callers on their way

Here a single caller is followed through a run.  What a move can do to one
caller is said once; the rest is read off.  A caller who has a token got it
when it was first in the queue and nobody held the lock, and the token was the
one kept at that moment.  A caller who asked while a refresh held the lock
comes after that refresh.
-/

namespace TokenManager

variable {manager next : TokenManager} {event : Event} {ticket : Ticket}

/-! ## Stages -/

/-- The ways in which a move can change the stage of a caller, from the old
stage to the new one. -/
inductive Passage (manager : TokenManager) (ticket : Ticket) :
    Event → Option CallerStage → CallerStage → Prop
  | asks {purpose : Purpose} (new : ticket = manager.nextTicket) :
      Passage manager ticket (.request purpose) none (.waiting purpose)
  | begins (free : manager.holder = none) (first : manager.queue.head? = some ticket) :
      Passage manager ticket .acquire (some (.waiting .refresh)) .loggingIn
  | admitted {purpose : Purpose} {deadline : Instant} (free : manager.holder = none)
      (first : manager.queue.head? = some ticket) (reads : purpose.deadline? = some deadline) :
      Passage manager ticket .acquire (some (.waiting purpose))
        (purpose.admittedStage manager.token)
  | stores (token : String) :
      Passage manager ticket (.loginSucceeded token) (some .loggingIn) .storing
  | succeeds : Passage manager ticket .markGood (some .storing) (.refreshed true)
  | fails : Passage manager ticket .loginFailed (some .loggingIn) (.refreshed false)
  | givesUp {purpose : Purpose} {deadline : Instant} (reads : purpose.deadline? = some deadline) :
      Passage manager ticket (.expire ticket) (some (.waiting purpose)) .timedOut
  | looks (token : String) :
      Passage manager ticket (.readMark ticket) (some (.holding token))
        (.checked token manager.authenticated)

/-- A new caller has no stage yet. -/
theorem Sound.stage_of_new (sound : manager.Sound) :
    manager.callers.get? manager.nextTicket = none := by
  rw [Option.eq_none_iff_forall_not_mem]
  intro stage found
  exact Nat.lt_irrefl _ (sound.known manager.nextTicket stage found)

/-- A move puts a caller to a stage: to everybody else it does nothing. -/
theorem passage_of_put {other : Ticket} {old : Option CallerStage} {stage : CallerStage}
    (callers : next.callers = manager.callers.put other stage)
    (found : manager.callers.get? other = old)
    (passage : Passage manager other event old stage) (ticket : Ticket) :
    next.callers.get? ticket = manager.callers.get? ticket ∨
      ∃ stage, next.callers.get? ticket = some stage ∧
        Passage manager ticket event (manager.callers.get? ticket) stage := by
  rw [callers, Table.get?_put]
  by_cases same : other = ticket
  · subst same
    rw [if_pos rfl, found]
    exact Or.inr ⟨stage, rfl, passage⟩
  · rw [if_neg same]
    exact Or.inl rfl

/-- A move leaves a caller where it is, or takes it along one of the passages. -/
theorem Step.passage (possible : Step manager event next) (sound : manager.Sound)
    (ticket : Ticket) :
    next.callers.get? ticket = manager.callers.get? ticket ∨
      ∃ stage, next.callers.get? ticket = some stage ∧
        Passage manager ticket event (manager.callers.get? ticket) stage := by
  cases possible with
  | request purpose => exact passage_of_put rfl sound.stage_of_new (.asks rfl) ticket
  | beginRefresh free queued waits =>
      exact passage_of_put rfl waits (.begins free (by rw [queued]; rfl)) ticket
  | enter free queued waits reads =>
      exact passage_of_put rfl waits (.admitted free (by rw [queued]; rfl) reads) ticket
  | loginSucceeded token holds logsIn => exact passage_of_put rfl logsIn (.stores token) ticket
  | markGood holds stores => exact passage_of_put rfl stores .succeeds ticket
  | loginFailed holds logsIn => exact passage_of_put rfl logsIn .fails ticket
  | expire queued waits reads => exact passage_of_put rfl waits (.givesUp reads) ticket
  | readMark holding => exact passage_of_put rfl holding (.looks _) ticket

/-- Nobody moves on from a last stage. -/
theorem Step.stage_of_isDone (possible : Step manager event next) (sound : manager.Sound)
    {stage : CallerStage} (found : manager.callers.get? ticket = some stage)
    (done : stage.isDone = true) : next.callers.get? ticket = some stage := by
  rcases possible.passage sound ticket with same | ⟨stage', reached, passage⟩
  · rw [same, found]
  · rw [found] at passage
    cases passage <;> cases done

/-- A known caller who waits after a move waited before it, for the same. -/
theorem Step.waiting_before (possible : Step manager event next) (sound : manager.Sound)
    {stage : CallerStage} (known : manager.callers.get? ticket = some stage) {purpose : Purpose}
    (waits : next.callers.get? ticket = some (.waiting purpose)) :
    manager.callers.get? ticket = some (.waiting purpose) := by
  rcases possible.passage sound ticket with same | ⟨stage', reached, passage⟩
  · rw [← same, waits]
  · have changed : stage' = .waiting purpose := Option.some.inj (reached.symm.trans waits)
    rw [known] at passage
    cases passage with
    | @admitted purpose' deadline free first reads => cases purpose' <;> cases changed
    | begins | stores | succeeds | fails | givesUp | looks => cases changed

/-- A known caller stays known. -/
theorem Step.exists_stage (possible : Step manager event next) (sound : manager.Sound)
    {stage : CallerStage} (known : manager.callers.get? ticket = some stage) :
    ∃ stage', next.callers.get? ticket = some stage' := by
  rcases possible.passage sound ticket with same | ⟨stage', reached, passage⟩
  · exact ⟨stage, same.trans known⟩
  · exact ⟨stage', reached⟩

theorem waiting_before {events : List Event} (sound : manager.Sound)
    (ran : manager.run? events = some next) {stage : CallerStage}
    (known : manager.callers.get? ticket = some stage) {purpose : Purpose}
    (waits : next.callers.get? ticket = some (.waiting purpose)) :
    manager.callers.get? ticket = some (.waiting purpose) := by
  induction events generalizing manager stage with
  | nil =>
      cases ran
      exact waits
  | cons event rest ih =>
      obtain ⟨middle, moved, continued⟩ := Moves.run?_cons_eq_some_iff.mp ran
      have possible := step?_eq_some_iff.mp moved
      obtain ⟨stage', found⟩ := possible.exists_stage sound known
      exact possible.waiting_before sound known (ih (sound.step possible) continued found)

/-! ## Tokens -/

/-- The token that a caller was given, if it was. -/
def tokenOf? (manager : TokenManager) (ticket : Ticket) : Option String :=
  (manager.callers.get? ticket).bind CallerStage.token?

/-- A caller is let in to read: it is the first in the queue, nobody holds the
lock, and it takes the token that is kept. -/
structure Admission (manager next : TokenManager) (event : Event) (ticket : Ticket)
    (token : String) : Prop where
  acquires : event = .acquire
  free : manager.holder = none
  first : manager.queue.head? = some ticket
  waits : ∃ purpose, manager.callers.get? ticket = some (.waiting purpose)
  current : token = manager.token

/-- A token is given to a caller only when it is let in. -/
theorem Step.admission (possible : Step manager event next) (sound : manager.Sound)
    {token : String} (before : manager.tokenOf? ticket ≠ some token)
    (after : next.tokenOf? ticket = some token) : Admission manager next event ticket token := by
  rcases possible.passage sound ticket with same | ⟨stage, reached, passage⟩
  · rw [tokenOf?, same] at after
    exact absurd after before
  · rw [tokenOf?, reached, Option.bind_some] at after
    cases old : manager.callers.get? ticket with
    | none =>
        rw [old] at passage
        cases passage
        cases after
    | some stage' =>
        rw [tokenOf?, old, Option.bind_some] at before
        rw [old] at passage
        cases passage with
        | @admitted purpose deadline free first reads =>
            refine ⟨rfl, free, first, ⟨purpose, old⟩, ?_⟩
            cases purpose with
            | refresh => cases reads
            | read _ => exact (Option.some.inj after).symm
            | authenticate _ => exact (Option.some.inj after).symm
        | looks token' => exact absurd after before
        | begins | stores | succeeds | fails | givesUp => cases after

/-- A caller gives up only by its own move, and only while it waits. -/
theorem Step.expiry (possible : Step manager event next) (sound : manager.Sound)
    (before : manager.callers.get? ticket ≠ some .timedOut)
    (after : next.callers.get? ticket = some .timedOut) :
    event = .expire ticket ∧
      ∃ purpose deadline, manager.callers.get? ticket = some (.waiting purpose) ∧
        purpose.deadline? = some deadline := by
  rcases possible.passage sound ticket with same | ⟨stage, reached, passage⟩
  · rw [same] at after
    exact absurd after before
  · have final : stage = .timedOut := Option.some.inj (reached.symm.trans after)
    generalize old : manager.callers.get? ticket = found at passage
    cases passage with
    | @givesUp purpose deadline reads => exact ⟨rfl, purpose, deadline, rfl, reads⟩
    | @admitted purpose deadline free first reads => cases purpose <;> cases final
    | asks | begins | stores | succeeds | fails | looks => cases final

/-! ## Readers -/

/-- The stages at which someone who asked for the lock to read can be. -/
inductive Visits : Purpose → CallerStage → Prop
  | waits (purpose : Purpose) : Visits purpose (.waiting purpose)
  | gaveUp (purpose : Purpose) : Visits purpose .timedOut
  | admitted (purpose : Purpose) (token : String) : Visits purpose (purpose.admittedStage token)
  | checked (deadline : Instant) (token : String) (mark : Bool) :
      Visits (.authenticate deadline) (.checked token mark)

theorem Step.visits (possible : Step manager event next) (sound : manager.Sound)
    {purpose : Purpose} {deadline : Instant} (reads : purpose.deadline? = some deadline)
    {stage : CallerStage} (found : manager.callers.get? ticket = some stage)
    (visits : Visits purpose stage) :
    ∃ stage', next.callers.get? ticket = some stage' ∧ Visits purpose stage' := by
  rcases possible.passage sound ticket with same | ⟨stage', reached, passage⟩
  · exact ⟨stage, same.trans found, visits⟩
  · refine ⟨stage', reached, ?_⟩
    rw [found] at passage
    cases visits with
    | waits =>
        cases passage with
        | begins => cases reads
        | admitted => exact .admitted purpose manager.token
        | givesUp => exact .gaveUp purpose
    | gaveUp => cases passage
    | admitted purpose token =>
        cases purpose with
        | refresh => cases reads
        | read deadline' => cases passage
        | authenticate deadline' =>
            cases passage
            exact .checked deadline' token manager.authenticated
    | checked => cases passage

/-- Whoever asked to read waits, has given up, or has a token. -/
theorem visits_of_request {purpose : Purpose} {deadline : Instant} {events : List Event}
    (sound : manager.Sound) (reads : purpose.deadline? = some deadline)
    (ran : (manager.request purpose).run? events = some next) :
    ∃ stage, next.callers.get? manager.nextTicket = some stage ∧ Visits purpose stage := by
  have asked : (manager.request purpose).callers.get? manager.nextTicket =
      some (.waiting purpose) := (Table.get?_put _ _ _ _).trans (if_pos rfl)
  have kept := Moves.run_induction
    (fun current => current.Sound ∧
      ∃ stage, current.callers.get? manager.nextTicket = some stage ∧ Visits purpose stage) ran
    ⟨sound.request purpose, _, asked, .waits purpose⟩ fun _ _ _ ⟨sound, _, found, visits⟩ moved =>
      have possible := step?_eq_some_iff.mp moved
      ⟨sound.step possible, possible.visits sound reads found visits⟩
  exact kept.2

/-! ## Refreshes that hold the lock -/

/-- How far a refresh has come, and the logins completed by then.  The logins
before its own are `base`. -/
inductive Course (base : List (Option String)) : CallerStage → List (Option String) → Prop
  | loggingIn : Course base .loggingIn base
  | storing (token : String) : Course base .storing (base ++ [some token])
  | refreshed (own : Option String) (later : List (Option String)) :
      Course base (.refreshed own.isSome) (base ++ own :: later)

/-- A login is completed by the lock holder, who was logging in. -/
theorem Step.exists_login (possible : Step manager event next) {login : Option String}
    (completed : event.login? = some login) :
    ∃ ticket, manager.holder = some ticket ∧
      manager.callers.get? ticket = some .loggingIn ∧
        next.callers.get? ticket ≠ some .loggingIn := by
  cases possible with
  | @loginSucceeded ticket token holds logsIn =>
      refine ⟨ticket, holds, logsIn, ?_⟩
      simp [Table.get?_put]
  | @loginFailed ticket holds logsIn =>
      refine ⟨ticket, holds, logsIn, ?_⟩
      simp [Table.get?_put]
  | request | beginRefresh | enter | markGood | expire | readMark => cases completed

/-- A refresh that holds the lock and does not move keeps others from
completing a login. -/
theorem Step.login_eq_none (possible : Step manager event next)
    (holds : manager.holder = some ticket)
    (still : next.callers.get? ticket = manager.callers.get? ticket) : event.login? = none := by
  rw [Option.eq_none_iff_forall_not_mem]
  intro login completed
  obtain ⟨other, held, logsIn, moved⟩ := possible.exists_login completed
  have same : ticket = other := Option.some.inj (holds.symm.trans held)
  subst same
  exact moved (still.trans logsIn)

theorem Course.step {base logins : List (Option String)} {stage : CallerStage}
    (course : Course base stage logins) (sound : manager.Sound)
    (found : manager.callers.get? ticket = some stage) (possible : Step manager event next) :
    ∃ stage', next.callers.get? ticket = some stage' ∧
      Course base stage' (logins ++ event.login?.toList) := by
  have passage := possible.passage sound ticket
  cases course with
  | loggingIn =>
      rcases passage with same | ⟨stage', reached, passage⟩
      · have holds := (sound.held ticket).mpr (Or.inl found)
        rw [possible.login_eq_none holds same]
        exact ⟨_, same.trans found, by simpa using Course.loggingIn⟩
      · refine ⟨stage', reached, ?_⟩
        rw [found] at passage
        cases passage with
        | stores token => exact .storing token
        | fails => exact .refreshed none []
  | storing token =>
      rcases passage with same | ⟨stage', reached, passage⟩
      · have holds := (sound.held ticket).mpr (Or.inr found)
        rw [possible.login_eq_none holds same]
        exact ⟨_, same.trans found, by simpa using Course.storing token⟩
      · refine ⟨stage', reached, ?_⟩
        rw [found] at passage
        cases passage
        simpa [Event.login?] using Course.refreshed (some token) []
  | refreshed own later =>
      refine ⟨_, possible.stage_of_isDone sound found rfl, ?_⟩
      rw [List.append_assoc, List.cons_append]
      exact .refreshed own _

theorem Course.run {base logins : List (Option String)} {stage : CallerStage}
    {events : List Event} (course : Course base stage logins) (sound : manager.Sound)
    (found : manager.callers.get? ticket = some stage) (ran : manager.run? events = some next) :
    ∃ stage', next.callers.get? ticket = some stage' ∧
      Course base stage' (logins ++ loginsOf events) := by
  induction events generalizing manager stage logins with
  | nil =>
      cases ran
      exact ⟨stage, found, by simpa using course⟩
  | cons event rest ih =>
      obtain ⟨middle, moved, continued⟩ := Moves.run?_cons_eq_some_iff.mp ran
      have possible := step?_eq_some_iff.mp moved
      obtain ⟨stage', found', course'⟩ := course.step sound found possible
      have reached := ih course' (sound.step possible) found' continued
      rwa [List.append_assoc, ← loginsOf_singleton, ← loginsOf_append] at reached

/-- The lock holder is under way to a login that the mark does not tell of. -/
theorem Account.course {logins : List (Option String)} (account : manager.Account logins)
    (sound : manager.Sound) (holds : manager.holder = some ticket) :
    ∃ stage, manager.callers.get? ticket = some stage ∧
      Course (manager.settled logins) stage logins := by
  rcases (sound.held ticket).mp holds with logsIn | stores
  · have quiet := isStoring_eq_false holds logsIn (by simp)
    refine ⟨_, logsIn, ?_⟩
    rw [settled, quiet]
    exact .loggingIn
  · have storing := isStoring_iff.mpr ⟨ticket, holds, stores⟩
    obtain ⟨earlier, split⟩ := account.stored storing
    refine ⟨_, stores, ?_⟩
    rw [settled, storing, if_pos rfl, split, List.dropLast_concat]
    exact .storing manager.token

/-- Once the lock is free, the refresh that held it is over: its login is among
those completed, after those that the mark told of. -/
theorem exists_own_login {logins : List (Option String)} {events : List Event}
    (account : manager.Account logins) (sound : manager.Sound)
    (holds : manager.holder = some ticket) (ran : manager.run? events = some next)
    (free : next.holder = none) :
    ∃ own later, logins ++ loginsOf events = manager.settled logins ++ own :: later ∧
      next.callers.get? ticket = some (.refreshed own.isSome) := by
  obtain ⟨stage, found, course⟩ := account.course sound holds
  obtain ⟨stage', found', course'⟩ := course.run sound found ran
  have idle : next.holder ≠ some ticket := by
    intro held
    cases free.symm.trans held
  generalize all : logins ++ loginsOf events = completed at course'
  cases course' with
  | loggingIn => exact absurd (((sound.run ran).held ticket).mpr (Or.inl found')) idle
  | storing => exact absurd (((sound.run ran).held ticket).mpr (Or.inr found')) idle
  | refreshed own later => exact ⟨own, later, rfl, found'⟩

end TokenManager
end StorageTelemetry
