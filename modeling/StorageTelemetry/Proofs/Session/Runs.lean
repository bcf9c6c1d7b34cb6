import StorageTelemetry.Proofs.Moves
import StorageTelemetry.Proofs.Tables
import StorageTelemetry.Session.TokenManager

namespace StorageTelemetry

/-!
# Runs of the token manager

A run is any list of moves of the manager and its callers, each possible in
its turn.  What a single move can do is said once, and from it follow two
invariants.  The first is about callers: whoever waits stands in the queue
once, and whoever logs in or stores a token holds the lock.  The second is
about what is kept: the token is that of the last login that succeeded, and
the mark says how the last login ended, once its refresh has ended.

A refresh stores the token before it sets the mark, so between the two the
mark is still that of the login before.
-/

/-- The stage that a caller reaches with the lock, given the token. -/
def Purpose.admittedStage (token : String) : Purpose → CallerStage
  | refresh => .loggingIn
  | read _ => .gotToken token
  | authenticate _ => .holding token

/-- The token that a caller was given. -/
def CallerStage.token? : CallerStage → Option String
  | gotToken token | holding token | checked token _ => some token
  | waiting _ | loggingIn | storing | refreshed _ | timedOut => none

namespace TokenManager

/-- The state after a list of moves, if each is possible in its turn. -/
abbrev run? (manager : TokenManager) (events : List Event) : Option TokenManager :=
  Moves.run? step? manager events

/-! ## Single moves -/

/-- The possible moves, with the states they lead to.  Those who want the lock
to read have a deadline. -/
inductive Step (manager : TokenManager) : Event → TokenManager → Prop
  | request (purpose : Purpose) : Step manager (.request purpose) (manager.request purpose)
  | beginRefresh {ticket : Ticket} {rest : List Ticket} (free : manager.holder = none)
      (queued : manager.queue = ticket :: rest)
      (waits : manager.callers.get? ticket = some (.waiting .refresh)) :
      Step manager .acquire
        { manager with
          callers := manager.callers.put ticket .loggingIn
          queue := rest
          holder := some ticket }
  | enter {ticket : Ticket} {rest : List Ticket} {purpose : Purpose} {deadline : Instant}
      (free : manager.holder = none) (queued : manager.queue = ticket :: rest)
      (waits : manager.callers.get? ticket = some (.waiting purpose))
      (reads : purpose.deadline? = some deadline) :
      Step manager .acquire
        { manager with
          callers := manager.callers.put ticket (purpose.admittedStage manager.token)
          queue := rest }
  | loginSucceeded {ticket : Ticket} (token : String) (holds : manager.holder = some ticket)
      (logsIn : manager.callers.get? ticket = some .loggingIn) :
      Step manager (.loginSucceeded token)
        { manager with callers := manager.callers.put ticket .storing, token }
  | markGood {ticket : Ticket} (holds : manager.holder = some ticket)
      (stores : manager.callers.get? ticket = some .storing) :
      Step manager .markGood
        { manager with
          callers := manager.callers.put ticket (.refreshed true)
          authenticated := true
          holder := none }
  | loginFailed {ticket : Ticket} (holds : manager.holder = some ticket)
      (logsIn : manager.callers.get? ticket = some .loggingIn) :
      Step manager .loginFailed
        { manager with
          callers := manager.callers.put ticket (.refreshed false)
          authenticated := false
          holder := none }
  | expire {ticket : Ticket} {purpose : Purpose} {deadline : Instant}
      (queued : ticket ∈ manager.queue)
      (waits : manager.callers.get? ticket = some (.waiting purpose))
      (reads : purpose.deadline? = some deadline) :
      Step manager (.expire ticket)
        { manager with
          callers := manager.callers.put ticket .timedOut
          queue := manager.queue.erase ticket }
  | readMark {ticket : Ticket} {token : String}
      (holding : manager.callers.get? ticket = some (.holding token)) :
      Step manager (.readMark ticket)
        { manager with
          callers := manager.callers.put ticket (.checked token manager.authenticated) }

variable {manager next : TokenManager} {event : Event}

/-- The lock holder is at a stage exactly if it is recorded there. -/
theorem holderAt?_eq_some_iff {stage : CallerStage} {ticket : Ticket} :
    manager.holderAt? stage = some ticket ↔
      manager.holder = some ticket ∧ manager.callers.get? ticket = some stage := by
  unfold holderAt?
  rw [Option.filter_eq_some_iff]
  simp

theorem step?_eq_some_iff : manager.step? event = some next ↔ Step manager event next := by
  constructor
  · intro ran
    cases event with
    | request purpose =>
        cases ran
        exact .request purpose
    | acquire =>
        simp only [step?, acquire?] at ran
        split at ran
        · rename_i ticket rest free queued
          split at ran
          · rename_i waits
            cases ran
            exact .beginRefresh free queued waits
          · rename_i deadline waits
            cases ran
            exact .enter free queued waits rfl
          · rename_i deadline waits
            cases ran
            exact .enter free queued waits rfl
          · cases ran
        · cases ran
    | loginSucceeded token =>
        rcases Option.map_eq_some_iff.mp ran with ⟨ticket, found, rfl⟩
        obtain ⟨holds, logsIn⟩ := holderAt?_eq_some_iff.mp found
        exact .loginSucceeded token holds logsIn
    | markGood =>
        rcases Option.map_eq_some_iff.mp ran with ⟨ticket, found, rfl⟩
        obtain ⟨holds, stores⟩ := holderAt?_eq_some_iff.mp found
        exact .markGood holds stores
    | loginFailed =>
        rcases Option.map_eq_some_iff.mp ran with ⟨ticket, found, rfl⟩
        obtain ⟨holds, logsIn⟩ := holderAt?_eq_some_iff.mp found
        exact .loginFailed holds logsIn
    | expire ticket =>
        simp only [step?] at ran
        split at ran
        · rename_i queued waits
          cases ran
          exact .expire (List.contains_iff_mem.mp queued) waits rfl
        · rename_i queued waits
          cases ran
          exact .expire (List.contains_iff_mem.mp queued) waits rfl
        · cases ran
    | readMark ticket =>
        simp only [step?] at ran
        split at ran
        · rename_i holding
          cases ran
          exact .readMark holding
        · cases ran
  · intro possible
    cases possible with
    | request purpose => rfl
    | beginRefresh free queued waits => simp only [step?, acquire?, free, queued, waits, setStage]
    | @enter ticket rest purpose deadline free queued waits reads =>
        cases purpose with
        | refresh => cases reads
        | read deadline =>
            simp only [step?, acquire?, free, queued, waits, setStage, Purpose.admittedStage]
        | authenticate deadline =>
            simp only [step?, acquire?, free, queued, waits, setStage, Purpose.admittedStage]
    | loginSucceeded token holds logsIn =>
        simp only [step?, holderAt?_eq_some_iff.mpr ⟨holds, logsIn⟩, Option.map_some, setStage]
    | markGood holds stores =>
        simp only [step?, holderAt?_eq_some_iff.mpr ⟨holds, stores⟩, Option.map_some, setStage]
    | loginFailed holds logsIn =>
        simp only [step?, holderAt?_eq_some_iff.mpr ⟨holds, logsIn⟩, Option.map_some, setStage]
    | @expire ticket purpose deadline queued waits reads =>
        have contained := List.contains_iff_mem.mpr queued
        cases purpose with
        | refresh => cases reads
        | read deadline => simp only [step?, contained, waits, setStage]
        | authenticate deadline => simp only [step?, contained, waits, setStage]
    | readMark holding => simp only [step?, holding, setStage]

/-- Whether a move belongs to the end of a login. -/
def Event.endsLogin : Event → Bool
  | loginSucceeded _ | markGood | loginFailed => true
  | request _ | acquire | expire _ | readMark _ => false

/-- Token and mark are left as they are until a login ends. -/
theorem Step.session_eq (possible : Step manager event next) (apart : event.endsLogin = false) :
    next.token = manager.token ∧ next.authenticated = manager.authenticated := by
  cases possible with
  | request | beginRefresh | enter | expire | readMark => exact ⟨rfl, rfl⟩
  | loginSucceeded | markGood | loginFailed => cases apart

theorem session_apply (manager : TokenManager) (apart : event.endsLogin = false) :
    (manager.apply event).token = manager.token ∧
      (manager.apply event).authenticated = manager.authenticated := by
  unfold apply
  cases moved : manager.step? event with
  | none => exact ⟨rfl, rfl⟩
  | some next => exact (step?_eq_some_iff.mp moved).session_eq apart

/-! ## Callers -/

/-- How callers, queue and lock belong together. -/
structure Sound (manager : TokenManager) : Prop where
  known : ∀ ticket stage, manager.callers.get? ticket = some stage → ticket < manager.nextTicket
  distinct : manager.queue.Nodup
  queued : ∀ ticket, ticket ∈ manager.queue ↔
    ∃ purpose, manager.callers.get? ticket = some (.waiting purpose)
  held : ∀ ticket, manager.holder = some ticket ↔
    manager.callers.get? ticket = some .loggingIn ∨ manager.callers.get? ticket = some .storing

theorem sound_initial : Sound initial := by
  constructor
  · intro ticket stage found
    cases found
  · exact List.nodup_nil
  · intro ticket
    simp [initial, Table.get?, Table.empty]
  · intro ticket
    simp [initial, Table.get?, Table.empty]

/-- A caller moves on to another stage.  Queue and lock are to be as that
stage wants them, and as before for everybody else. -/
theorem Sound.moved (sound : manager.Sound) {ticket : Ticket} {old stage : CallerStage}
    (found : manager.callers.get? ticket = some old)
    (callers : next.callers = manager.callers.put ticket stage)
    (tickets : next.nextTicket = manager.nextTicket) (distinct : next.queue.Nodup)
    (queue : ∀ other, other ∈ next.queue ↔
      if ticket = other then ∃ purpose, stage = .waiting purpose else other ∈ manager.queue)
    (holder : ∀ other, next.holder = some other ↔
      if ticket = other then stage = .loggingIn ∨ stage = .storing
      else manager.holder = some other) :
    next.Sound := by
  constructor
  · intro other stage' found'
    rw [callers, Table.get?_put] at found'
    rw [tickets]
    by_cases same : ticket = other
    · exact same ▸ sound.known ticket old found
    · rw [if_neg same] at found'
      exact sound.known other stage' found'
  · exact distinct
  · intro other
    rw [queue, callers, Table.get?_put]
    by_cases same : ticket = other
    · simp only [if_pos same, Option.some.injEq]
    · simp only [if_neg same, sound.queued other]
  · intro other
    rw [holder, callers, Table.get?_put]
    by_cases same : ticket = other
    · simp only [if_pos same, Option.some.injEq]
    · simp only [if_neg same, sound.held other]

theorem Sound.request (sound : manager.Sound) (purpose : Purpose) :
    (manager.request purpose).Sound := by
  have fresh : ∀ stage, manager.callers.get? manager.nextTicket ≠ some stage := by
    intro stage found
    exact Nat.lt_irrefl _ (sound.known manager.nextTicket stage found)
  have absent : manager.nextTicket ∉ manager.queue := by
    intro member
    rcases (sound.queued manager.nextTicket).mp member with ⟨purpose', found⟩
    exact fresh _ found
  constructor
  · intro ticket stage found
    simp only [TokenManager.request, setStage, Table.get?_put] at found ⊢
    by_cases same : manager.nextTicket = ticket
    · exact same ▸ Nat.lt_succ_self manager.nextTicket
    · rw [if_neg same] at found
      exact Nat.lt_succ_of_lt (sound.known ticket stage found)
  · refine List.nodup_append.mpr ⟨sound.distinct, List.nodup_singleton _, ?_⟩
    intro first inQueue second single same
    exact absent (List.mem_singleton.mp single ▸ same ▸ inQueue)
  · intro ticket
    simp only [TokenManager.request, setStage, Table.get?_put, List.mem_append,
      List.mem_singleton]
    by_cases same : manager.nextTicket = ticket
    · simp [same]
    · simp only [if_neg same, ← sound.queued ticket, Ne.symm same, or_false]
  · intro ticket
    simp only [TokenManager.request, setStage, Table.get?_put]
    by_cases same : manager.nextTicket = ticket
    · have free : manager.holder ≠ some ticket := by
        intro holds
        rcases (sound.held ticket).mp holds with found | found
        · exact fresh _ (same ▸ found)
        · exact fresh _ (same ▸ found)
      simp [same, free]
    · simp only [if_neg same, sound.held ticket]

/-- The first in the queue leaves it, and the others stay. -/
theorem Sound.mem_rest_iff (sound : manager.Sound) {ticket : Ticket} {rest : List Ticket}
    (queued : manager.queue = ticket :: rest) (other : Ticket) :
    other ∈ rest ↔ other ∈ manager.queue ∧ ticket ≠ other := by
  have parts := List.nodup_cons.mp (queued ▸ sound.distinct)
  rw [queued, List.mem_cons]
  constructor
  · intro member
    exact ⟨Or.inr member, fun same => parts.1 (same ▸ member)⟩
  · rintro ⟨first | member, different⟩
    · exact absurd first.symm different
    · exact member

/-- Every move keeps callers, queue and lock together. -/
theorem Sound.step (sound : manager.Sound) (possible : Step manager event next) :
    next.Sound := by
  cases possible with
  | request purpose => exact sound.request purpose
  | @beginRefresh ticket rest free queued waits =>
      refine sound.moved waits rfl rfl ?_ ?_ ?_
      · exact (List.nodup_cons.mp (queued ▸ sound.distinct)).2
      · intro other
        rw [sound.mem_rest_iff queued]
        by_cases same : ticket = other <;> simp [same]
      · intro other
        by_cases same : ticket = other <;> simp [same, free]
  | @enter ticket rest purpose deadline free queued waits reads =>
      refine sound.moved waits rfl rfl ?_ ?_ ?_
      · exact (List.nodup_cons.mp (queued ▸ sound.distinct)).2
      · intro other
        rw [sound.mem_rest_iff queued]
        by_cases same : ticket = other
        · cases purpose <;> simp [same, Purpose.admittedStage]
        · simp [same]
      · intro other
        cases purpose with
        | refresh => cases reads
        | read deadline => simp [free, Purpose.admittedStage]
        | authenticate deadline => simp [free, Purpose.admittedStage]
  | @loginSucceeded ticket token holds logsIn =>
      refine sound.moved logsIn rfl rfl sound.distinct ?_ ?_
      · intro other
        by_cases same : ticket = other
        · subst same
          simp [sound.queued ticket, logsIn]
        · simp [same]
      · intro other
        by_cases same : ticket = other <;> simp [same, holds]
  | @markGood ticket holds stores =>
      refine sound.moved stores rfl rfl sound.distinct ?_ ?_
      · intro other
        by_cases same : ticket = other
        · subst same
          simp [sound.queued ticket, stores]
        · simp [same]
      · intro other
        by_cases same : ticket = other <;> simp [same, holds]
  | @loginFailed ticket holds logsIn =>
      refine sound.moved logsIn rfl rfl sound.distinct ?_ ?_
      · intro other
        by_cases same : ticket = other
        · subst same
          simp [sound.queued ticket, logsIn]
        · simp [same]
      · intro other
        by_cases same : ticket = other <;> simp [same, holds]
  | @expire ticket purpose deadline queued waits reads =>
      refine sound.moved waits rfl rfl (sound.distinct.erase _) ?_ ?_
      · intro other
        rw [sound.distinct.mem_erase_iff]
        by_cases same : ticket = other
        · simp [same]
        · simp [same, Ne.symm same]
      · intro other
        by_cases same : ticket = other
        · subst same
          have free : manager.holder ≠ some ticket := by
            intro holds
            rcases (sound.held ticket).mp holds with found | found
            · simp [waits] at found
            · simp [waits] at found
          simp [free]
        · simp [same]
  | @readMark ticket token holding =>
      refine sound.moved holding rfl rfl sound.distinct ?_ ?_
      · intro other
        by_cases same : ticket = other
        · subst same
          simp [sound.queued ticket, holding]
        · simp [same]
      · intro other
        by_cases same : ticket = other
        · subst same
          simp [sound.held ticket, holding]
        · simp [same]

theorem Sound.run {events : List Event} (sound : manager.Sound)
    (ran : manager.run? events = some next) : next.Sound :=
  Moves.run_induction _ ran sound fun _ _ _ kept moved => kept.step (step?_eq_some_iff.mp moved)

/-! ## Logins -/

/-- The login that a move completes: with a token, or without one. -/
def Event.login? : Event → Option (Option String)
  | loginSucceeded token => some (some token)
  | loginFailed => some none
  | request _ | acquire | markGood | expire _ | readMark _ => none

/-- The logins that were completed, in their order. -/
def loginsOf (events : List Event) : List (Option String) := events.filterMap Event.login?

@[simp] theorem loginsOf_nil : loginsOf [] = [] := rfl

@[simp] theorem loginsOf_append (first second : List Event) :
    loginsOf (first ++ second) = loginsOf first ++ loginsOf second :=
  List.filterMap_append

theorem loginsOf_singleton (event : Event) : loginsOf [event] = event.login?.toList := by
  unfold loginsOf
  cases completed : event.login? with
  | none => exact List.filterMap_cons_none completed
  | some login => exact List.filterMap_cons_some completed

/-- The token of the last login that succeeded, and the empty one before. -/
def lastToken (logins : List (Option String)) : String :=
  (logins.filterMap id).getLast?.getD ""

@[simp] theorem lastToken_success (logins : List (Option String)) (token : String) :
    lastToken (logins ++ [some token]) = token := by
  simp [lastToken]

@[simp] theorem lastToken_failure (logins : List (Option String)) :
    lastToken (logins ++ [none]) = lastToken logins := by
  simp [lastToken]

/-- Once a login has succeeded, the logins before it do not matter. -/
theorem lastToken_append (earlier later : List (Option String)) (token : String) :
    lastToken (earlier ++ some token :: later) = lastToken (some token :: later) := by
  have tokens : (some token :: later).filterMap id = token :: later.filterMap id := rfl
  simp only [lastToken, List.filterMap_append, tokens, List.getLast?_append, List.getLast?_cons,
    Option.some_or]

/-- Whether there was a login and the last one succeeded. -/
def lastSucceeded (logins : List (Option String)) : Bool :=
  (logins.getLast?.map Option.isSome).getD false

@[simp] theorem lastSucceeded_append (logins : List (Option String)) (login : Option String) :
    lastSucceeded (logins ++ [login]) = login.isSome := by
  simp [lastSucceeded]

/-- Whether a refresh has stored its token and not yet set the mark. -/
def isStoring (manager : TokenManager) : Bool := (manager.holderAt? .storing).isSome

theorem isStoring_iff :
    manager.isStoring = true ↔
      ∃ ticket, manager.holder = some ticket ∧
        manager.callers.get? ticket = some .storing := by
  simp only [isStoring, Option.isSome_iff_exists, holderAt?_eq_some_iff]

theorem isStoring_eq_false {ticket : Ticket} {stage : CallerStage}
    (holds : manager.holder = some ticket) (found : manager.callers.get? ticket = some stage)
    (other : stage ≠ .storing) : manager.isStoring = false := by
  rw [← Bool.not_eq_true, isStoring_iff]
  rintro ⟨storer, held, stores⟩
  have same : ticket = storer := Option.some.inj (holds.symm.trans held)
  exact other (Option.some.inj (found.symm.trans (same ▸ stores)))

theorem isStoring_of_free (free : manager.holder = none) : manager.isStoring = false := by
  rw [← Bool.not_eq_true, isStoring_iff]
  rintro ⟨storer, held, stores⟩
  exact Option.some_ne_none storer (held.symm.trans free)

/-- The logins that the mark tells of: all of them, except for one whose
refresh has yet to set the mark. -/
def settled (manager : TokenManager) (logins : List (Option String)) : List (Option String) :=
  if manager.isStoring then logins.dropLast else logins

/-- Token and mark agree with the logins that were completed. -/
structure Account (manager : TokenManager) (logins : List (Option String)) : Prop where
  token : manager.token = lastToken logins
  mark : manager.authenticated = lastSucceeded (manager.settled logins)
  stored : manager.isStoring = true → ∃ earlier, logins = earlier ++ [some manager.token]

theorem account_initial : Account initial [] :=
  ⟨rfl, rfl, fun storing => nomatch storing⟩

variable {logins : List (Option String)}

/-- A move that leaves token, mark and storing refreshes alone leaves the
account as it was. -/
theorem Account.of_same (account : manager.Account logins) (token : next.token = manager.token)
    (mark : next.authenticated = manager.authenticated)
    (storing : next.isStoring = manager.isStoring) : next.Account logins := by
  constructor
  · rw [token, account.token]
  · rw [mark, account.mark, settled, settled, storing]
  · rw [token, storing]
    exact account.stored

/-- A caller who does not hold the lock moves on: whether a token is being
stored stays the same. -/
theorem isStoring_put {ticket : Ticket} {stage : CallerStage}
    (callers : next.callers = manager.callers.put ticket stage)
    (holder : next.holder = manager.holder) (other : manager.holder ≠ some ticket) :
    next.isStoring = manager.isStoring := by
  rw [Bool.eq_iff_iff, isStoring_iff, isStoring_iff, holder, callers]
  refine exists_congr fun storer => and_congr_right fun held => ?_
  have different : ticket ≠ storer := fun same => other (same ▸ held)
  rw [Table.get?_put, if_neg different]

/-- A waiting caller does not hold the lock. -/
theorem Sound.not_holder (sound : manager.Sound) {ticket : Ticket} {stage : CallerStage}
    (found : manager.callers.get? ticket = some stage) (idle : stage ≠ .loggingIn)
    (quiet : stage ≠ .storing) : manager.holder ≠ some ticket := by
  intro held
  rcases (sound.held ticket).mp held with logsIn | stores
  · exact idle (Option.some.inj (found.symm.trans logsIn))
  · exact quiet (Option.some.inj (found.symm.trans stores))

/-- Every move keeps the account, with the login that it completes. -/
theorem Account.step (account : manager.Account logins) (sound : manager.Sound)
    (possible : Step manager event next) : next.Account (logins ++ event.login?.toList) := by
  cases possible with
  | request purpose =>
      have absent : manager.holder ≠ some manager.nextTicket := by
        intro held
        rcases (sound.held manager.nextTicket).mp held with found | found
        · exact Nat.lt_irrefl _ (sound.known _ _ found)
        · exact Nat.lt_irrefl _ (sound.known _ _ found)
      have asked : (manager.request purpose).Account logins :=
        account.of_same rfl rfl (isStoring_put rfl rfl absent)
      simpa [Event.login?] using asked
  | @beginRefresh ticket rest free queued waits =>
      simp only [Event.login?, Option.toList_none, List.append_nil]
      refine account.of_same rfl rfl ?_
      rw [isStoring_of_free free]
      exact isStoring_eq_false rfl ((Table.get?_put _ _ _ _).trans (if_pos rfl)) (by simp)
  | @enter ticket rest purpose deadline free queued waits reads =>
      simp only [Event.login?, Option.toList_none, List.append_nil]
      exact account.of_same rfl rfl (isStoring_put rfl rfl (by simp [free]))
  | @loginSucceeded ticket token holds logsIn =>
      have quiet : manager.isStoring = false := isStoring_eq_false holds logsIn (by simp)
      have storing : isStoring { manager with
          callers := manager.callers.put ticket .storing, token := token } = true :=
        isStoring_iff.mpr ⟨ticket, holds, (Table.get?_put _ _ _ _).trans (if_pos rfl)⟩
      have mark := account.mark
      rw [settled, quiet] at mark
      constructor
      · simp [Event.login?]
      · simpa [settled, storing, Event.login?] using mark
      · intro _
        exact ⟨logins, rfl⟩
  | @markGood ticket holds stores =>
      obtain ⟨earlier, rfl⟩ := account.stored (isStoring_iff.mpr ⟨ticket, holds, stores⟩)
      simp only [Event.login?, Option.toList_none, List.append_nil]
      constructor
      · exact account.token
      · simp [settled, isStoring_of_free]
      · simp [isStoring_of_free]
  | @loginFailed ticket holds logsIn =>
      constructor
      · simpa [Event.login?] using account.token
      · simp [settled, isStoring_of_free, Event.login?]
      · simp [isStoring_of_free]
  | @expire ticket purpose deadline queued waits reads =>
      simp only [Event.login?, Option.toList_none, List.append_nil]
      exact account.of_same rfl rfl
        (isStoring_put rfl rfl (sound.not_holder waits (by simp) (by simp)))
  | @readMark ticket token holding =>
      simp only [Event.login?, Option.toList_none, List.append_nil]
      exact account.of_same rfl rfl
        (isStoring_put rfl rfl (sound.not_holder holding (by simp) (by simp)))

/-- Along every run token and mark agree with the logins completed in it. -/
theorem Account.run {events : List Event} (account : manager.Account logins)
    (sound : manager.Sound) (ran : manager.run? events = some next) :
    next.Account (logins ++ loginsOf events) := by
  induction events generalizing manager logins with
  | nil =>
      cases ran
      simpa using account
  | cons event rest ih =>
      obtain ⟨middle, moved, continued⟩ := Moves.run?_cons_eq_some_iff.mp ran
      have possible := step?_eq_some_iff.mp moved
      have reached := ih (account.step sound possible) (sound.step possible) continued
      rwa [List.append_assoc, ← loginsOf_singleton, ← loginsOf_append] at reached

end TokenManager
end StorageTelemetry
