import StorageTelemetry.Proofs.Session.Clocked

namespace StorageTelemetry

/-!
# Refreshes and readers at one lock

What becomes of everyone who asks for the token, in every run on the clock.
-/

namespace Clocked

open TokenManager

variable {clocked last : Clocked} {moves : List Move} {ticket : Ticket}

/-- The logins that were completed, in their order. -/
def loginsIn (moves : List Move) : List (Option String) := loginsOf (eventsOf moves)

/-- The state after a caller has asked for the lock. -/
def asked (clocked : Clocked) (purpose : Purpose) : Clocked :=
  { clocked with manager := clocked.manager.request purpose }

/-- The state in which a ticket was given to nobody. -/
def skipped (clocked : Clocked) : Clocked :=
  { clocked with
    manager := { clocked.manager with nextTicket := clocked.manager.nextTicket + 1 } }

/-! ## Runs without a reader -/

/-- A run during which a reader waits is possible without it. -/
theorem run?_without_of_waits (sound : clocked.manager.Sound)
    (ran : clocked.run? moves = some last) {stage : CallerStage}
    (known : clocked.manager.callers.get? ticket = some stage) {purpose : Purpose}
    (waits : last.manager.callers.get? ticket = some (.waiting purpose)) :
    (clocked.without ticket).run? moves = some (last.without ticket) := by
  induction moves generalizing clocked stage with
  | nil =>
      cases ran
      rfl
  | cons move rest ih =>
      have before := waiting_before sound (run_events ran) known waits
      obtain ⟨next, moved, continued⟩ := Moves.run?_cons_eq_some_iff.mp ran
      have possible := step?_eq_some_iff.mp moved
      obtain ⟨stage', known'⟩ := possible.exists_stage sound known
      have after := waiting_before (possible.sound sound) (run_events continued) known' waits
      exact Moves.run?_cons_eq_some_iff.mpr
        ⟨_, possible.without_of_waits sound before after,
          ih (possible.sound sound) continued known'⟩

/-- Once a reader has given up, the same runs are possible without it. -/
theorem run?_without_of_timedOut (sound : clocked.manager.Sound)
    (found : clocked.manager.callers.get? ticket = some .timedOut) (moves : List Move) :
    (clocked.without ticket).run? moves =
      (clocked.run? moves).map fun last => last.without ticket := by
  induction moves generalizing clocked with
  | nil => rfl
  | cons move rest ih =>
      simp only [Moves.run?, step?_without_of_timedOut sound found]
      cases moved : clocked.step? move with
      | none => rfl
      | some next =>
          have possible := step?_eq_some_iff.mp moved
          exact ih (possible.sound sound) (possible.stage_of_isDone sound found rfl)

/-! ## What becomes of a reader -/

/-- What has become of a reader who asked for the lock when the state was
`began`, after the moves `before`.  Since then there were the moves `after`,
which led to the state `last`. -/
inductive Fate (before : List Move) (began : Clocked) (purpose : Purpose) (deadline : Instant)
    (after : List Move) (last : Clocked) : Prop
  /-- It still waits in the queue, and its deadline is not past. -/
  | waits
      (stage : last.manager.callers.get? began.manager.nextTicket = some (.waiting purpose))
      (queued : began.manager.nextTicket ∈ last.manager.queue)
      (inTime : last.clock ≤ deadline)
  /-- It gave up, at its deadline, and was told so.  The other moves are a run without it, to the
  same state but for the reader, and from there the same moves are possible. -/
  | gaveUp {early late : List Move} {expired : Clocked}
      (split : after = early ++ .act (.expire began.manager.nextTicket) :: late)
      (reached : (began.asked purpose).run? early = some expired)
      (atDeadline : expired.clock = deadline)
      (stage : last.manager.callers.get? began.manager.nextTicket = some .timedOut)
      (answer : tokenAnswer .timedOut = .error (.timeout "gateway token"))
      (unnoticed : began.skipped.run? (early ++ late) =
        some (last.without began.manager.nextTicket))
      (harmless : ∀ more, (last.without began.manager.nextTicket).run? more =
        (last.run? more).map fun end_ => end_.without began.manager.nextTicket)
  /-- It was let in, in its turn and in time, when nobody held the lock and no
  login was under way, and was given the token of the last login that had
  succeeded by then.  If a refresh held the lock when the reader asked, then that
  refresh was over: its login is among those completed, and if it succeeded, the
  token is from this login or from a later one. -/
  | served {early late : List Move} {granted : Clocked} {token : String} {stage : CallerStage}
      (split : after = early ++ .act .acquire :: late)
      (reached : (began.asked purpose).run? early = some granted)
      (first : granted.manager.queue.head? = some began.manager.nextTicket)
      (free : granted.manager.holder = none)
      (idle : ∀ ticket, granted.manager.callers.get? ticket ≠ some .loggingIn)
      (inTime : granted.clock ≤ deadline)
      (found : last.manager.callers.get? began.manager.nextTicket = some stage)
      (given : stage.token? = some token)
      (answer : ∀ moment, purpose = .read moment → tokenAnswer stage = .ok token)
      (current : token = lastToken (loginsIn before ++ loginsIn early))
      (fresh : ∀ refresh, began.manager.holder = some refresh → ∃ own later,
        loginsIn before ++ loginsIn early =
            began.manager.settled (loginsIn before) ++ own :: later ∧
          granted.manager.callers.get? refresh = some (.refreshed own.isSome) ∧
            (own.isSome = true → token = lastToken (own :: later)))

variable {before after : List Move} {began : Clocked} {purpose : Purpose} {deadline : Instant}

theorem stage_of_asked (clocked : Clocked) (purpose : Purpose) :
    (clocked.asked purpose).manager.callers.get? clocked.manager.nextTicket =
      some (.waiting purpose) :=
  (Table.get?_put _ _ _ _).trans (if_pos rfl)

/-- A reader who waits now has waited since it asked, with the same deadline. -/
theorem deadlineOf?_of_waits (sound : began.manager.Sound)
    (reads : purpose.deadline? = some deadline)
    (reached : (began.asked purpose).run? moves = some last) {purpose' : Purpose}
    (waits : last.manager.callers.get? began.manager.nextTicket = some (.waiting purpose')) :
    last.manager.deadlineOf? began.manager.nextTicket = some deadline := by
  have asked := stage_of_asked began purpose
  have before := waiting_before (sound.request purpose) (run_events reached) asked waits
  have same : purpose = purpose' := by
    have stages := Option.some.inj (asked.symm.trans before)
    exact CallerStage.waiting.inj stages
  exact deadlineOf?_eq_some_iff.mpr ⟨purpose, same ▸ waits, reads⟩

/-- What is asked and not reckoned with is skipped. -/
theorem without_asked (sound : began.manager.Sound) (purpose : Purpose) :
    (began.asked purpose).without began.manager.nextTicket = began.skipped := by
  simp only [without, asked, sound.without_request purpose, skipped]

/-- Giving up makes no difference to the others. -/
theorem Step.without_expire (possible : Step clocked (.act (.expire ticket)) last)
    (sound : clocked.manager.Sound) : last.without ticket = clocked.without ticket := by
  cases possible with
  | act allowed possible =>
      cases possible
      exact congrArg (Clocked.mk clocked.clock) (sound.without_expire .timedOut)

theorem fate_of_timedOut (timely : began.Timely) (asked : (began.asked purpose).Timely)
    (reads : purpose.deadline? = some deadline)
    (ran : (began.asked purpose).run? after = some last)
    (gaveUp : last.manager.callers.get? began.manager.nextTicket = some .timedOut) :
    Fate before began purpose deadline after last := by
  have waiting := stage_of_asked began purpose
  have notYet : (began.asked purpose).manager.callers.get? began.manager.nextTicket ≠
      some .timedOut := by
    rw [waiting]
    simp
  obtain ⟨early, move, late, expired, turned, split, reached, still, moved, turns, continued⟩ :=
    Moves.exists_turn
      (fun state => state.manager.callers.get? began.manager.nextTicket = some .timedOut)
      ran notYet gaveUp
  have timely' := asked.run reached
  have possible := step?_eq_some_iff.mp moved
  cases move with
  | pass moment =>
      cases possible
      exact absurd turns still
  | act event =>
      have own : event = .expire began.manager.nextTicket ∧
          ∃ purpose', expired.manager.callers.get? began.manager.nextTicket =
            some (.waiting purpose') := by
        cases possible with
        | act allowed possible =>
            obtain ⟨expires, purpose', _, waits, _⟩ := possible.expiry timely'.sound still turns
            exact ⟨expires, purpose', waits⟩
      obtain ⟨rfl, purpose', waits⟩ := own
      have without : (expired.without began.manager.nextTicket).run? late =
          some (last.without began.manager.nextTicket) := by
        rw [← possible.without_expire timely'.sound,
          run?_without_of_timedOut (possible.sound timely'.sound) turns]
        exact congrArg (Option.map _) continued
      refine .gaveUp split reached ?_ gaveUp rfl ?_ ?_
      · exact timely'.clock_of_expire possible
          (deadlineOf?_of_waits timely.sound reads reached waits)
      · rw [← without_asked timely.sound purpose]
        exact Moves.run?_append_eq_some_iff.mpr
          ⟨_, run?_without_of_waits asked.sound reached waiting waits, without⟩
      · exact run?_without_of_timedOut (asked.run ran).sound gaveUp

theorem fate_of_token (timely : began.Timely) (asked : (began.asked purpose).Timely)
    (account : began.manager.Account (loginsIn before))
    (reads : purpose.deadline? = some deadline)
    (ran : (began.asked purpose).run? after = some last) {stage : CallerStage} {token : String}
    (found : last.manager.callers.get? began.manager.nextTicket = some stage)
    (given : stage.token? = some token)
    (answer : ∀ moment, purpose = .read moment → tokenAnswer stage = .ok token) :
    Fate before began purpose deadline after last := by
  have waiting := stage_of_asked began purpose
  have notYet : (began.asked purpose).manager.tokenOf? began.manager.nextTicket ≠ some token := by
    rw [tokenOf?, waiting]
    simp [CallerStage.token?]
  have holds : last.manager.tokenOf? began.manager.nextTicket = some token := by
    rw [tokenOf?, found, Option.bind_some, given]
  obtain ⟨early, move, late, granted, turned, split, reached, still, moved, turns, continued⟩ :=
    Moves.exists_turn
      (fun state => state.manager.tokenOf? began.manager.nextTicket = some token)
      ran notYet holds
  have timely' := asked.run reached
  cases step?_eq_some_iff.mp moved with
  | pass allowed => exact absurd turns still
  | act allowed possible =>
      obtain ⟨rfl, free, first, ⟨purpose', waits⟩, current⟩ :=
        possible.admission timely'.sound still turns
      have events : began.manager.run? (.request purpose :: eventsOf early) =
          some granted.manager :=
        Moves.run?_cons_eq_some_iff.mpr ⟨_, rfl, run_events reached⟩
      have logins : loginsOf (.request purpose :: eventsOf early) = loginsIn early := rfl
      have account' := account.run timely.sound events
      rw [logins] at account'
      refine .served split reached first free ?_ ?_ found given answer
        (current.trans account'.token) ?_
      · intro ticket logsIn
        cases free.symm.trans ((timely'.sound.held ticket).mpr (Or.inl logsIn))
      · exact timely'.early _ _ (deadlineOf?_of_waits timely.sound reads reached waits)
      · intro refresh held
        obtain ⟨own, later, order, ended⟩ :=
          exists_own_login account timely.sound held events free
        refine ⟨own, later, order, ended, ?_⟩
        intro succeeded
        obtain ⟨fresh, rfl⟩ := Option.isSome_iff_exists.mp succeeded
        calc
          token = lastToken (loginsIn before ++ loginsIn early) := current.trans account'.token
          _ = lastToken (began.manager.settled (loginsIn before) ++ some fresh :: later) :=
            congrArg lastToken order
          _ = lastToken (some fresh :: later) := lastToken_append _ _ _

/-- Whoever asked to read has one of the three fates. -/
theorem fate_of_run (timely : began.Timely) (asked : (began.asked purpose).Timely)
    (account : began.manager.Account (loginsIn before))
    (reads : purpose.deadline? = some deadline)
    (ran : (began.asked purpose).run? after = some last) :
    Fate before began purpose deadline after last := by
  obtain ⟨stage, found, visits⟩ := visits_of_request timely.sound reads (run_events ran)
  have timely' := asked.run ran
  cases visits with
  | waits =>
      refine .waits found ((timely'.sound.queued _).mpr ⟨purpose, found⟩) ?_
      exact timely'.early _ _ (deadlineOf?_eq_some_iff.mpr ⟨purpose, found, reads⟩)
  | gaveUp => exact fate_of_timedOut timely asked reads ran found
  | admitted _ token =>
      cases purpose with
      | refresh => cases reads
      | read moment =>
          exact fate_of_token timely asked account reads ran found rfl fun _ _ => rfl
      | authenticate moment =>
          exact fate_of_token timely asked account reads ran found rfl nofun
  | checked moment token mark =>
      exact fate_of_token timely asked account reads ran found rfl nofun

/-! ## The lock -/

/-- A free lock is there for whoever is first in the queue. -/
theorem exists_acquire (sound : clocked.manager.Sound) (free : clocked.manager.holder = none)
    (waiting : clocked.manager.queue ≠ []) : ∃ next, clocked.step? (.act .acquire) = some next := by
  obtain ⟨ticket, rest, queued⟩ := List.exists_cons_of_ne_nil waiting
  obtain ⟨purpose, waits⟩ := (sound.queued ticket).mp (by rw [queued]; exact List.mem_cons_self)
  have possible : ∃ manager, TokenManager.Step clocked.manager .acquire manager := by
    cases reads : purpose.deadline? with
    | none =>
        cases purpose with
        | refresh => exact ⟨_, .beginRefresh free queued waits⟩
        | read | authenticate => cases reads
    | some deadline => exact ⟨_, .enter free queued waits reads⟩
  obtain ⟨manager, possible⟩ := possible
  exact ⟨_, step?_eq_some_iff.mpr (.act rfl possible)⟩

/-- In every run of refreshes and readers on the clock there is at most one
login under way; the token is that of the last login that succeeded; the mark
says how the last login ended, from the end of its refresh on; a login that
fails leaves the token as it was; a free lock can be taken; and every reader has
one of the three fates. -/
theorem readers_share_lock_with_refreshes {clock : Instant} {moves : List Move} {last : Clocked}
    (ran : (start clock).run? moves = some last) :
    (∀ first second, last.manager.callers.get? first = some .loggingIn →
      last.manager.callers.get? second = some .loggingIn → first = second) ∧
    last.manager.token = lastToken (loginsIn moves) ∧
    last.manager.authenticated = lastSucceeded (last.manager.settled (loginsIn moves)) ∧
    (∀ next, last.step? (.act .loginFailed) = some next →
      next.manager.token = last.manager.token ∧ next.manager.authenticated = false) ∧
    (last.manager.holder = none → last.manager.queue ≠ [] →
      ∃ next, last.step? (.act .acquire) = some next) ∧
    ∀ before began purpose deadline after,
      moves = before ++ .act (.request purpose) :: after →
      purpose.deadline? = some deadline →
      (start clock).run? before = some began →
      Fate before began purpose deadline after last := by
  have timely := (timely_start clock).run ran
  have account : last.manager.Account (loginsIn moves) :=
    account_initial.run sound_initial (run_events ran)
  refine ⟨?_, account.token, account.mark, ?_, exists_acquire timely.sound, ?_⟩
  · intro first second one other
    have held := (timely.sound.held first).mpr (Or.inl one)
    exact Option.some.inj (held.symm.trans ((timely.sound.held second).mpr (Or.inl other)))
  · intro next failed
    cases step?_eq_some_iff.mp failed with
    | act allowed possible =>
        cases possible
        exact ⟨rfl, rfl⟩
  · rintro before began purpose deadline after rfl reads reached
    obtain ⟨began', reached', rest⟩ := Moves.run?_append_eq_some_iff.mp ran
    obtain rfl := Option.some.inj (reached.symm.trans reached')
    obtain ⟨asked, moved, continued⟩ := Moves.run?_cons_eq_some_iff.mp rest
    have timely' := (timely_start clock).run reached
    have possible := step?_eq_some_iff.mp moved
    have timely'' := timely'.step possible
    have account' : began.manager.Account (loginsIn before) :=
      account_initial.run sound_initial (run_events reached)
    cases possible with
    | act allowed possible =>
        cases possible
        exact fate_of_run timely' timely'' account' reads continued

/-- A login that outlasts the first of two readers. -/
def slowLogin : List Move :=
  [.act (.request .refresh), .act .acquire, .act (.request (.read 5)), .act (.request (.read 9)),
    .pass 5, .act (.expire 1), .act (.loginSucceeded "fresh"), .act .markGood, .act .acquire]

theorem slowLogin_serves_second_reader :
    ∃ began last, (start 0).run? slowLogin = some last ∧
      last.manager.callers.get? 1 = some .timedOut ∧
      last.manager.callers.get? 2 = some (.gotToken "fresh") ∧
      last.manager.token = lastToken (loginsIn slowLogin) ∧
      (start 0).run? (slowLogin.take 3) = some began ∧ began.manager.holder = some 0 ∧
      Fate (slowLogin.take 3) began (.read 9) 9 (slowLogin.drop 4) last := by
  have shared := readers_share_lock_with_refreshes
    (show (start 0).run? slowLogin = some _ from rfl)
  exact ⟨_, _, rfl, rfl, rfl, shared.2.1, rfl, rfl,
    shared.2.2.2.2.2 _ _ _ _ _ rfl rfl rfl⟩

end Clocked
end StorageTelemetry
