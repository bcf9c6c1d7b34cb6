import Mathlib.Data.List.Induction
import StorageTelemetry.Gateway.Connection
import StorageTelemetry.Proofs.Session.Readers

namespace StorageTelemetry

/-!
# Authentication

Someone who asks whether there is a usable session takes the token under the
lock and looks at the mark after that, without the lock.  A whole refresh can
fall in between, and a refresh that has stored its token may not have set the
mark yet.  Still the answer is that of a single instant: it tells whether the
login completed last had succeeded.  If the mark is good and the token empty,
that instant is the one at which the token was taken, since a login that
succeeds brings a token that is not empty.
-/

/-! ## Logins over the connection -/

namespace GatewayConnection

/-- Reading a text succeeds exactly on documents that are a text. -/
theorem readBody_text_eq_ok_iff (body token : String) :
    readBody Json.text body = .ok token ↔ Json.ofString? body = some (.string (some token)) := by
  unfold readBody
  cases Json.ofString? body with
  | none => simp
  | some document =>
      simp only [Option.some.injEq]
      constructor
      · intro read
        cases document with
        | string content =>
            cases content with
            | some text =>
                cases read
                rfl
            | none => cases read
        | _ => cases read
      · rintro rfl
        rfl

/-- A login answer counts as success exactly if its status is one of success
and its body is a text that is not empty. -/
theorem decodeLogin_eq_ok_iff (answer : RestAnswer) (token : String) :
    decodeLogin answer = .ok token ↔
      200 ≤ answer.status ∧ answer.status < 300 ∧
        Json.ofString? answer.text = some (.string (some token)) ∧ token ≠ "" := by
  rw [← readBody_text_eq_ok_iff]
  unfold decodeLogin
  by_cases success : isSuccess answer.status = true
  · have range : 200 ≤ answer.status ∧ answer.status < 300 := by
      simpa [isSuccess] using success
    rw [if_pos success]
    cases readBody Json.text answer.text with
    | error fault => simp
    | ok text =>
        by_cases blank : text = ""
        · simp only [blank]
          constructor
          · intro impossible
            cases impossible
          · rintro ⟨_, _, same, full⟩
            exact absurd (Except.ok.inj same).symm full
        · have full : text.isEmpty = false := by simpa using blank
          simp only [full]
          constructor
          · intro same
            cases same
            exact ⟨range.1, range.2, rfl, blank⟩
          · rintro ⟨_, _, same, _⟩
            exact same
  · have range : ¬ (200 ≤ answer.status ∧ answer.status < 300) := by
      simpa [isSuccess] using success
    rw [if_neg success]
    constructor
    · intro impossible
      cases impossible
    · rintro ⟨least, most, _⟩
      exact absurd ⟨least, most⟩ range

/-- A call gives a value exactly if a request is made and its answer means that
value. -/
theorem exchange_bind_eq_ok_iff {α : Type} (connection : GatewayConnection) (server : RestServer)
    (method path secret : String) (body : Option Json) (decode : RestAnswer → Except Fault α)
    (value : α) :
    (connection.exchange server method path secret body).result.bind decode = .ok value ↔
      ∃ request answer, connection.request? method path secret body = some request ∧
        server request = some answer ∧ decode answer = .ok value := by
  unfold exchange
  cases connection.request? method path secret body with
  | none => simp [Except.bind]
  | some request => cases answered : server request <;> simp [Except.bind, answered]

/-- A login succeeds exactly if the gateway is asked and answers with a status
of success and a text that is not empty. -/
theorem login_eq_ok_iff (connection : GatewayConnection) (server : RestServer) (token : String) :
    (connection.login server).result = .ok token ↔
      ∃ request answer,
        connection.request? "GET" loginPath connection.password none = some request ∧
          server request = some answer ∧ 200 ≤ answer.status ∧ answer.status < 300 ∧
            Json.ofString? answer.text = some (.string (some token)) ∧ token ≠ "" := by
  simp only [login, exchange_bind_eq_ok_iff, decodeLogin_eq_ok_iff]

/-- Every login completed by the moves is one over the connection, with
whatever the gateway may answer. -/
def MakesLogins (connection : GatewayConnection) (events : List TokenManager.Event) : Prop :=
  ∀ login ∈ TokenManager.loginsOf events,
    ∃ server : RestServer, login = (connection.login server).result.toOption

/-- Logins over a connection never bring an empty token. -/
theorem MakesLogins.token_ne {connection : GatewayConnection}
    {events : List TokenManager.Event} (made : connection.MakesLogins events) {token : String}
    (brought : some token ∈ TokenManager.loginsOf events) : token ≠ "" := by
  obtain ⟨server, result⟩ := made (some token) brought
  cases answered : (connection.login server).result with
  | error fault =>
      rw [answered] at result
      cases result
  | ok text =>
      rw [answered] at result
      cases result
      obtain ⟨_, _, _, _, _, _, _, full⟩ := (login_eq_ok_iff connection server token).mp answered
      exact full

end GatewayConnection

namespace TokenManager

variable {manager next : TokenManager} {event : Event} {ticket : Ticket}

/-! ## Marks -/

/-- A mark is read by its own move, and is the one set at that moment. -/
theorem Step.look (possible : Step manager event next) (sound : manager.Sound) {token : String}
    {mark : Bool} (before : manager.callers.get? ticket ≠ some (.checked token mark))
    (after : next.callers.get? ticket = some (.checked token mark)) :
    event = .readMark ticket ∧ mark = manager.authenticated := by
  rcases possible.passage sound ticket with same | ⟨stage, reached, passage⟩
  · rw [same] at after
    exact absurd after before
  · have final : stage = .checked token mark := Option.some.inj (reached.symm.trans after)
    generalize manager.callers.get? ticket = old at passage
    cases passage with
    | looks token' =>
        cases final
        exact ⟨rfl, rfl⟩
    | @admitted purpose deadline free first reads => cases purpose <;> cases final
    | asks | begins | stores | succeeds | fails | givesUp => cases final

/-- A refresh begins to store its token when its login succeeds. -/
theorem Step.stores (possible : Step manager event next) (sound : manager.Sound)
    (before : ¬ manager.isStoring = true) (after : next.isStoring = true) :
    ∃ token, event = .loginSucceeded token := by
  obtain ⟨ticket, holds, stores⟩ := isStoring_iff.mp after
  rcases possible.passage sound ticket with same | ⟨stage, reached, passage⟩
  · have stored := same.symm.trans stores
    have held := (sound.held ticket).mpr (Or.inr stored)
    exact absurd (isStoring_iff.mpr ⟨ticket, held, stored⟩) before
  · have final : stage = .storing := Option.some.inj (reached.symm.trans stores)
    generalize manager.callers.get? ticket = old at passage
    cases passage with
    | stores token => exact ⟨token, rfl⟩
    | @admitted purpose deadline free first reads => cases purpose <;> cases final
    | asks | begins | succeeds | fails | givesUp | looks => cases final

/-- If a token is being stored at the end of a run and none was at its start,
then the run completes a login. -/
theorem loginsOf_ne_nil {events : List Event} (sound : manager.Sound)
    (ran : manager.run? events = some next) (before : ¬ manager.isStoring = true)
    (after : next.isStoring = true) : loginsOf events ≠ [] := by
  obtain ⟨early, event, late, reached, turned, rfl, began, still, moved, turns, _⟩ :=
    Moves.exists_turn (fun state => state.isStoring = true) ran before after
  obtain ⟨token, rfl⟩ := (step?_eq_some_iff.mp moved).stores (sound.run began) still turns
  simp [loginsOf, Event.login?]

/-- The logins that the mark tells of are those completed by some instant of a
window that began when the lock was free. -/
theorem exists_instant (logins : List (Option String)) {window : List Event}
    (sound : manager.Sound) (free : manager.isStoring = false)
    (ran : manager.run? window = some next) :
    ∃ early late, window = early ++ late ∧
      next.settled (logins ++ loginsOf window) = logins ++ loginsOf early := by
  by_cases storing : next.isStoring = true
  · have completed := loginsOf_ne_nil sound ran (by simp [free]) storing
    have parts := (List.dropLast_append_getLast completed).symm
    obtain ⟨early, late, split, first, _⟩ := List.filterMap_eq_append_iff.mp parts
    refine ⟨early, late, split, ?_⟩
    rw [settled, if_pos storing, List.dropLast_append_of_ne_nil completed]
    exact congrArg (logins ++ ·) first.symm
  · refine ⟨window, [], (List.append_nil window).symm, ?_⟩
    rw [settled, if_neg storing]

/-- Where logins bring tokens that are not empty, the last one did not succeed
if the token is empty. -/
theorem lastSucceeded_of_empty {logins : List (Option String)}
    (full : ∀ token, some token ∈ logins → token ≠ "") (empty : lastToken logins = "") :
    lastSucceeded logins = false := by
  induction logins using List.reverseRecOn with
  | nil => rfl
  | append_singleton earlier login ih =>
      cases login with
      | none => exact lastSucceeded_append earlier none
      | some token =>
          rw [lastToken_success] at empty
          exact absurd empty (full token (by simp))

end TokenManager

/-! ## Answers -/

/-- An answer says whether a login had succeeded: if not, by a fault of
authentication. -/
def Tells (answer : Except Fault Unit) (succeeded : Bool) : Prop :=
  if succeeded then answer = .ok () else ∃ message, answer = .error (.auth message)

theorem tells_of_mark (user : String) {token : String} {mark : Bool}
    (full : mark = true → token ≠ "") :
    Tells (authenticationAnswer user (.checked token mark)) mark := by
  cases mark with
  | false => exact ⟨_, rfl⟩
  | true =>
      have filled : token.isEmpty = false := by simpa using full rfl
      simp [Tells, authenticationAnswer, filled]

theorem tells_of_empty (user : String) (mark : Bool) :
    Tells (authenticationAnswer user (.checked "" mark)) false := by
  cases mark <;> exact ⟨_, rfl⟩

namespace TokenManager

variable {manager next last began : TokenManager} {before after : List Event}
  {deadline : Instant} {stage : CallerStage}

/-- An authentication that is over and did not give up took the token at one
moment and looked at the mark at another. -/
theorem exists_look (sound : began.Sound)
    (ran : (began.request (.authenticate deadline)).run? after = some last)
    (found : last.callers.get? began.nextTicket = some stage) (done : stage.isDone = true)
    (inTime : stage ≠ .timedOut) :
    ∃ early granted between looked rest,
      after = early ++ between ++ .readMark began.nextTicket :: rest ∧
        (began.request (.authenticate deadline)).run? early = some granted ∧
          granted.holder = none ∧ granted.run? between = some looked ∧
            stage = .checked granted.token looked.authenticated := by
  obtain ⟨stage', found', visits⟩ := visits_of_request sound rfl ran
  obtain rfl := Option.some.inj (found.symm.trans found')
  cases visits with
  | waits => cases done
  | gaveUp => exact absurd rfl inTime
  | admitted _ token => cases done
  | checked _ token mark =>
      have sound' := sound.request (.authenticate deadline)
      have waiting : (began.request (.authenticate deadline)).callers.get? began.nextTicket =
          some (.waiting (.authenticate deadline)) := (Table.get?_put _ _ _ _).trans (if_pos rfl)
      have notYet : (began.request (.authenticate deadline)).tokenOf? began.nextTicket ≠
          some token := by
        rw [tokenOf?, waiting]
        simp [CallerStage.token?]
      have given : last.tokenOf? began.nextTicket = some token := by
        rw [tokenOf?, found]
        rfl
      obtain ⟨early, event, late, granted, turned, split, reached, still, moved, turns, onward⟩ :=
        Moves.exists_turn (fun state => state.tokenOf? began.nextTicket = some token)
          ran notYet given
      obtain ⟨rfl, free, first, ⟨purpose, waits⟩, current⟩ :=
        (step?_eq_some_iff.mp moved).admission (sound'.run reached) still turns
      have rest : granted.run? (.acquire :: late) = some last :=
        Moves.run?_cons_eq_some_iff.mpr ⟨turned, moved, onward⟩
      obtain ⟨between, event, rest, looked, _, split', looking, still', moved', turns', _⟩ :=
        Moves.exists_turn
          (fun state => state.callers.get? began.nextTicket = some (.checked token mark))
          rest (by rw [waits]; simp) found
      obtain ⟨rfl, tells⟩ :=
        (step?_eq_some_iff.mp moved').look ((sound'.run reached).run looking) still' turns'
      refine ⟨early, granted, between, looked, rest, ?_, reached, free, looking, ?_⟩
      · rw [split, split', List.append_assoc]
      · rw [current, tells]

/-- An authentication that does not give up tells whether the login completed
last had succeeded, as of some instant between its start and its end.  So if no
login is completed meanwhile, it succeeds exactly if the last one did, whatever
token is kept, and before the first login it fails.  A login over the connection
succeeds exactly if the gateway answers it with a status of success and a text
that is not empty. -/
theorem authentication_tells_of_last_login (connection : GatewayConnection)
    (made : connection.MakesLogins (before ++ after))
    (reached : initial.run? before = some began)
    (ran : (began.request (.authenticate deadline)).run? after = some last)
    (found : last.callers.get? began.nextTicket = some stage) (done : stage.isDone = true)
    (inTime : stage ≠ .timedOut) :
    (∃ window rest, after = window ++ .readMark began.nextTicket :: rest ∧
      (∃ early late, window = early ++ late ∧
        Tells (authenticationAnswer connection.username stage)
          (lastSucceeded (loginsOf before ++ loginsOf early))) ∧
      (loginsOf window = [] →
        Tells (authenticationAnswer connection.username stage)
          (lastSucceeded (loginsOf before))) ∧
      (loginsOf before ++ loginsOf window = [] →
        ∃ message, authenticationAnswer connection.username stage = .error (.auth message))) ∧
    ∀ server token, (connection.login server).result = .ok token ↔
      ∃ request answer,
        connection.request? "GET" "/api/login" connection.password none = some request ∧
          server request = some answer ∧ 200 ≤ answer.status ∧ answer.status < 300 ∧
            Json.ofString? answer.text = some (.string (some token)) ∧ token ≠ "" := by
  refine ⟨?_, connection.login_eq_ok_iff⟩
  have sound := sound_initial.run reached
  have account : began.Account (loginsOf before) := account_initial.run sound_initial reached
  obtain ⟨early, granted, between, looked, rest, split, grant, free, looking, shape⟩ :=
    exists_look sound ran found done inTime
  have asked : began.run? (.request (.authenticate deadline) :: early) = some granted :=
    Moves.run?_cons_eq_some_iff.mpr ⟨_, rfl, grant⟩
  have sound' := sound.run asked
  have account' : granted.Account (loginsOf before ++ loginsOf early) := by
    have kept := account.run sound asked
    rwa [show loginsOf (.request (.authenticate deadline) :: early) = loginsOf early from rfl]
      at kept
  have account'' := account'.run sound' looking
  obtain ⟨sooner, later, parts, instant⟩ :=
    exists_instant (loginsOf before ++ loginsOf early) sound' (isStoring_of_free free)
      looking
  have told : ∃ first second, early ++ between = first ++ second ∧
      Tells (authenticationAnswer connection.username stage)
        (lastSucceeded (loginsOf before ++ loginsOf first)) := by
    by_cases empty : granted.token = ""
    · refine ⟨early, between, rfl, ?_⟩
      have full : ∀ token, some token ∈ loginsOf before ++ loginsOf early → token ≠ "" := by
        intro token brought
        apply made.token_ne
        simp only [split, loginsOf_append, List.mem_append] at brought ⊢
        rcases brought with past | since
        · exact Or.inl past
        · exact Or.inr (Or.inl (Or.inl since))
      rw [lastSucceeded_of_empty full (account'.token.symm.trans empty), shape, empty]
      exact tells_of_empty connection.username looked.authenticated
    · refine ⟨early ++ sooner, later, ?_, ?_⟩
      · rw [parts, List.append_assoc]
      · rw [loginsOf_append, ← List.append_assoc, ← instant, ← account''.mark, shape]
        exact tells_of_mark connection.username fun _ => empty
  refine ⟨early ++ between, rest, split, told, ?_, ?_⟩
  · intro quiet
    obtain ⟨first, second, same, tells⟩ := told
    rw [same, loginsOf_append] at quiet
    rwa [(List.append_eq_nil_iff.mp quiet).1, List.append_nil] at tells
  · intro quiet
    obtain ⟨first, second, same, tells⟩ := told
    obtain ⟨none', quiet⟩ := List.append_eq_nil_iff.mp quiet
    rw [same, loginsOf_append] at quiet
    rw [none', (List.append_eq_nil_iff.mp quiet).1] at tells
    exact tells

/-- A gateway that answers every request with a token. -/
def granting (token : String) : RestServer := fun _ =>
  some ⟨200, Text.bytes (String.ofList (Json.stringChars (some token)))⟩

/-- A login is rejected after an authentication has taken the token and before
it looks at the mark. -/
theorem authentication_beside_rejected_login :
    authenticationAnswer "monitor" (.checked "first" false) =
        .error (.auth "last gateway login failed for user monitor") ∧
      ∃ window rest,
        [.acquire, .request .refresh, .acquire, .loginFailed, .readMark 1] =
            window ++ .readMark 1 :: rest ∧
          ∃ early late, window = early ++ late ∧
            Tells (authenticationAnswer "monitor" (.checked "first" false))
              (lastSucceeded ([some "first"] ++ loginsOf early)) := by
  have made : (⟨"https://gateway", "monitor", "secret"⟩ : GatewayConnection).MakesLogins
      ([.request .refresh, .acquire, .loginSucceeded "first", .markGood] ++
        [.acquire, .request .refresh, .acquire, .loginFailed, .readMark 1]) := by
    intro login brought
    rcases List.mem_cons.mp brought with rfl | brought
    · exact ⟨granting "first", by decide +kernel⟩
    · obtain rfl := List.mem_singleton.mp brought
      exact ⟨fun _ => none, by decide +kernel⟩
  obtain ⟨⟨window, rest, split, instant, _⟩, _⟩ :=
    authentication_tells_of_last_login _ made rfl
      (show run? (request _ (.authenticate 5)) _ = some _ from rfl)
      (show _ = some (.checked "first" false) from rfl) rfl (by decide)
  exact ⟨rfl, window, rest, split, instant⟩

end TokenManager
end StorageTelemetry
