import StorageTelemetry.Proofs.Gateway.OneGeneration
import StorageTelemetry.Proofs.Gateway.RefusedRequests
import StorageTelemetry.Proofs.Session.SharedLock

namespace StorageTelemetry

/-!
# What becomes of calls

Every call wants the token first, and waits for it until its timeout at most.  If no
token comes in time, nothing is sent.  Otherwise there is one request, and the call
gives what the answer to it means.

The generation is different.  It is kept as soon as a version was told, and from then
on it is given without a token and without a request.  Until then it is a call like
any other.  No call logs in, so token and mark of the session stay as they are.
-/

open Json GatewayConnection

/-! ## Sending -/

/-- What a call comes to whose caller was given a token.  If its path makes an address
with the endpoint, one request is sent there, by the user and with the token, and the
call gives what the answer means. -/
structure GatewayCall.SendsOnce {α : Type} (call : GatewayCall α) (connection : GatewayConnection)
    (token : String) : Prop where
  once : ∀ location, Location.ofAddress? (connection.address call.path) = some location →
    ∃ request : RestRequest, request.location = location ∧
      request.authorization = basicAuthorization connection.username token ∧
      ∀ server, let exchange := call.perform connection server (tokenAnswer (.gotToken token))
        exchange.sent = [request] ∧
          ∀ answer, server request = some answer → Means call.path call.read answer exchange.result
  nowhere : Location.ofAddress? (connection.address call.path) = none → ∀ server,
    call.perform connection server (tokenAnswer (.gotToken token)) =
      ⟨[], .error (.http "the address is malformed")⟩

theorem GatewayCall.sendsOnce {α : Type} (call : GatewayCall α) (connection : GatewayConnection)
    (token : String) : call.SendsOnce connection token where
  once := by
    intro location addressed
    have made : ∃ request, call.request? connection token = some request ∧
        request.location = location ∧
        request.authorization = basicAuthorization connection.username token := by
      simp only [request?, GatewayConnection.request?, addressed, Option.map_some]
      exact ⟨_, rfl, rfl, rfl⟩
    rcases made with ⟨request, made, there, authorized⟩
    refine ⟨request, there, authorized, ?_⟩
    intro server exchange
    have performed : exchange = _ := perform_of_request made
    rw [performed]
    refine ⟨rfl, ?_⟩
    intro answer answered
    simp only [answered]
    exact means_decode call.path call.read answer
  nowhere := by
    intro unaddressed server
    apply perform_of_no_request
    simp only [request?, GatewayConnection.request?, unaddressed, Option.map_none]

/-! ## Waiting -/

namespace Clocked

open TokenManager

/-- What has become of a caller who asked for the token when the state was `began`,
for whatever call, and what comes of that call. -/
inductive CallFate (began : Clocked) (deadline : Instant) (after : List Move) (last : Clocked) :
    Prop
  /-- It still waits, and its time is not up. -/
  | waits
      (stage : last.manager.callers.get? began.manager.nextTicket =
        some (.waiting (.read deadline)))
      (inTime : last.clock ≤ deadline)
  /-- It waited until its time was up.  The call fails, and nothing is sent. -/
  | missed {early late : List Move} {expired : Clocked}
      (split : after = early ++ .act (.expire began.manager.nextTicket) :: late)
      (reached : (began.asked (.read deadline)).run? early = some expired)
      (atDeadline : expired.clock = deadline)
      (stage : last.manager.callers.get? began.manager.nextTicket = some .timedOut)
      (silent : ∀ (α : Type) (call : GatewayCall α) connection server,
        call.perform connection server (tokenAnswer .timedOut) =
          ⟨[], .error (.timeout "gateway token")⟩)
  /-- It was let in within its time and took the token of that moment, with which the
  call sends its request. -/
  | served {early late : List Move} {granted : Clocked}
      (split : after = early ++ .act .acquire :: late)
      (reached : (began.asked (.read deadline)).run? early = some granted)
      (inTime : granted.clock ≤ deadline)
      (stage : last.manager.callers.get? began.manager.nextTicket =
        some (.gotToken granted.manager.token))
      (sends : ∀ (α : Type) (call : GatewayCall α) connection,
        call.SendsOnce connection granted.manager.token)

theorem callFate_of_run {clock timeout : Nat} {before after : List Move} {began last : Clocked}
    (reached : (start clock).run? before = some began)
    (ran : (began.asked (.read (began.clock + timeout))).run? after = some last) :
    CallFate began (began.clock + timeout) after last := by
  have timely := (timely_start clock).run reached
  have account : began.manager.Account (loginsIn before) :=
    account_initial.run sound_initial (run_events reached)
  have allowed : began.allows (.request (.read (began.clock + timeout))) = true :=
    decide_eq_true (Nat.le_add_right _ _)
  have asked := timely.step (.act allowed (.request _))
  cases fate_of_run timely asked account rfl ran with
  | waits stage queued inTime => exact .waits stage inTime
  | gaveUp split reached atDeadline stage =>
    exact .missed split reached atDeadline stage fun _ _ _ _ => rfl
  | @served early late granted token stage split reached first free idle inTime found given answer
      current =>
    have told : stage = .gotToken token := by
      have told := answer _ rfl
      cases stage <;> cases told
      rfl
    have events : began.manager.run? (.request (.read (began.clock + timeout)) :: eventsOf early) =
        some granted.manager :=
      Moves.run?_cons_eq_some_iff.mpr ⟨_, rfl, run_events reached⟩
    -- Both are the token of the last login that had succeeded by then.
    have same : token = granted.manager.token := current.trans
      (account.run timely.sound events).token.symm
    rw [told, same] at found
    exact .served split reached inTime found fun _ call connection =>
      call.sendsOnce connection granted.manager.token

end Clocked

/-! ## The generation -/

namespace GenerationCell

/-- The moves by which someone asks for the version, given the token or not. -/
def versionMoves (token : Except Fault String) (version : Except Fault String) : List Event :=
  match token with
  | .ok _ => [.sendRequest, .answer version]
  | .error fault => [.tokenMissed fault]

/-- What a cell gives to whoever is next.  What is known is given at once.  Otherwise
the answer is that of a call for the version, of which a success is kept. -/
structure GivesNext (cell : GenerationCell) (ticket : Ticket) : Prop where
  known : ∀ generation, cell.known = some generation →
    ∃ next, cell.step? .proceed = some next ∧ next.known = some generation ∧
      next.requests = cell.requests ∧ next.answers.get? ticket = some (.ok generation)
  unknown : cell.known = none → cell.asking = none → ∀ connection server token,
    let exchange := GatewayCall.version.perform connection server token
    ∃ next, Moves.run? step? cell (.proceed :: versionMoves token exchange.result) = some next ∧
      next.known = (exchange.result.map .ofVersion).toOption ∧
      next.answers.get? ticket = some (exchange.result.map .ofVersion)

theorem run?_cons_of_step {cell next last : GenerationCell} {event : Event} {rest : List Event}
    (possible : Step cell event next) (continued : Moves.run? step? next rest = some last) :
    Moves.run? step? cell (event :: rest) = some last :=
  Moves.run?_cons_eq_some_iff.mpr ⟨next, step?_eq_some_iff.mpr possible, continued⟩

theorem givesNext {cell : GenerationCell} {ticket : Ticket} {rest : List Ticket}
    (queued : cell.queue = ticket :: rest) : cell.GivesNext ticket where
  known generation known := by
    refine ⟨_, step?_eq_some_iff.mpr (.serve queued known), known, rfl, ?_⟩
    exact (Table.get?_put ..).trans (if_pos rfl)
  unknown unknown free connection server token := by
    intro exchange
    cases token with
    | error fault =>
      refine ⟨_, run?_cons_of_step (.begin queued unknown free)
        (run?_cons_of_step (.miss fault rfl) rfl), unknown, ?_⟩
      exact (Table.get?_put ..).trans (if_pos rfl)
    | ok token =>
      generalize exchange.result = version
      cases version with
      | error fault =>
        refine ⟨_, run?_cons_of_step (.begin queued unknown free) (run?_cons_of_step (.send rfl)
          (run?_cons_of_step (.refuse fault rfl) rfl)), unknown, ?_⟩
        exact (Table.get?_put ..).trans (if_pos rfl)
      | ok version =>
        refine ⟨_, run?_cons_of_step (.begin queued unknown free) (run?_cons_of_step (.send rfl)
          (run?_cons_of_step (.tell version rfl) rfl)), rfl, ?_⟩
        exact (Table.get?_put ..).trans (if_pos rfl)

end GenerationCell

namespace RestClient

open GenerationCell

/-- What a client comes to that asks for the generation on its own. -/
structure AsksOnce (client : RestClient) (server : RestServer) : Prop where
  session : (client.generation server).2.manager = client.manager
  known : ∀ generation, client.cell.known = some generation →
    (client.generation server).1 = ⟨[], .ok generation⟩ ∧
      (client.generation server).2.cell.known = some generation
  unknown : client.cell.known = none →
    let exchange := client.perform .version server
    (client.generation server).1 = ⟨exchange.sent, exchange.result.map .ofVersion⟩ ∧
      (client.generation server).2.cell.known = (exchange.result.map .ofVersion).toOption

/-- Whoever asks leaves the session as it is. -/
theorem manager_generation (client : RestClient) (server : RestServer) :
    (client.generation server).2.manager = client.manager := by
  unfold RestClient.generation
  dsimp only
  split <;> rfl

theorem AtRest.generation_of_known {client : RestClient} (atRest : client.AtRest)
    (server : RestServer) {generation : Generation} (known : client.cell.known = some generation) :
    (client.generation server).1 = ⟨[], .ok generation⟩ ∧
      (client.generation server).2.cell.known = some generation := by
  rcases atRest with ⟨queue, asking⟩
  rcases client with ⟨connection, manager, _, _, _, answers, ticket, requests⟩
  cases queue
  cases asking
  cases known
  simp [RestClient.generation, apply, step?, reply, Table.get?_put]

theorem AtRest.generation_of_unknown {client : RestClient} (atRest : client.AtRest)
    (server : RestServer) (unknown : client.cell.known = none) :
    let exchange := client.perform .version server
    (client.generation server).1 = ⟨exchange.sent, exchange.result.map .ofVersion⟩ ∧
      (client.generation server).2.cell.known = (exchange.result.map .ofVersion).toOption := by
  rcases atRest with ⟨queue, asking⟩
  rcases client with ⟨connection, manager, _, _, _, answers, ticket, requests⟩
  cases queue
  cases asking
  cases unknown
  let client : RestClient := ⟨connection, manager, none, none, [], answers, ticket, requests⟩
  cases token : client.token with
  | error fault =>
    simp [RestClient.generation, perform, GatewayCall.perform, apply, step?, conclude, reply,
      Table.get?_put, client, token, Except.map, Except.toOption]
  | ok secret =>
    cases answer : (GatewayCall.version.perform connection server (.ok secret)).result with
    | error fault =>
      simp [RestClient.generation, perform, apply, step?, conclude, reply, Table.get?_put, client,
        token, answer, Except.map, Except.toOption]
    | ok version =>
      simp [RestClient.generation, perform, apply, step?, conclude, reply, Table.get?_put, client,
        token, answer, Except.map, Except.toOption]

theorem AtRest.asksOnce {client : RestClient} (atRest : client.AtRest) (server : RestServer) :
    client.AsksOnce server where
  session := client.manager_generation server
  known _ known := atRest.generation_of_known server known
  unknown unknown := atRest.generation_of_unknown server unknown

end RestClient

/-! ## All calls -/

/-- A call waits for the token until its timeout at most.  If none came, it fails and
sends nothing.  Otherwise it sends one request, with the token of the moment at which
it was let in, and gives what the answer means.

The moves by which it asks, is let in or gives up leave token and mark as they are.
The generation is asked for by such a call until a version was told; from then on it
is given to everyone without a token and without a request. -/
theorem calls_wait_then_send_once :
    (∀ clock timeout before began after last,
      (Clocked.start clock).run? before = some began →
      (began.asked (.read (began.clock + timeout))).run? after = some last →
      Clocked.CallFate began (began.clock + timeout) after last) ∧
    (∀ (manager : TokenManager) ticket deadline,
      ∀ event ∈ [.request (.read deadline), .acquire, .expire ticket],
        (manager.apply event).token = manager.token ∧
          (manager.apply event).authenticated = manager.authenticated) ∧
    (∀ (cell : GenerationCell) ticket rest, cell.queue = ticket :: rest → cell.GivesNext ticket) ∧
    ∀ (client : RestClient) server, client.AtRest → client.AsksOnce server := by
  refine ⟨?_, ?_, ?_, ?_⟩
  · exact fun _ _ _ _ _ _ reached ran => Clocked.callFate_of_run reached ran
  · intro manager ticket deadline event own
    apply TokenManager.session_apply
    simp only [List.mem_cons, List.not_mem_nil, or_false] at own
    rcases own with rfl | rfl | rfl <;> rfl
  · exact fun _ _ _ queued => GenerationCell.givesNext queued
  · exact fun _ server atRest => atRest.asksOnce server

/-- A client that knows the generation before its first login. -/
def bulkClient : RestClient :=
  { RestClient.ofConnection ⟨"https://gateway", "admin", "secret"⟩ with
    cell := { GenerationCell.initial with known := some .bulk } }

/-- There is a token for it, but it asks nobody. -/
theorem generation_not_always_asked :
    ¬∀ (client : RestClient) server, client.AtRest → ∀ token, client.token = .ok token →
      ∃ request, (client.generation server).1.sent = [request] := by
  intro asked
  rcases asked bulkClient (fun _ => none) ⟨rfl, rfl⟩ "" rfl with ⟨request, sent⟩
  cases sent

/-- Of two readers during a login that outlasts the time of the first one, only the
second can send, and the generation is given without any of this. -/
theorem slowLogin_calls :
    ∃ began later last, (Clocked.start 0).run? (Clocked.slowLogin.take 2) = some began ∧
      (Clocked.start 0).run? (Clocked.slowLogin.take 3) = some later ∧
      Clocked.CallFate began 5 (Clocked.slowLogin.drop 3) last ∧
      last.manager.callers.get? 1 = some .timedOut ∧
      Clocked.CallFate later 9 (Clocked.slowLogin.drop 4) last ∧
      last.manager.callers.get? 2 = some (.gotToken "fresh") ∧
      bulkClient.AsksOnce fun _ => none := by
  rcases calls_wait_then_send_once with ⟨fates, -, -, asks⟩
  exact ⟨_, _, _, rfl, rfl, fates 0 5 (Clocked.slowLogin.take 2) _ _ _ rfl rfl, rfl,
    fates 0 9 (Clocked.slowLogin.take 3) _ _ _ rfl rfl, rfl, asks _ _ ⟨rfl, rfl⟩⟩

end StorageTelemetry
