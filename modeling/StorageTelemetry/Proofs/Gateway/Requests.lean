import StorageTelemetry.Gateway.RestClient
import StorageTelemetry.Proofs.Json.Acceptance

namespace StorageTelemetry

/-!
# Requests of calls

A call with a token is one request, and what it gives is what the answer to that
request means.  A call without a token sends nothing and means nothing.  An answer
has a value exactly if its status is one of success and its body is a text of a
document that the call can read.
-/

open Json

/-! ## Bodies and answers -/

/-- A mapped fault makes no difference to a value. -/
theorem mapError_eq_ok_iff {ε δ α : Type} {result : Except ε α} {f : ε → δ} {value : α} :
    result.mapError f = .ok value ↔ result = .ok value := by
  cases result <;> simp [Except.mapError]

namespace GatewayConnection

variable {α : Type} {reader : Json → Except Mismatch α} {answer : RestAnswer} {value : α}

theorem readBody_eq_ok_iff {body : String} : readBody reader body = .ok value ↔
    ∃ document, IsText document body ∧ reader document = .ok value := by
  unfold readBody
  cases parsed : ofString? body with
  | none =>
    constructor
    · exact nofun
    · rintro ⟨document, written, -⟩
      rw [ofString?_of_isText written] at parsed
      cases parsed
  | some document =>
    have written : IsText document body := ofString?_eq_some_iff.mp parsed
    simp only [mapError_eq_ok_iff]
    constructor
    · exact fun read => ⟨document, written, read⟩
    · rintro ⟨other, written', read⟩
      exact written'.unique written ▸ read

theorem isSuccess_iff {status : Nat} : isSuccess status = true ↔ 200 ≤ status ∧ status < 300 := by
  simp [isSuccess]

/-- What an answer of success means is in its body. -/
theorem decode_eq_ok_iff {path : String} : decode path reader answer = .ok value ↔
    200 ≤ answer.status ∧ answer.status < 300 ∧
      ∃ document, IsText document answer.text ∧ reader document = .ok value := by
  rw [← readBody_eq_ok_iff, ← and_assoc, ← isSuccess_iff]
  unfold decode
  by_cases unauthorized : answer.status = 401
  · simp [unauthorized, isSuccess]
  · rw [if_neg unauthorized]
    by_cases success : isSuccess answer.status = true <;> simp [success]

end GatewayConnection

/-! ## Calls -/

open GatewayConnection

namespace GatewayCall

variable {α : Type} {call : GatewayCall α} {connection : GatewayConnection} {server : RestServer}
  {token : Except Fault String} {secret : String} {request : RestRequest}

/-- The request of a call with a token, if the gateway has an address. -/
def request? (call : GatewayCall α) (connection : GatewayConnection) (secret : String) :
    Option RestRequest :=
  connection.request? (if call.query.isSome then "POST" else "GET") call.path secret call.query

/-- With a token a call is its request, and then the answer. -/
theorem perform_of_request (made : call.request? connection secret = some request) :
    call.perform connection server (.ok secret) =
      ⟨[request], match server request with
        | some answer => decode call.path call.read answer
        | none => .error (.http "the connection was closed")⟩ := by
  unfold request? at made
  simp only [perform, exchange, made]
  cases server request <;> rfl

theorem perform_of_no_request (none : call.request? connection secret = none) :
    call.perform connection server (.ok secret) =
      ⟨[], .error (.http "the address is malformed")⟩ := by
  unfold request? at none
  simp only [perform, exchange, none]
  rfl

/-- What is sent does not depend on the gateway. -/
theorem sent_perform : (call.perform connection server token).sent =
    (token.toOption.bind (call.request? connection)).toList := by
  cases token with
  | error fault => rfl
  | ok secret =>
    cases made : call.request? connection secret with
    | none => simp [perform_of_no_request made, Except.toOption, made]
    | some request => simp [perform_of_request made, Except.toOption, made]

/-- A call that gives a value was answered, and the answer means this value. -/
theorem exists_answer_of_ok {value : α}
    (ended : (call.perform connection server token).result = .ok value) :
    ∃ request ∈ (call.perform connection server token).sent, ∃ answer,
      server request = some answer ∧ decode call.path call.read answer = .ok value := by
  cases token with
  | error fault => cases ended
  | ok secret =>
    cases made : call.request? connection secret with
    | none =>
      rw [perform_of_no_request made] at ended
      cases ended
    | some request =>
      rw [perform_of_request made] at ended ⊢
      refine ⟨request, List.mem_singleton_self request, ?_⟩
      cases answered : server request with
      | none =>
        simp only [answered] at ended
        cases ended
      | some answer =>
        simp only [answered] at ended
        exact ⟨answer, rfl, ended⟩

end GatewayCall
end StorageTelemetry
