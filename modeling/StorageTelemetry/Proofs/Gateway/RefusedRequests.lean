import StorageTelemetry.Proofs.Gateway.Requests
import StorageTelemetry.Proofs.Json.RecordFields

namespace StorageTelemetry

/-!
# Refused requests

An answer is judged by its status first.  If it refuses the request, its body may be
a record that says why, in words and with a code.  Whatever else a gateway writes as
the body of a refusal is the reason as it stands.
-/

open Json Record

/-! ## Codes -/

/-- Whether a token is a whole number of 64 bits with a sign.  Negative zero is not. -/
structure NumberToken.IsSigned (token : NumberToken) (code : Int) : Prop where
  integral : token.integral = true
  plain : token.negative = true → token.digits ≠ 0
  value : code = if token.negative then -(token.digits : Int) else token.digits
  range : isSigned64 code = true

theorem Json.tokenInteger?_eq_some_iff {token : NumberToken} {code : Int} :
    tokenInteger? token = some code ↔ token.IsSigned code := by
  -- Tokens without a sign may be larger, but then they are not codes.
  have wider : twoPow 63 ≤ twoPow 64 := by decide
  have fits : (isWhole token && (token.negative || token.digits < twoPow 63)) = true ↔
      token.integral = true ∧ (token.negative = true → token.digits ≠ 0) ∧
        isSigned64 (if token.negative then -(token.digits : Int) else token.digits) = true := by
    unfold isWhole isSigned64
    generalize twoPow 63 = half, twoPow 64 = double at wider ⊢
    cases token.negative <;> simp <;> omega
  constructor
  · intro read
    rcases Option.ite_none_right_eq_some.mp read with ⟨fitting, same⟩
    rcases fits.mp fitting with ⟨integral, plain, range⟩
    cases same
    exact ⟨integral, plain, rfl, range⟩
  · rintro ⟨integral, plain, rfl, range⟩
    exact if_pos (fits.mpr ⟨integral, plain, range⟩)

/-- Whether a code is given.  It is zero if nothing is. -/
inductive IsCode : Option Json → Int → Prop
  | missing : IsCode none 0
  | null : IsCode (some .null) 0
  | number {token : NumberToken} {code : Int} (signed : token.IsSigned code) :
      IsCode (some (.number token)) code

theorem isCode_iff {given : Option Json} {code : Int} : IsCode given code ↔
    ∃ code?, Reads Json.optionalInteger none code? given ∧ code = code?.getD 0 := by
  constructor
  · rintro (_ | _ | signed)
    · exact ⟨none, rfl, rfl⟩
    · exact ⟨none, rfl, rfl⟩
    · refine ⟨some code, ?_, rfl⟩
      simp only [Reads, optionalInteger, tokenInteger?_eq_some_iff.mpr signed]
  · rintro ⟨code?, read, rfl⟩
    cases given with
    | none =>
      cases read
      exact .missing
    | some document =>
      cases document with
      | null =>
        cases read
        exact .null
      | number token =>
        cases told : tokenInteger? token with
        | none => simp [Reads, optionalInteger, told] at read
        | some code =>
          simp only [Reads, optionalInteger, told, Except.ok.injEq] at read
          cases read
          exact .number (tokenInteger?_eq_some_iff.mp told)
      | bool | string | array | object => cases read

/-! ## Reasons -/

theorem reads_optionalText_iff {given : Option Json} {message : String} :
    Reads Json.optionalText none (some message) given ↔ given = some (.ofText message) := by
  constructor
  · intro read
    cases given with
    | none => cases read
    | some document =>
      cases document with
      | string text =>
        cases text with
        | none => cases read
        | some text =>
          cases read
          rfl
      | null | bool | number | array | object => cases read
  · rintro rfl
    rfl

namespace GatewayConnection

variable {body message : String} {code : Int}

/-- The fields of what a gateway says about a refused request. -/
def refusalKeys : List String := ["message", "errorCode"]

theorem refusal_eq_ok_iff {document : Json} {refusal : Refusal} :
    Refusal.ofJson document = .ok refusal ↔ ∃ field, IsRecord refusalKeys field document ∧
      Reads Json.optionalText none refusal.message (field "message") ∧
      Reads Json.optionalInteger none refusal.code (field "errorCode") := by
  -- The fields are read by readers of two types, so the name tells which one is meant.
  let fits := fun (key : String) (given : Option Json) =>
    if key = "message" then Reads Json.optionalText none refusal.message given
    else Reads Json.optionalInteger none refusal.code given
  have each : ∀ field : String → Option Json, (∀ key ∈ refusalKeys, fits key (field key)) ↔
      Reads Json.optionalText none refusal.message (field "message") ∧
      Reads Json.optionalInteger none refusal.code (field "errorCode") := by
    intro field
    simp [refusalKeys, fits]
  simp only [← each]
  apply record_bind_eq_ok_iff (by decide)
  intro record
  refine Iff.trans ?_ (each record.get?).symm
  simp only [bind_eq_ok_iff, read_eq_ok_iff_reads]
  constructor
  · rintro ⟨message, first, code, second, same⟩
    cases same
    exact ⟨first, second⟩
  · rintro ⟨first, second⟩
    exact ⟨_, first, _, second, rfl⟩

/-- Whether a body is a text of a record with a message, and with a code if there is
one. -/
def Explains (body message : String) (code : Int) : Prop :=
  ∃ document field, IsText document body ∧ IsRecord refusalKeys field document ∧
    field "message" = some (.ofText message) ∧ IsCode (field "errorCode") code

theorem explains_iff : Explains body message code ↔
    ∃ code?, readBody Refusal.ofJson body = .ok ⟨some message, code?⟩ ∧ code = code?.getD 0 := by
  simp only [readBody_eq_ok_iff, refusal_eq_ok_iff, reads_optionalText_iff]
  constructor
  · rintro ⟨document, field, written, isRecord, worded, coded⟩
    rcases isCode_iff.mp coded with ⟨code?, read, value⟩
    exact ⟨code?, ⟨document, written, field, isRecord, worded, read⟩, value⟩
  · rintro ⟨code?, ⟨document, written, field, isRecord, worded, read⟩, value⟩
    exact ⟨document, field, written, isRecord, worded, isCode_iff.mpr ⟨code?, read, value⟩⟩

/-- The reason that the body of a refusal gives. -/
inductive IsReason (body : String) : String → Prop
  | explained {message : String} {code : Int} (explains : Explains body message code) :
      IsReason body (message ++ " (code " ++ toString code ++ ")")
  | unexplained (nothing : ∀ message code, ¬Explains body message code) : IsReason body body

theorem isReason_iff {reason : String} : IsReason body reason ↔ reason = refusalReason body := by
  unfold refusalReason
  split
  · rename_i message code? read
    have explains : Explains body message (code?.getD 0) := explains_iff.mpr ⟨code?, read, rfl⟩
    constructor
    · rintro (⟨explains'⟩ | nothing)
      · rcases explains_iff.mp explains' with ⟨code?', read', rfl⟩
        cases read.symm.trans read'
        rfl
      · exact absurd explains (nothing _ _)
    · rintro rfl
      exact .explained explains
  · rename_i other
    have nothing : ∀ message code, ¬Explains body message code := by
      intro message code explains
      rcases explains_iff.mp explains with ⟨code?, read, -⟩
      exact other message code? read
    constructor
    · rintro (⟨explains⟩ | -)
      · exact absurd explains (nothing _ _)
      · rfl
    · rintro rfl
      exact .unexplained nothing

example : refusalReason "\x7b\"errorCode\":null,\"message\":\"busy\"\x7d" = "busy (code 0)" := by
  decide +kernel

/-! ## Results -/

/-- What the answer to a request for a path means.  There is a value exactly if the
status is one of success and the body can be read; a refusal gives its reason. -/
structure Means {α : Type} (path : String) (reader : Json → Except Mismatch α)
    (answer : RestAnswer) (result : Except Fault α) : Prop where
  value : ∀ value, result = .ok value ↔ 200 ≤ answer.status ∧ answer.status < 300 ∧
    ∃ document, IsText document answer.text ∧ reader document = .ok value
  unauthorized : answer.status = 401 →
    result = .error (.auth (path ++ " rejected the session token"))
  refused : answer.status ≠ 401 → ¬(200 ≤ answer.status ∧ answer.status < 300) →
    ∀ reason, IsReason answer.text reason ↔ result = .error (.powerFlexApi
      (path ++ " returned " ++ statusText answer.status ++ ": " ++ reason))

theorem means_decode {α : Type} (path : String) (reader : Json → Except Mismatch α)
    (answer : RestAnswer) : Means path reader answer (decode path reader answer) where
  value _ := decode_eq_ok_iff
  unauthorized status := if_pos status
  refused authorized failure reason := by
    have refuses : ¬isSuccess answer.status = true := fun success =>
      failure (isSuccess_iff.mp success)
    rw [decode, if_neg authorized, if_neg refuses, isReason_iff]
    simp [eq_comm]

end GatewayConnection
end StorageTelemetry
