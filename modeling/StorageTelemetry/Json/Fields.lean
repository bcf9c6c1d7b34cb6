import StorageTelemetry.Document.Record
import StorageTelemetry.Double.Decimal
import StorageTelemetry.Json.Value
import StorageTelemetry.Powers
import StorageTelemetry.Text.Debug

namespace StorageTelemetry
namespace Json

/-!
# Typed values in documents

The scalar readers accept exactly one shape each.  A whole number must be
written without point and exponent; any number token is a double, unless its
value is beyond the largest one.
-/

/-- The double nearest to a number token.  A JSON reader may be set to trade this for
speed: then it rounds more than once, may give a neighbour of this double, and may
refuse tokens near the largest double that are accepted here. -/
def tokenDouble (token : NumberToken) : Double :=
  Double.ofDecimal token.negative token.digits token.scale

/-- A double with a decimal point in every case. -/
def pointedText (x : Double) : String :=
  let text := x.toText
  if text.contains '.' then text else text ++ ".0"

/-- Whether a token is a whole number that fits into 64 bits, signed if it is
negative.  Negative zero is not. -/
def isWhole (token : NumberToken) : Bool :=
  token.integral &&
    if token.negative then 0 < token.digits && token.digits ≤ twoPow 63
    else token.digits < twoPow 64

/-- What a number token is called in a mismatch. -/
def describeToken (token : NumberToken) : String :=
  if isWhole token then
    "integer `" ++ (if token.negative then "-" else "") ++ toString token.digits ++ "`"
  else "floating point `" ++ pointedText (tokenDouble token) ++ "`"

def describe : Json → String
  | .null => "null"
  | .bool value => "boolean `" ++ (if value then "true" else "false") ++ "`"
  | .number token => describeToken token
  | .string text => "string " ++ Text.shown (text.getD "")
  | .array _ => "sequence"
  | .object _ => "map"

def text : Json → Except Mismatch String
  | .string (some text) => .ok text
  | .string none => .error .notText
  | other => .error (.wrongType other.describe "a string")

/-- A text or nothing. -/
def optionalText : Json → Except Mismatch (Option String)
  | .null => .ok none
  | other => (text other).map some

/-- A natural number below a bound, under the name that mismatches give it. -/
def natBelow (bound : Nat) (name : String) : Json → Except Mismatch Nat
  | .number token =>
      if !isWhole token then .error (.wrongType (describeToken token) name)
      else if token.negative || bound ≤ token.digits then
        .error (.wrongValue (describeToken token) name)
      else .ok token.digits
  | other => .error (.wrongType other.describe name)

def word (document : Json) : Except Mismatch UInt64 :=
  (natBelow (twoPow 64) "u64" document).map UInt64.ofNat

/-- The whole number that a token denotes, in 64 bits with a sign. -/
def tokenInteger? (token : NumberToken) : Option Int :=
  if isWhole token && (token.negative || token.digits < twoPow 63) then
    some (if token.negative then -(token.digits : Int) else token.digits)
  else none

/-- A whole number of 64 bits with a sign, or nothing. -/
def optionalInteger : Json → Except Mismatch (Option Int)
  | .null => .ok none
  | .number token =>
      match tokenInteger? token with
      | some value => .ok (some value)
      | none => .error (.wrongValue (describeToken token) "i64")
  | other => .error (.wrongType other.describe "i64")

/-- A double.  An infinity can only come from a token that is too large. -/
def double : Json → Except Mismatch Double
  | .number token =>
      if (tokenDouble token).isFinite then .ok (tokenDouble token) else .error .outOfRange
  | other => .error (.wrongType other.describe "f64")

def flag : Json → Except Mismatch Bool
  | .bool value => .ok value
  | other => .error (.wrongType other.describe "a boolean")

/-- A list with every item read the same way. -/
def list {α : Type} (reader : Json → Except Mismatch α) : Json → Except Mismatch (List α)
  | .array items => readItems reader items
  | other => .error (.wrongType other.describe "a sequence")

def record (title : String) (names : List String) : Json → Except Mismatch (Record Json)
  | .object members => Record.ofMembers names members
  | .array items => Record.ofItems title names items
  | other => .error (.wrongType other.describe title)

end Json
end StorageTelemetry
