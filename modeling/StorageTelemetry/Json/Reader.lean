import StorageTelemetry.Json.Value
import StorageTelemetry.Text.Digits

namespace StorageTelemetry
namespace Json

/-!
# Reading documents

A recursive reader over the characters of a text.  Each part returns what it
read and what is left, so that the parts can be stated and proved one by one.
The recursion is bounded by a number of steps which `read?` computes from the
length of the text: every step but the first consumes a character.
-/

/-- The four characters that may stand between tokens. -/
def isBlank (c : Char) : Bool := c = ' ' || c = '\t' || c = '\n' || c = '\r'

def skipBlank (text : List Char) : List Char := text.dropWhile isBlank

/-! ## Numbers -/

/-- The digits at the front of a text and what is left. -/
def digitRun (text : List Char) : List Char × List Char :=
  (text.takeWhile Char.isDigit, text.dropWhile Char.isDigit)

def minusSign : List Char → Bool × List Char
  | '-' :: rest => (true, rest)
  | rest => (false, rest)

/-- The digits after a point, if there is a point. -/
def fraction? : List Char → Option (Option (List Char) × List Char)
  | '.' :: rest =>
      let (digits, rest) := digitRun rest
      if digits.isEmpty then none else some (some digits, rest)
  | rest => some (none, rest)

def signedExponent? (text : List Char) : Option (Int × List Char) :=
  let (negative, rest) :=
    match text with
    | '-' :: rest => (true, rest)
    | '+' :: rest => (false, rest)
    | rest => (false, rest)
  let (digits, rest) := digitRun rest
  if digits.isEmpty then none
  else
    let size : Int := Text.digitsValue digits
    some (if negative then -size else size, rest)

/-- The exponent of a number, if it has one. -/
def exponent? : List Char → Option (Option Int × List Char)
  | 'e' :: rest => (signedExponent? rest).map fun (e, rest) => (some e, rest)
  | 'E' :: rest => (signedExponent? rest).map fun (e, rest) => (some e, rest)
  | rest => some (none, rest)

/-- A number token.  Its whole part is a single zero or starts with another
digit. -/
def number? (text : List Char) : Option (NumberToken × List Char) := do
  let (negative, rest) := minusSign text
  let (whole, rest) := digitRun rest
  guard (!whole.isEmpty && (whole.length == 1 || whole.head? != some '0'))
  let (fraction, rest) ← fraction? rest
  let (exponent, rest) ← exponent? rest
  let places := fraction.getD []
  let token : NumberToken :=
    { negative
      digits := Text.digitsValue (whole ++ places)
      scale := exponent.getD 0 - places.length
      integral := fraction.isNone && exponent.isNone }
  return (token, rest)

/-! ## Strings -/

/-- One unit of a string token: a character, or an escaped half of a
surrogate pair. -/
inductive StringUnit
  | char (c : Char)
  | half (code : Nat)

def hex4? (a b c d : Char) : Option Nat := do
  let a ← Text.hexValue? a
  let b ← Text.hexValue? b
  let c ← Text.hexValue? c
  let d ← Text.hexValue? d
  return ((a * 16 + b) * 16 + c) * 16 + d

/-- The unit that a four-digit escape names. -/
def unitOfCode (code : Nat) : StringUnit :=
  if 0xD800 ≤ code ∧ code < 0xE000 then .half code else .char (Char.ofNat code)

/-- The character that an escape of one letter names. -/
def letterEscape? : Char → Option Char
  | '"' => some '"'
  | '\\' => some '\\'
  | '/' => some '/'
  | 'b' => some '\x08'
  | 'f' => some '\x0c'
  | 'n' => some '\n'
  | 'r' => some '\r'
  | 't' => some '\t'
  | _ => none

/-- The units of a string up to its closing quote. -/
def stringUnits? : List Char → Option (List StringUnit × List Char)
  | [] => none
  | '"' :: rest => some ([], rest)
  | '\\' :: 'u' :: a :: b :: c :: d :: rest => do
      let code ← hex4? a b c d
      let (units, rest) ← stringUnits? rest
      return (unitOfCode code :: units, rest)
  | '\\' :: c :: rest => do
      let c ← letterEscape? c
      let (units, rest) ← stringUnits? rest
      return (.char c :: units, rest)
  | c :: rest => do
      guard (c != '\\' && ' ' ≤ c)
      let (units, rest) ← stringUnits? rest
      return (.char c :: units, rest)

/-- The characters of a string token.  A high half must be followed at once
by a low half, and a low half cannot stand otherwise. -/
def joinUnits? : List StringUnit → Option (List Char)
  | [] => some []
  | .char c :: rest => (joinUnits? rest).map (c :: ·)
  | .half high :: .half low :: rest =>
      if high < 0xDC00 ∧ 0xDC00 ≤ low then
        (joinUnits? rest).map
          (Char.ofNat (0x10000 + (high - 0xD800) * 0x400 + (low - 0xDC00)) :: ·)
      else none
  | .half _ :: _ => none

/-- The rest of a string token after its opening quote. -/
def stringToken? (text : List Char) : Option (Option String × List Char) :=
  (stringUnits? text).map fun (units, rest) =>
    ((joinUnits? units).map String.ofList, rest)

/-! ## Documents -/

mutual

/-- A document at the front of a text, after blanks. -/
def value? : Nat → List Char → Option (Json × List Char)
  | 0, _ => none
  | steps + 1, text =>
      match skipBlank text with
      | 'n' :: 'u' :: 'l' :: 'l' :: rest => some (.null, rest)
      | 't' :: 'r' :: 'u' :: 'e' :: rest => some (.bool true, rest)
      | 'f' :: 'a' :: 'l' :: 's' :: 'e' :: rest => some (.bool false, rest)
      | '"' :: rest => (stringToken? rest).map fun (text, rest) => (.string text, rest)
      | '[' :: rest =>
          match skipBlank rest with
          | ']' :: rest => some (.array [], rest)
          | rest => (items? steps rest).map fun (items, rest) => (.array items, rest)
      | '{' :: rest =>
          match skipBlank rest with
          | '}' :: rest => some (.object [], rest)
          | rest => (members? steps rest).map fun (members, rest) => (.object members, rest)
      | rest => (number? rest).map fun (token, rest) => (.number token, rest)

/-- One or more items up to the closing bracket. -/
def items? : Nat → List Char → Option (List Json × List Char)
  | 0, _ => none
  | steps + 1, text => do
      let (item, rest) ← value? steps text
      match skipBlank rest with
      | ',' :: rest =>
          let (items, rest) ← items? steps rest
          return (item :: items, rest)
      | ']' :: rest => return ([item], rest)
      | _ => none

/-- One or more members up to the closing brace. -/
def members? : Nat → List Char → Option (List (Option String × Json) × List Char)
  | 0, _ => none
  | steps + 1, text =>
      match skipBlank text with
      | '"' :: rest => do
          let (key, rest) ← stringToken? rest
          match skipBlank rest with
          | ':' :: rest =>
              let (value, rest) ← value? steps rest
              match skipBlank rest with
              | ',' :: rest =>
                  let (members, rest) ← members? steps rest
                  return ((key, value) :: members, rest)
              | '}' :: rest => return ([(key, value)], rest)
              | _ => none
          | _ => none
      | _ => none

end

def read? (text : List Char) : Option Json :=
  match value? (2 * text.length + 2) text with
  | some (document, rest) => if (skipBlank rest).isEmpty then some document else none
  | none => none

def ofString? (text : String) : Option Json := read? text.toList

end Json
end StorageTelemetry
