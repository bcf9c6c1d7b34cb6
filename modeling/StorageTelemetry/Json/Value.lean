import StorageTelemetry.Text.Quoted

namespace StorageTelemetry

/-!
# Documents

A document is kept as it was written as far as a reader of records can tell:
members stay in order, a repeated key stays repeated, and a number keeps what
its token says rather than a rounded value.  What a repeated key or an
out-of-range number means is decided by whoever reads the document.
-/

/-- A number token.  It denotes `digits · 10 ^ scale`, negated if it began
with a minus sign; `integral` says that it had neither a point nor an
exponent. -/
structure NumberToken where
  negative : Bool
  digits : Nat
  scale : Int
  integral : Bool
deriving DecidableEq

/-- A document tree.  A string token whose escapes name half of a surrogate
pair is well-formed but denotes no text, and is kept as `none`. -/
inductive Json
  | null
  | bool (value : Bool)
  | number (token : NumberToken)
  | string (text : Option String)
  | array (items : List Json)
  | object (members : List (Option String × Json))

namespace Json

def ofText (text : String) : Json := .string (some text)

def ofNat (n : Nat) : Json := .number ⟨false, n, 0, true⟩

def ofTexts (texts : List String) : Json := .array (texts.map ofText)

def ofMembers (members : List (String × Json)) : Json :=
  .object (members.map fun (key, value) => (some key, value))

/-! ## Writing -/

/-- A token for the number.  A number that is not integral is written with an
exponent, so that reading it back gives the same token. -/
def tokenChars (token : NumberToken) : List Char :=
  let sign := if token.negative then ['-'] else []
  let digits := Nat.toDigits 10 token.digits
  if token.integral then sign ++ digits
  else sign ++ digits ++ 'e' :: (toString token.scale).toList

/-- A quoted text, or an unpaired surrogate escape where there is no text. -/
def stringChars : Option String → List Char
  | some text => Text.quoted text.toList
  | none => "\"\\ud800\"".toList

mutual

/-- The compact writing of a document: no blanks, members in order. -/
def chars : Json → List Char
  | .null => ['n', 'u', 'l', 'l']
  | .bool true => ['t', 'r', 'u', 'e']
  | .bool false => ['f', 'a', 'l', 's', 'e']
  | .number token => tokenChars token
  | .string text => stringChars text
  | .array items => '[' :: (itemChars items ++ [']'])
  | .object members => '{' :: (memberChars members ++ ['}'])

def itemChars : List Json → List Char
  | [] => []
  | [item] => chars item
  | item :: next :: rest => chars item ++ ',' :: itemChars (next :: rest)

def memberChars : List (Option String × Json) → List Char
  | [] => []
  | [(key, value)] => stringChars key ++ ':' :: chars value
  | (key, value) :: next :: rest =>
      stringChars key ++ ':' :: chars value ++ ',' :: memberChars (next :: rest)

end

def compact (document : Json) : String := String.ofList document.chars

end Json
end StorageTelemetry
