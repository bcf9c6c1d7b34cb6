import StorageTelemetry.Json.Reader

namespace StorageTelemetry
namespace Json

/-!
# The grammar of documents

A document may be written in many ways.  Blanks may stand between any two tokens, a
string may escape what it need not escape, and a number has several writings.  The
relations below say which characters stand for which document, without saying how a
reader would find out.  Only what a single escape names, and how two halves of a
surrogate pair are joined, is looked up in the tables of the reader.

There is no rule for a comma that nothing follows, so neither a list nor an object
can end in one.
-/

/-! ## Numbers -/

/-- One or more digits. -/
structure Digits (text : List Char) : Prop where
  nonempty : text ≠ []
  digit : ∀ c ∈ text, c.isDigit = true

/-- The digits before a point: no zero leads others. -/
structure WholeDigits (text : List Char) : Prop extends Digits text where
  leading : text.length = 1 ∨ text.head? ≠ some '0'

/-- A point and the digits after it, or nothing. -/
inductive WrittenFraction : Option (List Char) → List Char → Prop
  | absent : WrittenFraction none []
  | present {digits : List Char} : Digits digits → WrittenFraction (some digits) ('.' :: digits)

/-- The sign in front of an exponent. -/
inductive WrittenSign : Bool → List Char → Prop
  | absent : WrittenSign false []
  | plus : WrittenSign false ['+']
  | minus : WrittenSign true ['-']

/-- An exponent, or nothing. -/
inductive WrittenExponent : Option Int → List Char → Prop
  | absent : WrittenExponent none []
  | present {letter : Char} {negative : Bool} {sign digits : List Char} :
      letter = 'e' ∨ letter = 'E' → WrittenSign negative sign → Digits digits →
      WrittenExponent
        (some (if negative then -(Text.digitsValue digits : Int) else Text.digitsValue digits))
        (letter :: (sign ++ digits))

/-- What the parts of a number denote. -/
def tokenOf (negative : Bool) (whole : List Char) (fraction : Option (List Char))
    (exponent : Option Int) : NumberToken :=
  { negative
    digits := Text.digitsValue (whole ++ fraction.getD [])
    scale := exponent.getD 0 - (fraction.getD []).length
    integral := fraction.isNone && exponent.isNone }

inductive WrittenNumber : NumberToken → List Char → Prop
  | intro {whole point power : List Char} {fraction : Option (List Char)}
      {exponent : Option Int} (negative : Bool) :
      WholeDigits whole → WrittenFraction fraction point → WrittenExponent exponent power →
      WrittenNumber (tokenOf negative whole fraction exponent)
        ((if negative then ['-'] else []) ++ whole ++ point ++ power)

/-! ## Strings -/

/-- The units of a string.  Every character but the quote, the backslash and the
control characters may stand for itself; any may be escaped. -/
inductive WrittenUnits : List StringUnit → List Char → Prop
  | nil : WrittenUnits [] []
  | plain {c : Char} {units : List StringUnit} {text : List Char} :
      c ≠ '"' → c ≠ '\\' → ' ' ≤ c → WrittenUnits units text →
      WrittenUnits (.char c :: units) (c :: text)
  | letter {letter c : Char} {units : List StringUnit} {text : List Char} :
      letterEscape? letter = some c → WrittenUnits units text →
      WrittenUnits (.char c :: units) ('\\' :: letter :: text)
  | digits {a b c d : Char} {code : Nat} {units : List StringUnit} {text : List Char} :
      hex4? a b c d = some code → WrittenUnits units text →
      WrittenUnits (unitOfCode code :: units) ('\\' :: 'u' :: a :: b :: c :: d :: text)

/-- What units denote; nothing, if a half of a surrogate pair is on its own. -/
def unitsText? (units : List StringUnit) : Option String := (joinUnits? units).map String.ofList

inductive WrittenString : Option String → List Char → Prop
  | intro {units : List StringUnit} {text : List Char} :
      WrittenUnits units text → WrittenString (unitsText? units) ('"' :: (text ++ ['"']))

/-! ## Documents -/

/-- Nothing but blanks. -/
def Blanks (text : List Char) : Prop := ∀ c ∈ text, isBlank c = true

/-- The key of a member and the blanks around it. -/
inductive WrittenKey (key : Option String) : List Char → Prop
  | intro {before text after : List Char} :
      Blanks before → WrittenString key text → Blanks after →
      WrittenKey key (before ++ text ++ after)

/-- What a stretch of text may stand for: a document, the same with blanks around it,
and what is between the brackets of a list or an object that is not empty. -/
inductive Phrase
  | value (document : Json)
  | spaced (document : Json)
  | items (items : List Json)
  | members (members : List (Option String × Json))

inductive Written : Phrase → List Char → Prop
  | null : Written (.value .null) ['n', 'u', 'l', 'l']
  | yes : Written (.value (.bool true)) ['t', 'r', 'u', 'e']
  | no : Written (.value (.bool false)) ['f', 'a', 'l', 's', 'e']
  | number {token : NumberToken} {text : List Char} :
      WrittenNumber token text → Written (.value (.number token)) text
  | string {content : Option String} {text : List Char} :
      WrittenString content text → Written (.value (.string content)) text
  | emptyArray {gap : List Char} :
      Blanks gap → Written (.value (.array [])) ('[' :: (gap ++ [']']))
  | array {items : List Json} {text : List Char} :
      Written (.items items) text → Written (.value (.array items)) ('[' :: (text ++ [']']))
  | emptyObject {gap : List Char} :
      Blanks gap → Written (.value (.object [])) ('{' :: (gap ++ ['}']))
  | object {members : List (Option String × Json)} {text : List Char} :
      Written (.members members) text →
      Written (.value (.object members)) ('{' :: (text ++ ['}']))
  | spaced {document : Json} {before text after : List Char} :
      Blanks before → Written (.value document) text → Blanks after →
      Written (.spaced document) (before ++ text ++ after)
  | lastItem {item : Json} {text : List Char} :
      Written (.spaced item) text → Written (.items [item]) text
  | nextItem {item : Json} {items : List Json} {text rest : List Char} :
      Written (.spaced item) text → Written (.items items) rest →
      Written (.items (item :: items)) (text ++ ',' :: rest)
  | lastMember {key : Option String} {value : Json} {name text : List Char} :
      WrittenKey key name → Written (.spaced value) text →
      Written (.members [(key, value)]) (name ++ ':' :: text)
  | nextMember {key : Option String} {value : Json} {members : List (Option String × Json)}
      {name text rest : List Char} :
      WrittenKey key name → Written (.spaced value) text → Written (.members members) rest →
      Written (.members ((key, value) :: members)) (name ++ ':' :: (text ++ ',' :: rest))

/-- A whole text that stands for a document. -/
def IsText (document : Json) (text : String) : Prop := Written (.spaced document) text.toList

end Json
end StorageTelemetry
