import StorageTelemetry.Document.Readable
import StorageTelemetry.Document.Tree
import StorageTelemetry.Double.Decimal
import StorageTelemetry.Powers
import StorageTelemetry.Text.Digits
import StorageTelemetry.Text.Lowercase

namespace StorageTelemetry

/-!
# Typed values from trees

A scalar in a tree is converted to whatever scalar is wanted, because a layer
may only be able to give texts.  Lists and tables are never converted.
-/

namespace Tree

/-- What a tree is called when it does not fit. -/
def describe : Tree → String
  | null => "unit value"
  | flag _ => "boolean"
  | integer _ => "integer"
  | float _ => "floating point"
  | text _ => "string"
  | list _ => "sequence"
  | table _ => "map"

/-- A text: scalars are written out. -/
def toText : Tree → Except Mismatch String
  | text value => .ok value
  | flag true => .ok "true"
  | flag false => .ok "false"
  | integer value => .ok (toString value)
  | float value => .ok value.toText
  | other => .error (.wrongType other.describe "a string")

/-- A flag: a number is one if it is not zero, and some words count. -/
def toFlag : Tree → Except Mismatch Bool
  | flag value => .ok value
  | integer value => .ok (value ≠ 0)
  | float value => .ok (value ≠ .zero && value ≠ .finite true .zero)
  | text value =>
      let word := Text.lower value
      if ["1", "true", "on", "yes"].contains word then .ok true
      else if ["0", "false", "off", "no"].contains word then .ok false
      else .error (.wrongType "string" "a boolean")
  | other => .error (.wrongType other.describe "a boolean")

def largestWord : Nat := twoPow 64 - 1

/-- The whole number nearest to a double, a half going away from zero, within
the range of 64 bits. -/
def nearestWord : Double → Nat
  | .nan => 0
  | .infinite negative => if negative then 0 else largestWord
  | .finite negative m =>
      if negative then 0
      else min largestWord ((2 * m.units + Double.unitsInOne) / (2 * Double.unitsInOne))

/-- The number that a text of digits denotes, if it has 64 bits.  One plus
sign may precede the digits. -/
def wordOfText? (text : String) : Option Nat :=
  (Text.unsigned? text.toList).filter (· ≤ largestWord)

def toWord : Tree → Except Mismatch Nat
  | flag true => .ok 1
  | flag false => .ok 0
  | integer value =>
      if 0 ≤ value ∧ value ≤ largestWord then .ok value.toNat
      else .error (.wrongValue "integer" "an unsigned 64 bit integer")
  | float value => .ok (nearestWord value)
  | text value =>
      let word := Text.lower value
      if ["true", "on", "yes"].contains word then .ok 1
      else if ["false", "off", "no"].contains word then .ok 0
      else
        match wordOfText? value with
        | some number => .ok number
        | none => .error (.wrongType "string" "an integer")
  | other => .error (.wrongType other.describe "an integer")

def toNatBelow (limit : Nat) (expected : String) (tree : Tree) : Except Mismatch Nat := do
  let value ← tree.toWord
  if value < limit then return value else throw (.wrongValue "integer" expected)

/-- An optional text: null stands for none. -/
def toOptionalText : Tree → Except Mismatch (Option String)
  | null => .ok none
  | other => other.toText.map some

def toItems : Tree → Except Mismatch (List Tree)
  | list items => .ok items
  | other => .error (.wrongType other.describe "a sequence")

/-- Opens a table, or a list of fields in declaration order.  Items beyond the
declared fields are ignored. -/
def toRecord (title : String) (names : List String) : Tree → Except Mismatch (Record Tree)
  | table members => .ok ⟨members.filter fun member => names.contains member.1, .missingField⟩
  | list items => .ok ⟨names.zip items, fun _ => .wrongLength items.length title⟩
  | other => .error (.wrongType other.describe title)

end Tree

instance : Readable Tree where
  text := Tree.toText
  optionalText := Tree.toOptionalText
  flag := Tree.toFlag
  natBelow := Tree.toNatBelow
  items := Tree.toItems
  record := Tree.toRecord

end StorageTelemetry
