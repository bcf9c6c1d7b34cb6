import StorageTelemetry.Document.Tree
import StorageTelemetry.Double.Decimal
import StorageTelemetry.Json.Reader
import StorageTelemetry.Powers

namespace StorageTelemetry.Json

/-!
# Documents as layers of settings

A document that serves as a layer is held to be what it seems: every text must
be a text, a repeated key keeps its last value, and nesting is limited.
Integers that do not fit into 64 bits, with or without a sign, become doubles.
-/

/-- The largest nesting of lists and objects in a layer. -/
def deepestNesting : Nat := 127

mutual

/-- How deep lists and objects are nested in a document. -/
def depth : Json → Nat
  | .array items => itemDepth items + 1
  | .object members => memberDepth members + 1
  | .null | .bool _ | .number _ | .string _ => 0

def itemDepth : List Json → Nat
  | [] => 0
  | item :: rest => max (depth item) (itemDepth rest)

def memberDepth : List (Option String × Json) → Nat
  | [] => 0
  | (_, value) :: rest => max (depth value) (memberDepth rest)

end

/-- The number of a token: an integer if it has 64 bits with or without a
sign, and otherwise the nearest double, which must be finite. -/
def numberTree? (token : NumberToken) : Option Tree :=
  let value : Int := if token.negative then -token.digits else token.digits
  let isZero := token.negative && token.digits = 0
  let fits := isSigned64 value || (0 ≤ value && value < twoPow 64)
  if token.integral && !isZero && fits then some (.integer value)
  else
    let double := Double.ofDecimal token.negative token.digits token.scale
    if double.isFinite then some (.float double) else none

mutual

def tree? : Json → Option Tree
  | .null => some .null
  | .bool value => some (.flag value)
  | .number token => numberTree? token
  | .string text => text.map .text
  | .array items => (itemTrees? items).map .list
  | .object members => (memberTrees? members).map .table

def itemTrees? : List Json → Option (List Tree)
  | [] => some []
  | item :: rest => do
      let tree ← tree? item
      let trees ← itemTrees? rest
      return tree :: trees

/-- The trees of members.  A member that is repeated later does not count. -/
def memberTrees? : List (Option String × Json) → Option (List (String × Tree))
  | [] => some []
  | (key, value) :: rest => do
      let key ← key
      let tree ← tree? value
      let trees ← memberTrees? rest
      return if trees.any (·.1 = key) then trees else (key, tree) :: trees

end

/-- The members of the layer that a text is. -/
def layer? (text : List Char) : Option (List (String × Tree)) := do
  let document ← read? text
  guard (document.depth ≤ deepestNesting)
  match ← document.tree? with
  | .table members => some members
  | _ => none

end StorageTelemetry.Json
