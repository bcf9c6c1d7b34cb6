import StorageTelemetry.Double.Basic
import StorageTelemetry.Json.Value
import StorageTelemetry.Powers
import StorageTelemetry.Text.Digits

namespace StorageTelemetry

/-!
# Trees of settings

Whatever notation settings are written in, they come down to a tree.  Trees
can be laid over one another: a value is put at a place, and tables are merged
with what is already there, so that a later layer changes only what it names.
-/

/-- A tree of untyped values. -/
inductive Tree
  | null
  | flag (value : Bool)
  | integer (value : Int)
  | float (value : Double)
  | text (value : String)
  | list (items : List Tree)
  | table (members : List (String × Tree))

/-- One step down a tree.  A negative index counts from the end. -/
inductive Tree.Step
  | key (name : String)
  | index (position : Int)
deriving DecidableEq

namespace Tree

def members : Tree → List (String × Tree)
  | table members => members
  | _ => []

def items : Tree → List Tree
  | list items => items
  | _ => []

/-- Members with one of them changed.  A member that is missing is added at
the end, changed from null. -/
def modifyMember (key : String) (change : Tree → Tree) :
    List (String × Tree) → List (String × Tree)
  | [] => [(key, change .null)]
  | member :: rest =>
      if member.1 = key then (key, change member.2) :: rest
      else member :: modifyMember key change rest

/-- Items with one of them changed, where missing ones are filled in as null:
after the end for an index beyond it, and in front for a negative index that
reaches further back than the list. -/
def modifyItem (position : Int) (change : Tree → Tree) (items : List Tree) : List Tree :=
  if 0 ≤ position then
    let index := position.toNat
    (items ++ List.replicate (index + 1 - items.length) null).modify index change
  else
    let back := position.natAbs
    if back ≤ items.length then items.modify (items.length - back) change
    else (List.replicate (back - items.length) null ++ items).modify 0 change

/-- A tree with the value at some place changed.  Whatever stands in the way
is replaced by a table or a list. -/
def modifyAt : List Step → (Tree → Tree) → Tree → Tree
  | [], change, tree => change tree
  | .key name :: rest, change, tree =>
      .table (modifyMember name (modifyAt rest change) tree.members)
  | .index position :: rest, change, tree =>
      .list (modifyItem position (modifyAt rest change) tree.items)

mutual

/-- Lays a tree over another: the members of a table are laid over the
members that are there, and anything else replaces what is there. -/
def layOver : Tree → Tree → Tree
  | .table layer, base => .table (membersOver layer base.members)
  | .null, _ => .null
  | .flag value, _ => .flag value
  | .integer value, _ => .integer value
  | .float value, _ => .float value
  | .text value, _ => .text value
  | .list items, _ => .list items

/-- Lays members over other members, one after another. -/
def membersOver : List (String × Tree) → List (String × Tree) → List (String × Tree)
  | [], base => base
  | (key, value) :: rest, base => membersOver rest (modifyMember key (layOver value) base)

end

/-! ## Places -/

/-- Whether a character may stand in the name of a place. -/
def isNameChar (c : Char) : Bool := c.isAlphanum || c = '_' || c = '-'

def isIndexBlank (c : Char) : Bool := c = ' ' || c = '\t'

def name? (text : List Char) : Option (String × List Char) :=
  let name := text.takeWhile isNameChar
  if name.isEmpty then none else some (String.ofList name, text.dropWhile isNameChar)

/-- The index at the front of a text, up to its closing bracket. -/
def index? (text : List Char) : Option (Int × List Char) :=
  let text := text.dropWhile isIndexBlank
  let (sign, digits) : Int × List Char :=
    match text with
    | '-' :: rest => (-1, rest)
    | rest => (1, rest)
  let number := digits.takeWhile Char.isDigit
  let value := sign * (Text.digitsValue number : Nat)
  match number, (digits.dropWhile Char.isDigit).dropWhile isIndexBlank with
  | [], _ => none
  | _, ']' :: rest => if isSigned64 value then some (value, rest) else none
  | _, _ => none

/-- The steps after the first name: names after points, and indices in
brackets.  Every step consumes a character, which bounds their number. -/
def steps? : Nat → List Char → Option (List Step)
  | _, [] => some []
  | 0, _ => none
  | bound + 1, '.' :: rest => do
      let (name, rest) ← name? rest
      let steps ← steps? bound rest
      return .key name :: steps
  | bound + 1, '[' :: rest => do
      let (position, rest) ← index? rest
      let steps ← steps? bound rest
      return .index position :: steps
  | _, _ => none

def place? (text : String) : Option (List Step) := do
  let (name, rest) ← name? text.toList
  let steps ← steps? rest.length rest
  return .key name :: steps

/-- The place for a key at the top of a layer.  A key that names no place
stands for itself. -/
def placeOf (key : String) : List Step := (place? key).getD [.key key]

/-- Lays a value over a tree at the place of a key. -/
def put (tree : Tree) (key : String) (value : Tree) : Tree :=
  tree.modifyAt (placeOf key) value.layOver

/-- Lays named values over a tree, one after another. -/
def putAll (tree : Tree) (layer : List (String × Tree)) : Tree :=
  layer.foldl (fun tree (key, value) => tree.put key value) tree

end Tree
end StorageTelemetry
