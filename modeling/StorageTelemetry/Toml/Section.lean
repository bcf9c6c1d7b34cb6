import StorageTelemetry.Document.Tree

namespace StorageTelemetry.Toml

/-!
# Putting tables together

Statements of a document build one tree of tables.  A table may be spread over
several statements only in the ways that keep it clear where it is defined, so
each table remembers how it came about.  Anything defined twice is refused.
-/

/-- How a table came about: by its own header, because a header of a table
inside it was given, or because a key with points named it and put something
into it. -/
inductive Origin
  | header
  | implied
  | dotted
deriving DecidableEq

/-- A tree under construction.  A closed value takes nothing more, and of
repeated tables only the last can grow. -/
inductive Growth
  | closed (value : Tree)
  | table (origin : Origin) (members : List (String × Growth))
  | repeated (tables : List (List (String × Growth)))

/-- Tables under construction by name. -/
abbrev Growing := List (String × Growth)

namespace Growing

def find? (members : Growing) (name : String) : Option Growth := members.lookup name

def replace (members : Growing) (name : String) (value : Growth) : Growing :=
  members.map fun member => if member.1 = name then (name, value) else member

/-- Changes the members of the table at some path.  Tables that are missing on
the way are implied by it. -/
def descend? (change : Growing → Option Growing) : List String → Growing → Option Growing
  | [], members => change members
  | name :: path, members =>
      match Growing.find? members name with
      | none => (descend? change path []).map fun inner =>
          members ++ [(name, .table .implied inner)]
      | some (.table origin inner) =>
          (descend? change path inner).map fun inner => members.replace name (.table origin inner)
      | some (.repeated tables) => do
          let last ← tables.getLast?
          let inner ← descend? change path last
          return members.replace name (.repeated (tables.dropLast ++ [inner]))
      | some (.closed _) => none

/-- Adds a value under a name that is not taken. -/
def add? (name : String) (value : Tree) (members : Growing) : Option Growing :=
  if (Growing.find? members name).isSome then none else some (members ++ [(name, .closed value)])

/-- Assigns a value to a key.  No table that the key names on the way may have
a header.  The table that takes the value counts as named by such a key from
then on, even if a header implied it, so that it cannot get a header any more.
Of repeated tables the last can be passed through, but as it has a header it
cannot take the value itself. -/
def assign? (value : Tree) : List String → Growing → Option Growing
  | [], _ => none
  | [name], members => add? name value members
  | name :: next :: path, members =>
      match Growing.find? members name with
      | none => (assign? value (next :: path) []).map fun inner =>
          members ++ [(name, .table .dotted inner)]
      | some (.table .header _) | some (.closed _) => none
      | some (.table origin inner) =>
          (assign? value (next :: path) inner).map fun inner =>
            members.replace name (.table (if path.isEmpty then .dotted else origin) inner)
      | some (.repeated tables) => do
          guard (!path.isEmpty)
          let last ← tables.getLast?
          let inner ← assign? value (next :: path) last
          return members.replace name (.repeated (tables.dropLast ++ [inner]))

def openTable? (name : String) (members : Growing) : Option Growing :=
  match Growing.find? members name with
  | none => some (members ++ [(name, .table .header [])])
  | some (.table .implied inner) => some (members.replace name (.table .header inner))
  | _ => none

/-- Opens one more of the repeated tables of a header. -/
def openRepeated? (name : String) (members : Growing) : Option Growing :=
  match Growing.find? members name with
  | none => some (members ++ [(name, .repeated [[]])])
  | some (.repeated tables) => some (members.replace name (.repeated (tables ++ [[]])))
  | _ => none

end Growing

mutual

def Growth.tree : Growth → Tree
  | .closed value => value
  | .table _ members => .table (memberTrees members)
  | .repeated tables => .list (tableTrees tables)

def memberTrees : List (String × Growth) → List (String × Tree)
  | [] => []
  | (name, value) :: rest => (name, value.tree) :: memberTrees rest

def tableTrees : List (List (String × Growth)) → List Tree
  | [] => []
  | members :: rest => .table (memberTrees members) :: tableTrees rest

end

/-! ## Statements -/

/-- A statement of a document. -/
inductive Statement
  | assign (key : List String) (value : Tree)
  | header (path : List String)
  | repeatedHeader (path : List String)

/-- A document under construction, with the path of the table that
assignments go to. -/
structure Draft where
  members : Growing
  current : List String

namespace Draft

def empty : Draft := ⟨[], []⟩

/-- The draft after a statement, if the statement is allowed. -/
def add? (draft : Draft) : Statement → Option Draft
  | .assign key value =>
      (Growing.descend? (Growing.assign? value key) draft.current draft.members).map fun members =>
        { draft with members }
  | .header path => do
      let name ← path.getLast?
      let members ← Growing.descend? (Growing.openTable? name) path.dropLast draft.members
      return ⟨members, path⟩
  | .repeatedHeader path => do
      let name ← path.getLast?
      let members ← Growing.descend? (Growing.openRepeated? name) path.dropLast draft.members
      return ⟨members, path⟩

end Draft

/-- The members of the table that statements define together. -/
def assemble? (statements : List Statement) : Option (List (String × Tree)) :=
  (statements.foldlM Draft.add? .empty).map fun draft => memberTrees draft.members

end StorageTelemetry.Toml
