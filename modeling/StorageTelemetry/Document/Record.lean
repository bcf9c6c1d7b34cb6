import StorageTelemetry.Document.Mismatch

namespace StorageTelemetry

/-!
# Records in documents

A record is written as an object, where members may come in any order and
unknown ones are ignored, or as a list of its fields in declaration order.
Opening a record keeps the declared fields that were given, each once; a
repeated declared field is refused, because it is not clear which to believe.
-/

/-- The given fields of an opened record, by declared name. -/
structure Record (ν : Type) where
  given : List (String × ν)
  missing : String → Mismatch

namespace Record

variable {ν α : Type}

/-- The values that an object gives for one field. -/
def valuesFor (name : String) (members : List (Option String × ν)) : List ν :=
  members.filterMap fun (key, value) => if key = some name then some value else none

/-- The fields of an object, in declaration order. -/
def collect (members : List (Option String × ν)) :
    List String → Except Mismatch (List (String × ν))
  | [] => .ok []
  | name :: names =>
      match valuesFor name members with
      | [] => collect members names
      | [value] => (collect members names).map ((name, value) :: ·)
      | _ => .error (.duplicateField name)

/-- Opens an object.  A key that denotes no text makes the object unreadable,
since it cannot be told apart from the declared names. -/
def ofMembers (names : List String) (members : List (Option String × ν)) :
    Except Mismatch (Record ν) :=
  if members.any fun (key, _) => key.isNone then .error .notText
  else (collect members names).map fun given => ⟨given, .missingField⟩

def ofItems (title : String) (names : List String) (items : List ν) :
    Except Mismatch (Record ν) :=
  if names.length < items.length then
    .error (.wrongLength items.length "fewer elements in array")
  else
    let elements := if names.length = 1 then " element" else " elements"
    .ok ⟨names.zip items, fun _ =>
      .wrongLength items.length (title ++ " with " ++ toString names.length ++ elements)⟩

def get? (record : Record ν) (name : String) : Option ν := record.given.lookup name

/-- Reads a field if it was given. -/
def read? (record : Record ν) (name : String) (reader : ν → Except Mismatch α) :
    Except Mismatch (Option α) :=
  match record.get? name with
  | some value => (reader value).map some
  | none => .ok none

/-- Reads a field that may be left out. -/
def read (record : Record ν) (name : String) (reader : ν → Except Mismatch α)
    (default : α) : Except Mismatch α :=
  (record.read? name reader).map (·.getD default)

/-- A field that must have been given. -/
def require (record : Record ν) (name : String) : Option α → Except Mismatch α
  | some value => .ok value
  | none => .error (record.missing name)

end Record

/-- A list read item by item; the first item that does not fit is the fault. -/
def readItems {ν α : Type} (reader : ν → Except Mismatch α) :
    List ν → Except Mismatch (List α)
  | [] => .ok []
  | item :: rest => do
      let value ← reader item
      let values ← readItems reader rest
      return value :: values

end StorageTelemetry
