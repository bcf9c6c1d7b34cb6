import StorageTelemetry.Json.Value

namespace StorageTelemetry.Json

/-!
# Lenient lookup

Looking into a document without caring what is absent.  Whatever is missing or
of another type counts as null, as the empty text, as zero, as false, or as an
empty list.
-/

/-- The members of an object whose keys are texts. -/
def entries : Json → List (String × Json)
  | .object members => members.filterMap fun (key, value) => key.map fun key => (key, value)
  | _ => []

def items : Json → List Json
  | .array items => items
  | _ => []

def get (document : Json) (key : String) : Json :=
  ((document.entries.find? fun entry => entry.1 = key).map (·.2)).getD .null

/-- The document itself, unless it is null. -/
def present? : Json → Option Json
  | .null => none
  | document => some document

def asText : Json → String
  | .string (some text) => text
  | _ => ""

/-- The digits of a number as a natural number. -/
def asNat : Json → Nat
  | .number token => token.digits
  | _ => 0

def textAt (document : Json) (key : String) : String := (document.get key).asText

def natAt (document : Json) (key : String) : Nat := (document.get key).asNat

/-- Whether there is a true value under a key. -/
def flagAt (document : Json) (key : String) : Bool :=
  match document.get key with
  | .bool flag => flag
  | _ => false

def itemsAt (document : Json) (key : String) : List Json := (document.get key).items

def textsAt (document : Json) (key : String) : List String := (document.itemsAt key).map asText

/-- An object in which the members of another replace those with equal keys. -/
def patched (document changes : Json) : Json :=
  let kept := document.entries.filter fun entry => !changes.entries.any (·.1 = entry.1)
  .ofMembers (kept ++ changes.entries)

end StorageTelemetry.Json
