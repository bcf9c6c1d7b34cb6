import StorageTelemetry.Json.Fields
import StorageTelemetry.Powers

namespace StorageTelemetry

/-!
# Kinds of documents that settings are read from

Settings are read in the same way from a document and from the layers of a
configuration.  The two differ only in which shapes they accept for a scalar:
a document wants the exact shape, while a layered value converts texts and
numbers into one another.
-/

/-- The readers that a kind of document offers. -/
class Readable (ν : Type) where
  text : ν → Except Mismatch String
  optionalText : ν → Except Mismatch (Option String)
  flag : ν → Except Mismatch Bool
  natBelow : Nat → String → ν → Except Mismatch Nat
  items : ν → Except Mismatch (List ν)
  record : String → List String → ν → Except Mismatch (Record ν)

namespace Readable

variable {ν α : Type} [Readable ν]

def word (document : ν) : Except Mismatch UInt64 :=
  (natBelow (twoPow 64) "u64" document).map UInt64.ofNat

def word16 (document : ν) : Except Mismatch UInt16 :=
  (natBelow (twoPow 16) "u16" document).map UInt16.ofNat

/-- A list with every item read the same way. -/
def list (reader : ν → Except Mismatch α) (document : ν) : Except Mismatch (List α) := do
  readItems reader (← items document)

end Readable

instance : Readable Json where
  text := Json.text
  optionalText := Json.optionalText
  flag := Json.flag
  natBelow := Json.natBelow
  items
    | .array items => .ok items
    | other => .error (.wrongType other.describe "a sequence")
  record := Json.record

end StorageTelemetry
