import StorageTelemetry.Powers
import StorageTelemetry.Text.Blank
import StorageTelemetry.Text.Digits

namespace StorageTelemetry

/-!
# Generations of the statistics interface

A gateway tells its version as a text.  Its leading number decides whether
statistics are read one entity at a time or in one batch.  A version that is
not understood counts as old.
-/

/-- How the statistics of an entity are read. -/
inductive Generation
  | legacy
  | bulk
deriving DecidableEq

namespace Generation

def label : Generation → String
  | legacy => "legacy"
  | bulk => "bulk"

/-- The first major version whose gateways answer in bulk. -/
def firstBulkMajor : Nat := 5

/-- A decimal number of 32 bits: an optional plus sign and at least one digit. -/
def decimal32? (text : List Char) : Option Nat :=
  (Text.unsigned? text).filter (· < twoPow 32)

/-- The part of a version before its first dot, without the blanks and then
the quotes around the whole. -/
def majorText (version : List Char) : List Char :=
  (Text.trimEnds (· = '"') (Text.trimEnds Text.isBlank version)).takeWhile (· ≠ '.')

/-- The generation of a gateway of the given version. -/
def ofVersion (version : String) : Generation :=
  match decimal32? (majorText version.toList) with
  | some major => if firstBulkMajor ≤ major then bulk else legacy
  | none => legacy

end Generation
end StorageTelemetry
