namespace StorageTelemetry

/-!
# Why a document does not fit

A document that is well-formed may still not be what a reader expects.  The
first thing found wrong is kept as a cause, and its wording is in one place.
-/

/-- The first fault found while reading a document as a typed value. -/
inductive Mismatch
  | missingField (name : String)
  | duplicateField (name : String)
  | wrongType (found expected : String)
  | wrongValue (found expected : String)
  | wrongLength (found : Nat) (expected : String)
  | outOfRange
  | notText
  | malformed
deriving DecidableEq

namespace Mismatch

def message : Mismatch → String
  | missingField name => "missing field `" ++ name ++ "`"
  | duplicateField name => "duplicate field `" ++ name ++ "`"
  | wrongType found expected => "invalid type: " ++ found ++ ", expected " ++ expected
  | wrongValue found expected => "invalid value: " ++ found ++ ", expected " ++ expected
  | wrongLength found expected =>
      "invalid length " ++ toString found ++ ", expected " ++ expected
  | outOfRange => "number out of range"
  | notText => "lone leading surrogate in hex escape"
  | malformed => "malformed document"

end Mismatch
end StorageTelemetry
