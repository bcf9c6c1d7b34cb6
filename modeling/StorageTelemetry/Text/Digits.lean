namespace StorageTelemetry
namespace Text

/-!
# Decimal digits

What digits denote, and texts that are nothing but digits.
-/

def digitsValue (digits : List Char) : Nat :=
  digits.foldl (fun value c => 10 * value + (c.toNat - 48)) 0

/-- The number that a text denotes if it is at least one digit and nothing
else. -/
def digits? (text : List Char) : Option Nat :=
  if text.isEmpty || !text.all Char.isDigit then none else some (digitsValue text)

/-- The number that digits denote; one plus sign may precede them. -/
def unsigned? : List Char → Option Nat
  | '+' :: digits => digits? digits
  | digits => digits? digits

end Text
end StorageTelemetry
