namespace StorageTelemetry

/-!
# Powers

The powers that bound numbers of a fixed width and that scale decimals.
-/

def twoPow (exponent : Nat) : Nat := Nat.pow 2 exponent

def tenPow (exponent : Nat) : Nat := Nat.pow 10 exponent

/-- Whether an integer has 64 bits, one of them for the sign. -/
def isSigned64 (value : Int) : Bool := -(twoPow 63 : Int) ≤ value && value < twoPow 63

end StorageTelemetry
