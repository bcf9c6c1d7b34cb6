import StorageTelemetry.Powers

namespace StorageTelemetry

/-!
# Double-precision numbers

A double is described by its sign and by the 63 bits below the sign.  Those
bits, read as a natural number, count the representable magnitudes from zero
upwards, so the order of magnitudes is the order of their patterns and the
successor of a magnitude has the successor pattern.  Infinity sits one above
the largest finite pattern.

Every finite magnitude is a whole number of units of `2 ^ (-1074)`.  The
arithmetic below computes the exact result as a quotient of two whole numbers
of units and rounds once, to the nearest magnitude and to the even one on a
tie.  Nothing here uses machine arithmetic, so statements about all doubles
can be proved from these definitions.
-/

/-- The pattern of infinity, one above every finite pattern. -/
def infinityPattern : Nat := 2047 * twoPow 52

/-- The size of a finite double, as the bits below its sign. -/
structure Magnitude where
  pattern : Nat
  pattern_lt : pattern < infinityPattern
deriving DecidableEq

namespace Magnitude

def zero : Magnitude := ⟨0, by decide⟩

/-- How many times the unit is doubled.  The lowest two binades share the
exponent zero, which makes the smallest numbers evenly spaced. -/
def exponent (m : Magnitude) : Nat := m.pattern / twoPow 52 - 1

/-- The whole multiple of the scaled unit.  It has its leading bit except in
the lowest binade. -/
def mantissa (m : Magnitude) : Nat :=
  if m.pattern / twoPow 52 = 0 then m.pattern else twoPow 52 + m.pattern % twoPow 52

/-- The exact value in units of `2 ^ (-1074)`. -/
def units (m : Magnitude) : Nat := m.mantissa * twoPow m.exponent

end Magnitude

/-- A double: a finite number of either sign, an infinity, or no number.  The
payload and sign bit of a NaN are not kept, as nothing observes them. -/
inductive Double
  | nan
  | infinite (negative : Bool)
  | finite (negative : Bool) (magnitude : Magnitude)
deriving DecidableEq

namespace Double

/-! ## Rounding -/

/-- The whole number nearest to a quotient, the even one on a tie. -/
def nearestEven (numerator denominator : Nat) : Nat :=
  let quotient := numerator / denominator
  let twice := 2 * (numerator % denominator)
  if twice < denominator then quotient
  else if denominator < twice then quotient + 1
  else if quotient % 2 = 0 then quotient else quotient + 1

/-- The exponent at which a quotient of units has at most 53 bits. -/
def roundingExponent (numerator denominator : Nat) : Nat :=
  let quotient := numerator / denominator
  if quotient < twoPow 53 then 0 else quotient.log2 - 52

/-- The pattern nearest to a quotient of units.  A mantissa that rounds up to
the next power of two carries into the exponent, because patterns of one
binade continue in those of the next. -/
def nearestPattern (numerator denominator : Nat) : Nat :=
  let exponent := roundingExponent numerator denominator
  exponent * twoPow 52 + nearestEven numerator (denominator * twoPow exponent)

/-- The double nearest to a quotient of units; beyond the largest finite
magnitude it is an infinity. -/
def ofRatio (negative : Bool) (numerator denominator : Nat) : Double :=
  let pattern := nearestPattern numerator denominator
  if h : pattern < infinityPattern then .finite negative ⟨pattern, h⟩
  else .infinite negative

def unitsInOne : Nat := twoPow 1074

def ofNat (n : Nat) : Double := ofRatio false (n * unitsInOne) 1

def zero : Double := .finite false .zero

def one : Double := ofNat 1

/-! ## Arithmetic -/

/-- The quotient of two doubles.  A zero divisor gives an infinity, except
that zero by zero, like infinity by infinity, is no number. -/
def div : Double → Double → Double
  | .nan, _ | _, .nan => .nan
  | .infinite _, .infinite _ => .nan
  | .infinite s, .finite t _ => .infinite (s != t)
  | .finite s _, .infinite t => .finite (s != t) .zero
  | .finite s x, .finite t y =>
      if y.units = 0 then
        if x.units = 0 then .nan else .infinite (s != t)
      else ofRatio (s != t) (x.units * unitsInOne) y.units

instance : Div Double := ⟨div⟩

def signedUnits (negative : Bool) (m : Magnitude) : Int :=
  if negative then -(m.units : Int) else m.units

/-- The sum of two doubles.  An exact sum of zero is positive unless both
operands are negative. -/
def add : Double → Double → Double
  | .nan, _ | _, .nan => .nan
  | .infinite s, .infinite t => if s = t then .infinite s else .nan
  | .infinite s, .finite _ _ => .infinite s
  | .finite _ _, .infinite t => .infinite t
  | .finite s x, .finite t y =>
      let sum := signedUnits s x + signedUnits t y
      if sum = 0 then .finite (s && t) .zero
      else ofRatio (decide (sum < 0)) sum.natAbs 1

instance : Add Double := ⟨add⟩

/-- The comparison with zero: true of positive numbers and of positive
infinity, false of both zeros and of NaN. -/
def isPositive : Double → Bool
  | .nan => false
  | .infinite negative => !negative
  | .finite negative m => !negative && m.pattern != 0

/-- Neither an infinity nor NaN. -/
def isFinite : Double → Bool
  | .finite _ _ => true
  | _ => false

/-- A figure that may be published: the value itself if it is finite and above
zero, and positive zero otherwise. -/
def nonNegative (x : Double) : Double :=
  if x.isFinite && x.isPositive then x else zero

/-! ## Words -/

/-- The 64 bits of a double; every NaN has the same ones. -/
def toBits : Double → Nat
  | .nan => twoPow 63 - twoPow 51
  | .infinite negative => (if negative then twoPow 63 else 0) + infinityPattern
  | .finite negative m => (if negative then twoPow 63 else 0) + m.pattern

def ofBits (word : Nat) : Double :=
  let negative := decide (twoPow 63 ≤ word)
  let pattern := word % twoPow 63
  if h : pattern < infinityPattern then .finite negative ⟨pattern, h⟩
  else if pattern = infinityPattern then .infinite negative
  else .nan

end Double
end StorageTelemetry
