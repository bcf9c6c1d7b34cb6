import StorageTelemetry.Double.Basic
import StorageTelemetry.Powers

namespace StorageTelemetry
namespace Double

/-!
# Doubles in decimal

Reading a decimal rounds its exact value once.  Writing chooses the fewest
digits that read back as the same double and, of those, the nearest to it.
The written form is positional for every size: it never has an exponent, and
a whole number has no decimal point.
-/

/-! ## Reading -/

/-- The double nearest to `digits · 10 ^ exponent`, rounded once and correctly.
Exponents far outside the range of doubles are decided by counting digits, so
that no huge power is ever formed.

A reader that goes without full precision, and multiplies rounded digits by a rounded
power of ten, may differ from this by a unit in the last place. -/
def ofDecimal (negative : Bool) (digits : Nat) (exponent : Int) : Double :=
  if digits = 0 then .finite negative .zero
  else
    let leading := exponent + (Nat.toDigits 10 digits).length
    if 400 < leading then .infinite negative
    else if leading < -400 then .finite negative .zero
    else if 0 ≤ exponent then
      ofRatio negative (digits * tenPow exponent.toNat * unitsInOne) 1
    else ofRatio negative (digits * unitsInOne) (tenPow (-exponent).toNat)

/-! ## Shortest digits -/

/-- The decimals that read back as a magnitude, as an interval in quarters of
a unit.  Below a power of two the neighbours lie half as far. -/
structure RoundingInterval where
  lower : Nat
  value : Nat
  upper : Nat
  closed : Bool

/-- The interval of a magnitude.  Its ends read back as well exactly when the
mantissa is even. -/
def RoundingInterval.of (m : Magnitude) : RoundingInterval :=
  let gap := twoPow m.exponent
  let below := if m.mantissa = twoPow 52 then gap else 2 * gap
  { lower := 4 * m.units - below
    value := 4 * m.units
    upper := 4 * m.units + 2 * gap
    closed := m.mantissa % 2 = 0 }

def RoundingInterval.holds (i : RoundingInterval) (point scale : Nat) : Bool :=
  if i.closed then i.lower * scale ≤ point && point ≤ i.upper * scale
  else i.lower * scale < point && point < i.upper * scale

/-- The multiple of `10 ^ exponent` nearest to the value among its two
neighbours on that grid, if one of them reads back.  A tie goes up. -/
def RoundingInterval.onGrid? (i : RoundingInterval) (exponent : Int) : Option Nat :=
  let up := 4 * unitsInOne * tenPow exponent.toNat
  let scale := tenPow (-exponent).toNat
  let floor := i.value * scale / up
  let low := i.holds (floor * up) scale
  let high := i.holds ((floor + 1) * up) scale
  if low && high then
    if 2 * (i.value * scale % up) < up then some floor else some (floor + 1)
  else if low then some floor
  else if high then some (floor + 1)
  else none

/-- An exponent of ten that is not below the leading digit of a magnitude. -/
def leadingExponent (m : Magnitude) : Int :=
  let bits : Int := (m.units.log2 : Int) - 1073
  (if 0 ≤ bits then bits * 30103 else bits * 30102).fdiv 100000 + 1

/-- The first grid, from coarse to fine, on which a decimal reads back, with
the decimal's digits.  Seventeen digits always suffice, so the search over
twenty-four grids ends with a hit. -/
def shortestDecimal (m : Magnitude) : Nat × Int :=
  let interval := RoundingInterval.of m
  let top := leadingExponent m
  let hit := (List.range 24).findSome? fun (step : Nat) =>
    let exponent := top - step
    (interval.onGrid? exponent).map fun digits => (digits, exponent)
  hit.getD (0, 0)

def positional (digits : Nat) (exponent : Int) : String :=
  let text := Nat.toDigits 10 digits
  if 0 ≤ exponent then
    String.ofList (text ++ List.replicate exponent.toNat '0')
  else
    let places := (-exponent).toNat
    if places < text.length then
      let whole := text.length - places
      String.ofList (text.take whole ++ '.' :: text.drop whole)
    else
      String.ofList ('0' :: '.' :: List.replicate (places - text.length) '0' ++ text)

def magnitudeText (m : Magnitude) : String :=
  if m.pattern = 0 then "0"
  else
    let (digits, exponent) := shortestDecimal m
    positional digits exponent

/-- The text of a double in the exposition format. -/
def toText : Double → String
  | .nan => "NaN"
  | .infinite negative => if negative then "-inf" else "inf"
  | .finite negative m => (if negative then "-" else "") ++ magnitudeText m

end Double
end StorageTelemetry
