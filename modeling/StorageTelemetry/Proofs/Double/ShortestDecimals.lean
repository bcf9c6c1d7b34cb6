import StorageTelemetry.Proofs.Double.RoundingIntervals

namespace StorageTelemetry

/-!
# The shortest decimal of a magnitude

Grids of decimals are tried from coarse to fine.  A grid whose steps are not wider
than half a unit of the last place has a decimal in the interval of the magnitude,
and the last of the grids is as fine as that for every magnitude.  So the search
finds a decimal, and every decimal it finds lies in the interval.
-/

namespace Double

section

variable {m : Magnitude} {digits : Nat} {exponent : Int}

/-! ## One grid -/

/-- What is found on a grid lies in the interval. -/
theorem within_of_onGrid? (found : (RoundingInterval.of m).onGrid? exponent = some digits) :
    DecimalWithin m digits exponent := by
  apply within_of_holds
  unfold RoundingInterval.onGrid? at found
  dsimp only at found
  split_ifs at found <;> cases found <;> simp_all [decimalPoint]

/-- A point that is not below a magnitude and less than half a unit of the last
place above it lies in its interval. -/
theorem holds_of_near {point scale : Nat} (nonzero : m.pattern ≠ 0) (positive : 0 < scale)
    (low : 4 * m.units * scale ≤ point)
    (high : point < 4 * m.units * scale + 2 * twoPow m.exponent * scale) :
    (RoundingInterval.of m).holds point scale = true := by
  have some : 0 < 4 * m.units :=
    Nat.mul_pos (by decide) (Nat.mul_pos (Magnitude.mantissa_pos nonzero) (twoPow_pos _))
  have below : (RoundingInterval.of m).lower * scale < point := by
    apply Nat.lt_of_lt_of_le _ low
    apply Nat.mul_lt_mul_of_pos_right _ positive
    have place := twoPow_pos m.exponent
    unfold RoundingInterval.of
    dsimp only
    split_ifs <;> omega
  have above : point < (RoundingInterval.of m).upper * scale := by
    rw [RoundingInterval.of, Nat.add_mul]
    exact high
  unfold RoundingInterval.holds
  split_ifs <;> simp [below, above, Nat.le_of_lt]

/-- Of the two multiples around a value, one is not below it and no more than a step
above it. -/
theorem multiple_near (value : Nat) {step width : Nat} (positive : 0 < step) (fine : step ≤ width) :
    (value ≤ value / step * step ∧ value / step * step < value + width) ∨
      (value ≤ (value / step + 1) * step ∧ (value / step + 1) * step < value + width) := by
  have parts := Nat.div_add_mod value step
  have remainder := Nat.mod_lt value positive
  rw [Nat.mul_comm] at parts
  rw [Nat.succ_mul (value / step)]
  by_cases whole : value % step = 0
  · exact .inl (by omega)
  · exact .inr (by omega)

/-- A fine grid has a decimal in the interval. -/
theorem exists_onGrid? (nonzero : m.pattern ≠ 0)
    (fine : 4 * unitsInOne * tenPow exponent.toNat ≤
      2 * twoPow m.exponent * tenPow (-exponent).toNat) :
    ∃ digits, (RoundingInterval.of m).onGrid? exponent = some digits := by
  have step : 0 < 4 * unitsInOne * tenPow exponent.toNat :=
    Nat.mul_pos (Nat.mul_pos (by decide) unitsInOne_pos) (tenPow_pos _)
  have value : (RoundingInterval.of m).value = 4 * m.units := rfl
  unfold RoundingInterval.onGrid?
  dsimp only
  rw [value]
  rcases multiple_near (4 * m.units * tenPow (-exponent).toNat) step fine with
    ⟨low, high⟩ | ⟨low, high⟩
  · rw [holds_of_near nonzero (tenPow_pos _) low high]
    split_ifs <;> simp_all
  · rw [holds_of_near nonzero (tenPow_pos _) low high]
    split_ifs <;> simp_all

/-! ## Powers of ten and of two -/

/-- Three decimal places have less than ten binary ones. -/
theorem tenPow_le_twoPow {places bits : Nat} (few : 10 * places ≤ 3 * bits) :
    tenPow places ≤ twoPow bits := by
  apply (Nat.pow_le_pow_iff_left (by decide : 3 ≠ 0)).mp
  calc tenPow places ^ 3
      = (10 ^ 3) ^ places := by rw [tenPow, Nat.pow_eq, ← Nat.pow_mul, ← Nat.pow_mul, Nat.mul_comm]
    _ ≤ (2 ^ 10) ^ places := Nat.pow_le_pow_left (by decide) _
    _ = 2 ^ (10 * places) := (Nat.pow_mul ..).symm
    _ ≤ 2 ^ (3 * bits) := Nat.pow_le_pow_right (by decide) few
    _ = twoPow bits ^ 3 := by rw [twoPow, Nat.pow_eq, ← Nat.pow_mul, Nat.mul_comm]

/-- Twenty-eight decimal places have at least ninety-three binary ones. -/
theorem twoPow_le_tenPow {places bits : Nat} (few : 28 * bits ≤ 93 * places) :
    twoPow bits ≤ tenPow places := by
  apply (Nat.pow_le_pow_iff_left (by decide : 28 ≠ 0)).mp
  calc twoPow bits ^ 28
      = 2 ^ (28 * bits) := by rw [twoPow, Nat.pow_eq, ← Nat.pow_mul, Nat.mul_comm]
    _ ≤ 2 ^ (93 * places) := Nat.pow_le_pow_right (by decide) few
    _ = (2 ^ 93) ^ places := Nat.pow_mul ..
    _ ≤ (10 ^ 28) ^ places := Nat.pow_le_pow_left (by decide) _
    _ = tenPow places ^ 28 := by rw [tenPow, Nat.pow_eq, ← Nat.pow_mul, ← Nat.pow_mul, Nat.mul_comm]

/-! ## All grids -/

/-- The last grid that is tried. -/
def lastExponent (m : Magnitude) : Int := leadingExponent m - 23

/-- How far the last grid is below the magnitude, whose bits stand between the last
place and the leading one. -/
theorem lastExponent_bounds (nonzero : m.pattern ≠ 0) :
    (0 ≤ lastExponent m → 10 * lastExponent m ≤ 3 * ((m.exponent : Int) - 1075)) ∧
      (lastExponent m ≤ 0 → 28 * (1075 - (m.exponent : Int)) ≤ 93 * -lastExponent m) := by
  have units : m.units ≠ 0 :=
    Nat.ne_of_gt (Nat.mul_pos (Magnitude.mantissa_pos nonzero) (twoPow_pos _))
  have leading : m.units.log2 < 53 + m.exponent := by
    apply (Nat.log2_lt units).mpr
    rw [← Nat.pow_eq]
    change m.units < twoPow (53 + m.exponent)
    rw [twoPow_add]
    exact Nat.mul_lt_mul_of_pos_right m.mantissa_lt (twoPow_pos _)
  have range := exponent_le m
  unfold lastExponent leadingExponent
  dsimp only
  rw [Int.fdiv_eq_ediv_of_nonneg _ (by decide)]
  split_ifs <;> omega

/-- The last grid is fine enough. -/
theorem fine_lastExponent (nonzero : m.pattern ≠ 0) :
    4 * unitsInOne * tenPow (lastExponent m).toNat ≤
      2 * twoPow m.exponent * tenPow (-lastExponent m).toNat := by
  have bounds := lastExponent_bounds nonzero
  have one : tenPow 0 = 1 := rfl
  have two : twoPow 1 = 2 := rfl
  have quarters : 4 * unitsInOne = 2 * twoPow 1075 := by
    rw [unitsInOne, show 1075 = 1 + 1074 from rfl, twoPow_add, two, ← Nat.mul_assoc]
  rw [quarters, Nat.mul_assoc, Nat.mul_assoc]
  apply Nat.mul_le_mul_left
  rcases Int.le_total 0 (lastExponent m) with whole | fractional
  · have few := bounds.1 whole
    rw [Int.toNat_of_nonpos (by omega : -lastExponent m ≤ 0), one, Nat.mul_one]
    calc twoPow 1075 * tenPow (lastExponent m).toNat
        ≤ twoPow 1075 * twoPow (m.exponent - 1075) :=
          Nat.mul_le_mul_left _ (tenPow_le_twoPow (by omega))
      _ = twoPow m.exponent := by rw [← twoPow_add, Nat.add_sub_cancel' (by omega)]
  · have few := bounds.2 fractional
    rw [Int.toNat_of_nonpos fractional, one, Nat.mul_one]
    calc twoPow 1075
        ≤ twoPow (m.exponent + (1075 - m.exponent)) := twoPow_le_twoPow (by omega)
      _ = twoPow m.exponent * twoPow (1075 - m.exponent) := twoPow_add _ _
      _ ≤ twoPow m.exponent * tenPow (-lastExponent m).toNat :=
          Nat.mul_le_mul_left _ (twoPow_le_tenPow (by omega))

/-- The search for the shortest decimal finds one, and it lies in the interval. -/
theorem within_shortestDecimal (nonzero : m.pattern ≠ 0) :
    DecimalWithin m (shortestDecimal m).1 (shortestDecimal m).2 := by
  rcases exists_onGrid? nonzero (fine_lastExponent nonzero) with ⟨digits, last⟩
  unfold shortestDecimal
  dsimp only
  cases hit : (List.range 24).findSome? fun (step : Nat) =>
      ((RoundingInterval.of m).onGrid? (leadingExponent m - step)).map fun digits =>
        (digits, leadingExponent m - step) with
  | none =>
      have missed := List.findSome?_eq_none_iff.mp hit 23 (List.mem_range.mpr (by decide))
      rw [Option.map_eq_none_iff] at missed
      cases missed.symm.trans last
  | some decimal =>
      rcases List.exists_of_findSome?_eq_some hit with ⟨step, -, found⟩
      rcases Option.map_eq_some_iff.mp found with ⟨digits, onGrid, rfl⟩
      exact within_of_onGrid? onGrid

end
end Double
end StorageTelemetry
