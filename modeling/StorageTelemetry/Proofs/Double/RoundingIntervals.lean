import Mathlib.Tactic.Ring
import Mathlib.Tactic.SplitIfs
import StorageTelemetry.Double.Decimal
import StorageTelemetry.Proofs.Statistics.RoundingOrder

namespace StorageTelemetry

/-!
# What rounds to a magnitude

The quotients that round to a magnitude are those of an interval around it, half a
unit of its last place wide on either side.  Below a power of two the places are
half as large, so there it is a quarter.  The ends belong to the interval if the
mantissa is even.

A decimal in the interval reads back as the magnitude.  The exponents at which a
decimal is decided without rounding lie outside of all intervals.
-/

theorem Magnitude.mantissa_pos {m : Magnitude} (nonzero : m.pattern ≠ 0) : 0 < m.mantissa := by
  unfold mantissa
  split
  · exact Nat.pos_of_ne_zero nonzero
  · exact Nat.lt_of_lt_of_le (twoPow_pos 52) (Nat.le_add_right _ _)

namespace Double

/-! ## Rounding to a whole number -/

/-- A quotient rounds to a whole number that is less than half away, and to an even
one that is half away. -/
theorem nearestEven_eq {numerator denominator whole : Nat} (positive : 0 < denominator)
    (low : 2 * (whole * denominator) ≤ 2 * numerator + denominator)
    (high : 2 * numerator ≤ 2 * (whole * denominator) + denominator)
    (strict : whole % 2 = 1 → 2 * (whole * denominator) < 2 * numerator + denominator ∧
      2 * numerator < 2 * (whole * denominator) + denominator) :
    nearestEven numerator denominator = whole := by
  have parts := Nat.div_add_mod numerator denominator
  have remainder := Nat.mod_lt numerator positive
  have near : whole = numerator / denominator ∨ whole = numerator / denominator + 1 := by
    have above : denominator * (numerator / denominator) < denominator * (whole + 1) := by
      rw [Nat.mul_succ, Nat.mul_comm denominator whole]
      omega
    have below : denominator * whole < denominator * (numerator / denominator + 2) := by
      rw [Nat.mul_add, Nat.mul_comm denominator whole]
      omega
    have upper := Nat.lt_of_mul_lt_mul_left above
    have lower := Nat.lt_of_mul_lt_mul_left below
    omega
  unfold nearestEven
  dsimp only
  rw [Nat.mul_comm] at parts
  rcases near with rfl | next
  · split_ifs <;> omega
  · have product : whole * denominator =
        numerator / denominator * denominator + denominator := by rw [next, Nat.succ_mul]
    rw [product] at low high strict
    split_ifs <;> omega

/-! ## The interval of a magnitude -/

section

variable {m : Magnitude} {point scale : Nat}

/-- Where a quotient of quarters of units lies that is in the interval of a
magnitude. -/
structure Within (m : Magnitude) (point scale : Nat) : Prop where
  low : 4 * (m.units * scale) ≤ point + 2 * (twoPow m.exponent * scale)
  high : point ≤ 4 * (m.units * scale) + 2 * (twoPow m.exponent * scale)
  strict : m.mantissa % 2 = 1 →
    4 * (m.units * scale) < point + 2 * (twoPow m.exponent * scale) ∧
      point < 4 * (m.units * scale) + 2 * (twoPow m.exponent * scale)
  leading : m.mantissa = twoPow 52 → 4 * (m.units * scale) ≤ point + twoPow m.exponent * scale

theorem within_of_holds (held : (RoundingInterval.of m).holds point scale = true) :
    Within m point scale := by
  have upper : (4 * m.units + 2 * twoPow m.exponent) * scale =
      4 * (m.units * scale) + 2 * (twoPow m.exponent * scale) := by
    rw [Nat.add_mul, Nat.mul_assoc, Nat.mul_assoc]
  have lower : ∀ below, (4 * m.units - below) * scale = 4 * (m.units * scale) - below * scale :=
    fun below => by rw [Nat.sub_mul, Nat.mul_assoc]
  unfold RoundingInterval.holds RoundingInterval.of at held
  simp only [upper, lower] at held
  by_cases first : m.mantissa = twoPow 52
  · have even : twoPow 52 % 2 = 0 := by decide
    simp only [first, even, if_true, decide_true, Bool.and_eq_true, decide_eq_true_eq] at held
    exact ⟨by omega, held.2, by rw [first, even]; nofun, fun _ => by omega⟩
  · rw [if_neg first, Nat.mul_assoc] at held
    by_cases even : m.mantissa % 2 = 0
    · simp only [even, if_true, decide_true, Bool.and_eq_true, decide_eq_true_eq] at held
      exact ⟨by omega, held.2, by omega, fun same => absurd same first⟩
    · simp only [even, decide_false, Bool.false_eq_true, if_false, Bool.and_eq_true,
        decide_eq_true_eq] at held
      exact ⟨by omega, by omega, fun _ => by omega, fun same => absurd same first⟩

/-- A magnitude is below the next power of two by a unit of its last place. -/
theorem units_mul_lt (m : Magnitude) (scale : Nat) :
    m.units * scale + twoPow m.exponent * scale ≤ twoPow (53 + m.exponent) * scale := by
  rw [← Nat.add_mul, Magnitude.units, ← Nat.succ_mul, twoPow_add]
  exact Nat.mul_le_mul_right _ (Nat.mul_le_mul_right _ m.mantissa_lt)

/-- Above the power of two that its binade begins with, a magnitude is so by a unit
of its last place. -/
theorem le_units_mul {m : Magnitude} (scaled : 0 < m.exponent) (scale : Nat)
    (later : m.mantissa ≠ twoPow 52) :
    twoPow (52 + m.exponent) * scale + twoPow m.exponent * scale ≤ m.units * scale := by
  have above : twoPow 52 + 1 ≤ m.mantissa :=
    Nat.lt_of_le_of_ne (Magnitude.le_mantissa scaled) (Ne.symm later)
  rw [← Nat.add_mul, Magnitude.units, twoPow_add, ← Nat.succ_mul]
  exact Nat.mul_le_mul_right _ (Nat.mul_le_mul_right _ above)

/-- What lies in the interval of a magnitude and in its binade rounds to it. -/
theorem nearestPattern_of_same_binade (positive : 0 < scale) (within : Within m point scale)
    (reached : 0 < m.exponent → twoPow (52 + m.exponent) * (4 * scale) ≤ point) :
    nearestPattern point (4 * scale) = m.pattern := by
  have place := Nat.mul_pos (twoPow_pos m.exponent) positive
  have below := units_mul_lt m scale
  have small : point / (4 * scale) < twoPow (53 + m.exponent) := by
    apply (Nat.div_lt_iff_lt_mul (Nat.mul_pos (by decide) positive)).mpr
    rw [Nat.mul_left_comm]
    have high := within.high
    omega
  have exponent : roundingExponent point (4 * scale) = m.exponent := by
    rcases Nat.eq_zero_or_pos m.exponent with lowest | scaled
    · exact Nat.le_antisymm (roundingExponent_le small) (lowest ▸ Nat.zero_le _)
    · apply roundingExponent_eq _ small
      exact (Nat.le_div_iff_mul_le (Nat.mul_pos (by decide) positive)).mpr (reached scaled)
  have product : m.mantissa * (4 * scale * twoPow m.exponent) = 4 * (m.units * scale) := by
    rw [Magnitude.units, Nat.mul_assoc 4, Nat.mul_left_comm, Nat.mul_comm scale, Nat.mul_assoc]
  have denominator : 4 * scale * twoPow m.exponent = 4 * (twoPow m.exponent * scale) := by
    rw [Nat.mul_assoc, Nat.mul_comm scale]
  rw [nearestPattern_eq exponent, m.pattern_eq]
  congr 1
  apply nearestEven_eq
  · omega
  · have low := within.low
    omega
  · have high := within.high
    omega
  · intro odd
    have strict := within.strict odd
    omega

/-- What lies in the interval of a power of two but below it rounds up to it. -/
theorem nearestPattern_of_binade_below (positive : 0 < scale) (within : Within m point scale)
    (first : m.mantissa = twoPow 52) {binade : Nat} (scaled : m.exponent = binade + 1)
    (below : point < 4 * (m.units * scale)) :
    nearestPattern point (4 * scale) = m.pattern := by
  have units : m.units = 2 * twoPow (52 + binade) := by
    rw [Magnitude.units, first, scaled, Nat.add_comm binade, twoPow_add 1, ← Nat.mul_assoc,
      Nat.mul_comm (twoPow 52), Nat.mul_assoc, ← twoPow_add]
    rfl
  have place : twoPow m.exponent * scale = 2 * (twoPow binade * scale) := by
    rw [scaled, Nat.add_comm, twoPow_add, ← Nat.mul_assoc]
    rfl
  have near := within.leading first
  have wide : twoPow binade * scale ≤ twoPow (52 + binade) * scale :=
    Nat.mul_le_mul_right _ (twoPow_le_twoPow (Nat.le_add_left _ _))
  have product : twoPow 53 * (4 * scale * twoPow binade) = 4 * (m.units * scale) := by
    rw [units, twoPow_add, show twoPow 53 = 2 * twoPow 52 from rfl]
    ring
  have denominator : 4 * scale * twoPow binade = 4 * (twoPow binade * scale) := by ring
  have exponent : roundingExponent point (4 * scale) = binade := by
    have quarters : 0 < 4 * scale := Nat.mul_pos (by decide) positive
    apply roundingExponent_eq
    · apply (Nat.le_div_iff_mul_le quarters).mpr
      rw [Nat.mul_left_comm]
      rw [units, Nat.mul_assoc, place] at near
      omega
    · apply (Nat.div_lt_iff_lt_mul quarters).mpr
      rw [show twoPow (53 + binade) * (4 * scale) = 4 * (m.units * scale) by
        rw [units, twoPow_add, twoPow_add, show twoPow 53 = 2 * twoPow 52 from rfl]; ring]
      exact below
  have kept : nearestEven point (4 * scale * twoPow binade) = twoPow 53 := by
    have positive' := Nat.mul_pos (twoPow_pos binade) positive
    apply nearestEven_eq
    · omega
    · omega
    · omega
    · intro odd
      cases odd.symm.trans (by decide : twoPow 53 % 2 = 0)
  rw [nearestPattern_eq exponent, kept, m.pattern_eq, first, scaled, Nat.succ_mul, Nat.add_assoc]
  rfl

/-- Whatever lies in the interval of a magnitude rounds to it. -/
theorem nearestPattern_of_within (positive : 0 < scale) (within : Within m point scale) :
    nearestPattern point (4 * scale) = m.pattern := by
  have same : twoPow (52 + m.exponent) * (4 * scale) =
      4 * (twoPow (52 + m.exponent) * scale) := Nat.mul_left_comm _ _ _
  rcases Nat.eq_zero_or_eq_succ_pred m.exponent with lowest | scaled
  · exact nearestPattern_of_same_binade positive within fun scaled => by omega
  · by_cases first : m.mantissa = twoPow 52
    · by_cases below : point < 4 * (m.units * scale)
      · exact nearestPattern_of_binade_below positive within first scaled below
      · apply nearestPattern_of_same_binade positive within
        intro _
        rw [same, twoPow_add, ← first]
        exact Nat.le_of_not_lt below
    · apply nearestPattern_of_same_binade positive within
      intro some
      have later := le_units_mul some scale first
      have low := within.low
      omega

end

/-! ## Decimals -/

theorem tenPow_add (first second : Nat) : tenPow (first + second) = tenPow first * tenPow second :=
  Nat.pow_add 10 first second

theorem tenPow_pos (exponent : Nat) : 0 < tenPow exponent := Nat.pow_pos (by decide)

theorem tenPow_le_tenPow {first second : Nat} (le : first ≤ second) :
    tenPow first ≤ tenPow second :=
  Nat.pow_le_pow_right (by decide) le

theorem exponent_le (m : Magnitude) : m.exponent ≤ 2045 := by
  have binade : m.pattern / twoPow 52 < 2047 :=
    (Nat.div_lt_iff_lt_mul (twoPow_pos 52)).mpr m.pattern_lt
  unfold Magnitude.exponent
  omega

section

variable {m : Magnitude} {digits : Nat} {exponent : Int}

/-- The value of a decimal, in quarters of units. -/
def decimalPoint (digits : Nat) (exponent : Int) : Nat :=
  digits * (4 * unitsInOne * tenPow exponent.toNat)

theorem decimalPoint_eq (digits : Nat) (exponent : Int) :
    decimalPoint digits exponent = 4 * unitsInOne * (digits * tenPow exponent.toNat) :=
  Nat.mul_left_comm _ _ _

/-- Whether the value of a decimal is in the interval of a magnitude. -/
def DecimalWithin (m : Magnitude) (digits : Nat) (exponent : Int) : Prop :=
  Within m (decimalPoint digits exponent) (tenPow (-exponent).toNat)

/-- Magnitudes other than zero are far above the smallest decimals. -/
theorem DecimalWithin.low (within : DecimalWithin m digits exponent) (nonzero : m.pattern ≠ 0) :
    tenPow (-exponent).toNat ≤ 2 * unitsInOne * (digits * tenPow exponent.toNat) := by
  have low := Within.low within
  have place : tenPow (-exponent).toNat ≤ twoPow m.exponent * tenPow (-exponent).toNat :=
    Nat.le_mul_of_pos_left _ (twoPow_pos _)
  have leading : twoPow m.exponent * tenPow (-exponent).toNat ≤
      m.units * tenPow (-exponent).toNat :=
    Nat.mul_le_mul_right _ (Nat.le_mul_of_pos_left _ (Magnitude.mantissa_pos nonzero))
  rw [decimalPoint_eq, Nat.mul_assoc] at low
  rw [Nat.mul_assoc]
  omega

/-- Magnitudes are far below the largest decimals. -/
theorem DecimalWithin.high (within : DecimalWithin m digits exponent) :
    unitsInOne * (digits * tenPow exponent.toNat) ≤
      twoPow 2098 * tenPow (-exponent).toNat := by
  have high := Within.high within
  have range := units_mul_lt m (tenPow (-exponent).toNat)
  have largest : twoPow (53 + m.exponent) * tenPow (-exponent).toNat ≤
      twoPow 2098 * tenPow (-exponent).toNat :=
    Nat.mul_le_mul_right _ (twoPow_le_twoPow (Nat.add_le_add_left (exponent_le m) 53))
  rw [decimalPoint_eq, Nat.mul_assoc] at high
  omega

theorem DecimalWithin.digits_pos (within : DecimalWithin m digits exponent)
    (nonzero : m.pattern ≠ 0) : 0 < digits := by
  apply Nat.pos_of_ne_zero
  rintro rfl
  have low := within.low nonzero
  rw [Nat.zero_mul, Nat.mul_zero] at low
  exact Nat.not_le_of_lt (tenPow_pos _) low

theorem lt_tenPow_length (digits : Nat) : digits < tenPow (Nat.toDigits 10 digits).length :=
  (Nat.length_toDigits_le_iff (by decide) Nat.length_toDigits_pos).mp (Nat.le_refl _)

theorem tenPow_length_le {length : Nat} (positive : 0 < digits)
    (long : length < (Nat.toDigits 10 digits).length) : tenPow length ≤ digits := by
  rcases Nat.eq_zero_or_pos length with rfl | some
  · exact positive
  · apply Nat.le_of_not_lt
    intro small
    exact Nat.not_le_of_lt long ((Nat.length_toDigits_le_iff (by decide) some).mpr small)

/-- No decimal in the interval of a magnitude is so large that it is decided without
rounding. -/
theorem DecimalWithin.leading_le (within : DecimalWithin m digits exponent)
    (nonzero : m.pattern ≠ 0) : exponent + (Nat.toDigits 10 digits).length ≤ 400 := by
  apply Int.not_lt.mp
  intro large
  have length : (Nat.toDigits 10 digits).length ≠ 0 := Nat.ne_of_gt Nat.length_toDigits_pos
  have long : tenPow ((Nat.toDigits 10 digits).length - 1) ≤ digits :=
    tenPow_length_le (within.digits_pos nonzero) (by omega)
  have far : tenPow 400 * tenPow (-exponent).toNat ≤ digits * tenPow exponent.toNat := by
    calc tenPow 400 * tenPow (-exponent).toNat
        = tenPow (400 + (-exponent).toNat) := (tenPow_add _ _).symm
      _ ≤ tenPow ((Nat.toDigits 10 digits).length - 1 + exponent.toNat) :=
          tenPow_le_tenPow (by omega)
      _ = tenPow ((Nat.toDigits 10 digits).length - 1) * tenPow exponent.toNat := tenPow_add _ _
      _ ≤ digits * tenPow exponent.toNat := Nat.mul_le_mul_right _ long
  have range := Nat.le_trans (Nat.mul_le_mul_left unitsInOne far) within.high
  rw [← Nat.mul_assoc] at range
  have beyond : ¬unitsInOne * tenPow 400 ≤ twoPow 2098 := by decide +kernel
  exact beyond (Nat.le_of_mul_le_mul_right range (tenPow_pos _))

/-- Nor is one so small. -/
theorem DecimalWithin.le_leading (within : DecimalWithin m digits exponent)
    (nonzero : m.pattern ≠ 0) : -400 ≤ exponent + (Nat.toDigits 10 digits).length := by
  apply Int.not_lt.mp
  intro small
  have near : tenPow 400 * (digits * tenPow exponent.toNat) ≤ tenPow (-exponent).toNat := by
    calc tenPow 400 * (digits * tenPow exponent.toNat)
        ≤ tenPow 400 * (tenPow (Nat.toDigits 10 digits).length * tenPow exponent.toNat) :=
          Nat.mul_le_mul_left _ (Nat.mul_le_mul_right _ (Nat.le_of_lt (lt_tenPow_length digits)))
      _ = tenPow (400 + ((Nat.toDigits 10 digits).length + exponent.toNat)) := by
          rw [tenPow_add 400, tenPow_add]
      _ ≤ tenPow (-exponent).toNat := tenPow_le_tenPow (by omega)
  have range := Nat.le_trans near (within.low nonzero)
  have some : 0 < digits * tenPow exponent.toNat :=
    Nat.mul_pos (within.digits_pos nonzero) (tenPow_pos _)
  have beyond : ¬tenPow 400 ≤ 2 * unitsInOne := by decide +kernel
  exact beyond (Nat.le_of_mul_le_mul_right range some)

/-- A decimal in the interval of a magnitude reads back as it. -/
theorem DecimalWithin.ofDecimal_eq (within : DecimalWithin m digits exponent)
    (nonzero : m.pattern ≠ 0) (negative : Bool) :
    ofDecimal negative digits exponent = .finite negative m := by
  have rounded := nearestPattern_of_within (tenPow_pos _) within
  have finite : ∀ {numerator denominator : Nat},
      numerator * 4 = decimalPoint digits exponent →
      denominator * 4 = 4 * tenPow (-exponent).toNat →
        ofRatio negative numerator denominator = .finite negative m := by
    intro numerator denominator quarters places
    have pattern : nearestPattern numerator denominator = m.pattern := by
      rw [← nearestPattern_mul_mul (by decide : 0 < 4), quarters, places, rounded]
    unfold ofRatio
    simp only [pattern, m.pattern_lt, dif_pos]
  unfold ofDecimal
  rw [if_neg (Nat.ne_of_gt (within.digits_pos nonzero))]
  dsimp only
  rw [if_neg (Int.not_lt.mpr (within.leading_le nonzero)),
    if_neg (Int.not_lt.mpr (within.le_leading nonzero))]
  by_cases whole : 0 ≤ exponent
  · rw [if_pos whole]
    apply finite
    · rw [decimalPoint_eq]
      ring
    · rw [Int.toNat_of_nonpos (by omega)]
      rfl
  · rw [if_neg whole]
    apply finite
    · rw [decimalPoint_eq, Int.toNat_of_nonpos (by omega : exponent ≤ 0)]
      change _ = 4 * unitsInOne * (digits * 1)
      ring
    · exact Nat.mul_comm _ _

end
end Double
end StorageTelemetry
