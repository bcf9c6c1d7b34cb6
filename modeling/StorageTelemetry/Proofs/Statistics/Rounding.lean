import StorageTelemetry.Double.Basic

namespace StorageTelemetry

/-!
# How large a rounded quotient is

Rounding moves a quotient of units at most to the next power of two, upwards as
well as downwards.  So a quotient that is known to lie between two powers of two
gives a pattern between two whole binades, and a pattern between two binades
gives a magnitude between two powers of two.

A quotient becomes an infinity only if it lies far beyond what a word of 64 bits
can hold, so a word is a finite double, a word other than zero is at least one,
and dividing by a double that is at least one stays finite.
-/

/-! ## Powers of two -/

theorem twoPow_add (first second : Nat) : twoPow (first + second) = twoPow first * twoPow second :=
  Nat.pow_add 2 first second

theorem twoPow_pos (exponent : Nat) : 0 < twoPow exponent := Nat.two_pow_pos exponent

theorem twoPow_le_twoPow {first second : Nat} (le : first ≤ second) :
    twoPow first ≤ twoPow second :=
  Nat.pow_le_pow_right (by decide) le

/-! ## Magnitudes between binades -/

namespace Magnitude

theorem mantissa_lt (m : Magnitude) : m.mantissa < twoPow 53 := by
  have binade := Nat.mod_lt m.pattern (twoPow_pos 52)
  have double : twoPow 53 = twoPow 52 + twoPow 52 := rfl
  unfold mantissa
  by_cases lowest : m.pattern / twoPow 52 = 0
  · have small := (Nat.div_eq_zero_iff_lt (twoPow_pos 52)).mp lowest
    rw [if_pos lowest]
    omega
  · rw [if_neg lowest]
    omega

/-- Up to a binade all magnitudes lie below a power of two. -/
theorem units_lt {m : Magnitude} {binade : Nat} (below : m.pattern / twoPow 52 ≤ binade) :
    m.units < twoPow (53 + binade) := by
  have exponent : m.exponent ≤ binade := Nat.le_trans (Nat.sub_le _ 1) below
  calc m.units
      < twoPow 53 * twoPow m.exponent :=
        Nat.mul_lt_mul_of_pos_right m.mantissa_lt (twoPow_pos _)
    _ ≤ twoPow 53 * twoPow binade := Nat.mul_le_mul_left _ (twoPow_le_twoPow exponent)
    _ = twoPow (53 + binade) := (twoPow_add 53 binade).symm

/-- From a binade on all magnitudes reach a power of two. -/
theorem le_units {m : Magnitude} {binade : Nat} (above : binade < m.pattern / twoPow 52) :
    twoPow (52 + binade) ≤ m.units := by
  have exponent : binade ≤ m.exponent := Nat.le_sub_one_of_lt above
  have leading : twoPow 52 ≤ m.mantissa := by
    unfold mantissa
    rw [if_neg (Nat.ne_of_gt (Nat.zero_lt_of_lt above))]
    exact Nat.le_add_right _ _
  calc twoPow (52 + binade)
      = twoPow 52 * twoPow binade := twoPow_add 52 binade
    _ ≤ m.mantissa * twoPow m.exponent := Nat.mul_le_mul leading (twoPow_le_twoPow exponent)

end Magnitude

namespace Double

/-! ## Rounding between binades -/

section

variable (numerator denominator : Nat)

theorem le_nearestEven : numerator / denominator ≤ nearestEven numerator denominator := by
  unfold nearestEven
  grind

theorem nearestEven_le : nearestEven numerator denominator ≤ numerator / denominator + 1 := by
  unfold nearestEven
  grind

end

variable {numerator denominator binade : Nat}

/-- A quotient below a power of two does not use more than its bits. -/
theorem roundingExponent_le (small : numerator / denominator < twoPow (53 + binade)) :
    roundingExponent numerator denominator ≤ binade := by
  unfold roundingExponent
  by_cases few : numerator / denominator < twoPow 53
  · rw [if_pos few]
    exact Nat.zero_le binade
  · rw [if_neg few]
    have positive : numerator / denominator ≠ 0 := by
      have := twoPow_pos 53
      omega
    have bits := (Nat.log2_lt positive).mpr small
    omega

/-- The exponent leaves at most 53 bits of a quotient. -/
theorem div_roundingExponent_lt :
    numerator / denominator / twoPow (roundingExponent numerator denominator) < twoPow 53 := by
  apply (Nat.div_lt_iff_lt_mul (twoPow_pos _)).mpr
  unfold roundingExponent
  by_cases few : numerator / denominator < twoPow 53
  · rw [if_pos few]
    simpa [twoPow] using few
  · rw [if_neg few, ← twoPow_add]
    apply Nat.lt_of_lt_of_le (Nat.lt_log2_self (n := numerator / denominator))
    exact twoPow_le_twoPow (by omega)

theorem nearestPattern_le (small : numerator / denominator < twoPow (53 + binade)) :
    nearestPattern numerator denominator ≤ (binade + 2) * twoPow 52 := by
  have exponent := roundingExponent_le small
  have rounded := nearestEven_le numerator
    (denominator * twoPow (roundingExponent numerator denominator))
  have kept : numerator / denominator / twoPow (roundingExponent numerator denominator) <
      twoPow 53 := div_roundingExponent_lt
  have double : twoPow 53 = 2 * twoPow 52 := rfl
  rw [Nat.div_div_eq_div_mul] at kept
  calc nearestPattern numerator denominator
      ≤ binade * twoPow 52 + twoPow 53 :=
        Nat.add_le_add (Nat.mul_le_mul_right _ exponent) (Nat.le_trans rounded kept)
    _ = (binade + 2) * twoPow 52 := by rw [double, Nat.add_mul]

/-- A quotient of at least a power of two keeps its leading bit, so its pattern
is that of the power or above. -/
theorem le_nearestPattern (large : twoPow (52 + binade) ≤ numerator / denominator) :
    (binade + 1) * twoPow 52 ≤ nearestPattern numerator denominator := by
  have rounded := le_nearestEven numerator
    (denominator * twoPow (roundingExponent numerator denominator))
  rw [← Nat.div_div_eq_div_mul] at rounded
  have positive : numerator / denominator ≠ 0 := by
    have := twoPow_pos (52 + binade)
    omega
  have bits := (Nat.le_log2 positive).mpr large
  have pattern : (roundingExponent numerator denominator) * twoPow 52 +
      numerator / denominator / twoPow (roundingExponent numerator denominator) ≤
        nearestPattern numerator denominator :=
    Nat.add_le_add_left rounded _
  apply Nat.le_trans _ pattern
  unfold roundingExponent
  by_cases few : numerator / denominator < twoPow 53
  · have lowest : binade = 0 := by
      have := (Nat.log2_lt positive).mpr few
      omega
    subst lowest
    have unscaled : twoPow 0 = 1 := rfl
    rw [if_pos few, unscaled, Nat.div_one, Nat.zero_mul, Nat.zero_add, Nat.zero_add, Nat.one_mul]
    exact large
  · rw [if_neg few]
    have exponent : binade ≤ (numerator / denominator).log2 - 52 := by omega
    have leading : twoPow 52 ≤
        numerator / denominator / twoPow ((numerator / denominator).log2 - 52) := by
      apply (Nat.le_div_iff_mul_le (twoPow_pos _)).mpr
      rw [← twoPow_add, Nat.add_sub_cancel' (by omega)]
      exact Nat.log2_self_le positive
    calc (binade + 1) * twoPow 52
        = binade * twoPow 52 + twoPow 52 := Nat.succ_mul _ _
      _ ≤ _ := Nat.add_le_add (Nat.mul_le_mul_right _ exponent) leading

/-! ## Doubles between powers of two -/

/-- A finite double with a clear sign bit. -/
def IsFigure (x : Double) : Prop := x.isFinite = true ∧ x.toBits < twoPow 63

instance (x : Double) : Decidable x.IsFigure := inferInstanceAs (Decidable (_ ∧ _))

/-- A finite double with a clear sign bit that is less than a power of two of
units. -/
def Below (x : Double) (bits : Nat) : Prop :=
  ∃ m, x = .finite false m ∧ m.units < twoPow bits

/-- A finite double that is at least one. -/
def AtLeastOne (x : Double) : Prop := ∃ m, x = .finite false m ∧ unitsInOne ≤ m.units

theorem isFigure_finite (m : Magnitude) : (Double.finite false m).IsFigure := by
  have finite : infinityPattern < twoPow 63 := by decide
  have bits : (Double.finite false m).toBits = m.pattern := Nat.zero_add _
  exact ⟨rfl, bits ▸ Nat.lt_trans m.pattern_lt finite⟩

theorem Below.isFigure {x : Double} {bits : Nat} : x.Below bits → x.IsFigure
  | ⟨m, same, _⟩ => same ▸ isFigure_finite m

theorem pattern_of_ofRatio {negative sign : Bool} {m : Magnitude}
    (finite : ofRatio negative numerator denominator = .finite sign m) :
    m.pattern = nearestPattern numerator denominator := by
  unfold ofRatio at finite
  by_cases range : nearestPattern numerator denominator < infinityPattern
  · rw [dif_pos range] at finite
    cases finite
    rfl
  · rw [dif_neg range] at finite
    cases finite

/-- A quotient below a power of two rounds to a double that is not much above
it, as long as the power is in range. -/
theorem below_ofRatio (binade : Nat) (small : numerator / denominator < twoPow (53 + binade))
    (range : binade < 2045) : (ofRatio false numerator denominator).Below (55 + binade) := by
  have pattern := nearestPattern_le small
  have finite : nearestPattern numerator denominator < infinityPattern := by
    have := twoPow_pos 52
    unfold infinityPattern
    apply Nat.lt_of_le_of_lt pattern
    exact Nat.mul_lt_mul_of_pos_right (by omega) this
  refine ⟨⟨_, finite⟩, dif_pos finite, ?_⟩
  have binades : nearestPattern numerator denominator / twoPow 52 ≤ binade + 2 :=
    Nat.div_le_of_le_mul (by rw [Nat.mul_comm]; exact pattern)
  have units := Magnitude.units_lt (m := ⟨_, finite⟩) binades
  rwa [show 53 + (binade + 2) = 55 + binade by omega] at units

/-! ## Words -/

/-- The double nearest to a word is finite. -/
theorem below_ofNat {n : Nat} (word : n < twoPow 64) : (ofNat n).Below 1140 := by
  apply below_ofRatio 1085
  · rw [Nat.div_one, unitsInOne, show 53 + 1085 = 64 + 1074 from rfl, twoPow_add]
    exact Nat.mul_lt_mul_of_pos_right word (twoPow_pos _)
  · decide

/-- The double nearest to a word that is not zero is at least one. -/
theorem atLeastOne_ofNat {n : Nat} (word : n < twoPow 64) (positive : n ≠ 0) :
    (ofNat n).AtLeastOne := by
  obtain ⟨m, finite, _⟩ := below_ofNat word
  refine ⟨m, finite, ?_⟩
  have large : twoPow (52 + 1022) ≤ n * unitsInOne / 1 := by
    rw [Nat.div_one, unitsInOne, show 52 + 1022 = 1074 from rfl]
    exact Nat.le_mul_of_pos_left _ (Nat.pos_of_ne_zero positive)
  have pattern := le_nearestPattern large
  have same : m.pattern = nearestPattern (n * unitsInOne) 1 := pattern_of_ofRatio finite
  rw [unitsInOne, show 1074 = 52 + 1022 from rfl]
  apply Magnitude.le_units
  apply (Nat.le_div_iff_mul_le (twoPow_pos _)).mpr
  rw [same]
  exact pattern

/-! ## Quotients -/

/-- Division by a double that is at least one does not leave the range, unless
the dividend is next to its end. -/
theorem Below.div {x y : Double} (bits : Nat) (below : x.Below (53 + bits)) (one : y.AtLeastOne)
    (range : bits < 2045) : (x / y).Below (55 + bits) := by
  obtain ⟨m, rfl, small⟩ := below
  obtain ⟨n, rfl, large⟩ := one
  have positive : n.units ≠ 0 := by
    have := twoPow_pos 1074
    unfold unitsInOne at large
    omega
  have quotient : (Double.finite false m / Double.finite false n : Double) =
      ofRatio false (m.units * unitsInOne) n.units := if_neg positive
  rw [quotient]
  refine below_ofRatio bits (Nat.lt_of_le_of_lt ?_ small) range
  apply Nat.div_le_of_le_mul
  rw [Nat.mul_comm]
  exact Nat.mul_le_mul_right _ large

/-- What was clamped is finite and has a clear sign bit, whatever it was. -/
theorem isFigure_nonNegative (x : Double) : x.nonNegative.IsFigure := by
  cases x with
  | nan => exact isFigure_finite .zero
  | infinite negative => exact isFigure_finite .zero
  | finite negative m =>
    cases negative with
    | true => exact isFigure_finite .zero
    | false =>
      unfold nonNegative
      split
      · exact isFigure_finite m
      · exact isFigure_finite .zero

end Double
end StorageTelemetry
