import StorageTelemetry.Proofs.Statistics.Rounding

namespace StorageTelemetry

/-!
# Rounding keeps order and what is representable

A larger pattern is a larger magnitude, and a larger quotient rounds to a pattern
that is no smaller.  A quotient that has its 53 bits already is not changed by
rounding, so a magnitude is what its own value rounds to.

Dividing by a power of two lowers the pattern by whole binades as long as the
result does not reach the lowest one.  Such a division is exact, and the double
that it gives is the same as if the quotient had been rounded only once.
-/

theorem twoPow_lt_twoPow {first second : Nat} (lt : first < second) :
    twoPow first < twoPow second :=
  Nat.pow_lt_pow_right (by decide) lt

theorem twoPow_dvd_twoPow {first second : Nat} (le : first ≤ second) :
    twoPow first ∣ twoPow second :=
  Nat.pow_dvd_pow 2 le

theorem Double.unitsInOne_pos : 0 < Double.unitsInOne := twoPow_pos 1074

/-! ## Patterns and magnitudes -/

namespace Magnitude

variable {m n : Magnitude}

/-- The binade of a pattern bounds its magnitude. -/
theorem units_lt_twoPow (m : Magnitude) : m.units < twoPow (52 + m.pattern / twoPow 52) := by
  unfold units exponent
  by_cases lowest : m.pattern / twoPow 52 = 0
  · have small := (Nat.div_eq_zero_iff_lt (twoPow_pos 52)).mp lowest
    rw [mantissa, if_pos lowest, lowest]
    simpa [twoPow] using small
  · rcases Nat.exists_eq_succ_of_ne_zero lowest with ⟨binade, above⟩
    rw [above, show 52 + binade.succ = 53 + (binade.succ - 1) by omega, twoPow_add]
    exact Nat.mul_lt_mul_of_pos_right m.mantissa_lt (twoPow_pos _)

theorem units_lt_units (smaller : m.pattern < n.pattern) : m.units < n.units := by
  have binades := Nat.div_le_div_right (c := twoPow 52) (Nat.le_of_lt smaller)
  rcases Nat.lt_or_eq_of_le binades with lower | same
  · exact Nat.lt_of_lt_of_le m.units_lt_twoPow (le_units lower)
  · have remainder : m.pattern % twoPow 52 < n.pattern % twoPow 52 := by
      have first := Nat.div_add_mod m.pattern (twoPow 52)
      have second := Nat.div_add_mod n.pattern (twoPow 52)
      rw [same] at first
      omega
    unfold units exponent mantissa
    rw [same]
    apply Nat.mul_lt_mul_of_pos_right _ (twoPow_pos _)
    split
    · exact smaller
    · exact Nat.add_lt_add_left remainder _

theorem units_le_units_iff : m.units ≤ n.units ↔ m.pattern ≤ n.pattern := by
  constructor
  · intro le
    exact Nat.le_of_not_lt fun smaller => Nat.not_lt_of_le le (units_lt_units smaller)
  · intro le
    rcases Nat.lt_or_eq_of_le le with smaller | same
    · exact Nat.le_of_lt (units_lt_units smaller)
    · cases m
      cases n
      cases same
      exact Nat.le_refl _

end Magnitude

namespace Double

/-! ## Rounding keeps order -/

section

variable {first second denominator : Nat}

theorem nearestEven_mono (le : first ≤ second) :
    nearestEven first denominator ≤ nearestEven second denominator := by
  have quotients := Nat.div_le_div_right (c := denominator) le
  rcases Nat.lt_or_eq_of_le quotients with lower | same
  · calc nearestEven first denominator
        ≤ first / denominator + 1 := nearestEven_le first denominator
      _ ≤ second / denominator := lower
      _ ≤ nearestEven second denominator := le_nearestEven second denominator
  · have remainders : first % denominator ≤ second % denominator := by
      have parts := Nat.div_add_mod first denominator
      have parts' := Nat.div_add_mod second denominator
      rw [same] at parts
      omega
    unfold nearestEven
    rw [same]
    grind

theorem roundingExponent_mono (le : first ≤ second) :
    roundingExponent first denominator ≤ roundingExponent second denominator := by
  have quotients := Nat.div_le_div_right (c := denominator) le
  apply roundingExponent_le
  rw [twoPow_add]
  apply Nat.lt_of_le_of_lt quotients
  exact (Nat.div_lt_iff_lt_mul (twoPow_pos _)).mp div_roundingExponent_lt

/-- An exponent that is not zero leaves 53 bits of a quotient and no fewer. -/
theorem twoPow_roundingExponent_le (many : roundingExponent first denominator ≠ 0) :
    twoPow (52 + roundingExponent first denominator) ≤ first / denominator := by
  unfold roundingExponent at many ⊢
  by_cases few : first / denominator < twoPow 53
  · exact absurd (if_pos few) many
  · rw [if_neg few] at many ⊢
    have positive : first / denominator ≠ 0 := by
      have := twoPow_pos 53
      omega
    rw [show 52 + ((first / denominator).log2 - 52) = (first / denominator).log2 by omega]
    exact Nat.log2_self_le positive

/-- With a larger exponent a quotient reaches the binade above. -/
theorem nearestPattern_mono (le : first ≤ second) :
    nearestPattern first denominator ≤ nearestPattern second denominator := by
  have exponents : roundingExponent first denominator ≤ roundingExponent second denominator :=
    roundingExponent_mono le
  rcases Nat.lt_or_eq_of_le exponents with lower | same
  · have small : first / denominator <
        twoPow (53 + roundingExponent first denominator) := by
      rw [twoPow_add]
      exact (Nat.div_lt_iff_lt_mul (twoPow_pos _)).mp div_roundingExponent_lt
    have large : twoPow (52 + roundingExponent second denominator) ≤ second / denominator :=
      twoPow_roundingExponent_le (by omega)
    calc nearestPattern first denominator
        ≤ (roundingExponent first denominator + 2) * twoPow 52 := nearestPattern_le small
      _ ≤ (roundingExponent second denominator + 1) * twoPow 52 :=
          Nat.mul_le_mul_right _ (by omega)
      _ ≤ nearestPattern second denominator := le_nearestPattern large
  · unfold nearestPattern
    rw [same]
    exact Nat.add_le_add_left (nearestEven_mono le) _

end

/-! ## The exponent of a quotient -/

section

variable {numerator denominator exponent steps : Nat}

theorem nearestPattern_eq (same : roundingExponent numerator denominator = exponent) :
    nearestPattern numerator denominator =
      exponent * twoPow 52 + nearestEven numerator (denominator * twoPow exponent) := by
  subst same
  rfl

theorem div_lt_twoPow :
    numerator / denominator < twoPow (53 + roundingExponent numerator denominator) := by
  rw [twoPow_add]
  exact (Nat.div_lt_iff_lt_mul (twoPow_pos _)).mp div_roundingExponent_lt

theorem roundingExponent_eq (large : twoPow (52 + exponent) ≤ numerator / denominator)
    (small : numerator / denominator < twoPow (53 + exponent)) :
    roundingExponent numerator denominator = exponent := by
  apply Nat.le_antisymm (roundingExponent_le small)
  apply Nat.le_of_not_lt
  intro fewer
  have power : twoPow (53 + roundingExponent numerator denominator) ≤ twoPow (52 + exponent) :=
    twoPow_le_twoPow (by omega)
  exact Nat.not_lt_of_le (Nat.le_trans power large) div_lt_twoPow

/-- A denominator that is doubled lowers the pattern by a binade, unless few bits
are left. -/
theorem nearestPattern_mul_twoPow
    (large : twoPow (53 + steps) ≤ numerator / denominator) :
    nearestPattern numerator (denominator * twoPow steps) + steps * twoPow 52 =
      nearestPattern numerator denominator := by
  have more : steps < roundingExponent numerator denominator := by
    apply Nat.lt_of_not_le
    intro fewer
    have power := twoPow_le_twoPow (Nat.add_le_add_left fewer 53)
    exact Nat.not_lt_of_le (Nat.le_trans power large) div_lt_twoPow
  rcases Nat.exists_eq_add_of_lt more with ⟨rest, exponent⟩
  have lower : twoPow (52 + (rest + 1)) ≤ numerator / (denominator * twoPow steps) := by
    rw [← Nat.div_div_eq_div_mul, Nat.le_div_iff_mul_le (twoPow_pos _), ← twoPow_add]
    have full : twoPow (52 + roundingExponent numerator denominator) ≤ numerator / denominator :=
      twoPow_roundingExponent_le (by omega)
    rwa [exponent, show 52 + (steps + rest + 1) = 52 + (rest + 1) + steps by omega] at full
  have upper : numerator / (denominator * twoPow steps) < twoPow (53 + (rest + 1)) := by
    rw [← Nat.div_div_eq_div_mul, Nat.div_lt_iff_lt_mul (twoPow_pos _), ← twoPow_add]
    have full : numerator / denominator <
        twoPow (53 + roundingExponent numerator denominator) := div_lt_twoPow
    rwa [exponent, show 53 + (steps + rest + 1) = 53 + (rest + 1) + steps by omega] at full
  rw [nearestPattern_eq (roundingExponent_eq lower upper), nearestPattern_eq exponent,
    Nat.mul_assoc denominator, ← twoPow_add, Nat.add_assoc steps, Nat.add_mul steps]
  omega

/-! ## Quotients that are not in lowest terms -/

theorem nearestEven_mul_mul {factor : Nat} (positive : 0 < factor) :
    nearestEven (numerator * factor) (denominator * factor) =
      nearestEven numerator denominator := by
  have scaled : ∀ first second : Nat, first * factor < second * factor ↔ first < second :=
    fun first second => Nat.mul_lt_mul_right positive
  unfold nearestEven
  simp only [Nat.mul_div_mul_right _ _ positive, Nat.mul_mod_mul_right, ← Nat.mul_assoc, scaled]

theorem nearestPattern_mul_mul {factor : Nat} (positive : 0 < factor) :
    nearestPattern (numerator * factor) (denominator * factor) =
      nearestPattern numerator denominator := by
  have exponent : roundingExponent (numerator * factor) (denominator * factor) =
      roundingExponent numerator denominator := by
    unfold roundingExponent
    rw [Nat.mul_div_mul_right _ _ positive]
  rw [nearestPattern_eq exponent, Nat.mul_right_comm, nearestEven_mul_mul positive]
  rfl

/-! ## What is representable -/

theorem nearestEven_of_dvd (positive : 0 < denominator) (dvd : denominator ∣ numerator) :
    nearestEven numerator denominator = numerator / denominator := by
  unfold nearestEven
  rw [Nat.mod_eq_zero_of_dvd dvd]
  exact if_pos positive

end

end Double

namespace Magnitude

theorem pattern_eq (m : Magnitude) : m.pattern = m.exponent * twoPow 52 + m.mantissa := by
  have parts := Nat.div_add_mod m.pattern (twoPow 52)
  unfold exponent mantissa
  by_cases lowest : m.pattern / twoPow 52 = 0
  · rw [if_pos lowest, lowest, Nat.zero_sub, Nat.zero_mul, Nat.zero_add]
  · rcases Nat.exists_eq_succ_of_ne_zero lowest with ⟨binade, above⟩
    rw [if_neg lowest]
    rw [above] at parts ⊢
    rw [Nat.succ_sub_one, ← Nat.add_assoc, ← Nat.succ_mul, Nat.mul_comm]
    exact parts.symm

theorem le_mantissa {m : Magnitude} (scaled : 0 < m.exponent) : twoPow 52 ≤ m.mantissa := by
  have binade : m.pattern / twoPow 52 ≠ 0 := by
    unfold exponent at scaled
    intro lowest
    rw [lowest] at scaled
    cases scaled
  rw [mantissa, if_neg binade]
  exact Nat.le_add_right _ _

theorem roundingExponent_units (m : Magnitude) :
    Double.roundingExponent m.units 1 = m.exponent := by
  have small : m.units / 1 < twoPow (53 + m.exponent) := by
    rw [Nat.div_one, twoPow_add]
    exact Nat.mul_lt_mul_of_pos_right m.mantissa_lt (twoPow_pos _)
  rcases Nat.eq_zero_or_pos m.exponent with unscaled | scaled
  · exact Nat.le_antisymm (Double.roundingExponent_le small) (unscaled ▸ Nat.zero_le _)
  · apply Double.roundingExponent_eq _ small
    rw [Nat.div_one, twoPow_add]
    exact Nat.mul_le_mul_right _ (le_mantissa scaled)

/-- A magnitude is what its value rounds to. -/
theorem nearestPattern_units (m : Magnitude) : Double.nearestPattern m.units 1 = m.pattern := by
  have kept : Double.nearestEven m.units (twoPow m.exponent) = m.mantissa := by
    rw [units, Double.nearestEven_of_dvd (twoPow_pos _) (Nat.dvd_mul_left _ _),
      Nat.mul_div_cancel _ (twoPow_pos _)]
  rw [Double.nearestPattern_eq m.roundingExponent_units, Nat.one_mul, kept]
  exact m.pattern_eq.symm

/-- A value that is divisible by the power of its rounding is the value of what it
rounds to. -/
theorem units_of_exact {m : Magnitude} {value : Nat}
    (dvd : twoPow (Double.roundingExponent value 1) ∣ value)
    (rounded : m.pattern = Double.nearestPattern value 1) : m.units = value := by
  have bits : value / 1 / twoPow (Double.roundingExponent value 1) < twoPow 53 :=
    Double.div_roundingExponent_lt
  have full : Double.roundingExponent value 1 ≠ 0 →
      twoPow (52 + Double.roundingExponent value 1) ≤ value / 1 :=
    Double.twoPow_roundingExponent_le
  rw [Double.nearestPattern_eq rfl, Nat.one_mul,
    Double.nearestEven_of_dvd (twoPow_pos _) dvd] at rounded
  rw [Nat.div_one] at bits full
  generalize Double.roundingExponent value 1 = power at dvd bits full rounded
  rcases dvd with ⟨leading, rfl⟩
  rw [Nat.mul_div_cancel_left _ (twoPow_pos _)] at bits rounded
  rw [Nat.mul_comm]
  by_cases few : leading < twoPow 52
  · have unscaled : power = 0 := by
      apply Decidable.byContradiction
      intro scaled
      have leads := full scaled
      rw [Nat.add_comm, twoPow_add] at leads
      exact Nat.not_lt_of_le (Nat.le_of_mul_le_mul_left leads (twoPow_pos _)) few
    subst unscaled
    rw [Nat.zero_mul, Nat.zero_add] at rounded
    have binade : m.pattern / twoPow 52 = 0 := by rw [rounded, Nat.div_eq_of_lt few]
    rw [units, exponent, mantissa, if_pos binade, binade, rounded]
  · rcases Nat.exists_eq_add_of_le (Nat.le_of_not_lt few) with ⟨rest, rfl⟩
    have double : twoPow 53 = twoPow 52 + twoPow 52 := rfl
    have small : rest < twoPow 52 := by omega
    rw [← Nat.add_assoc, ← Nat.succ_mul] at rounded
    have binade : m.pattern / twoPow 52 = power + 1 := by
      rw [rounded, Nat.add_comm, Nat.add_mul_div_right _ _ (twoPow_pos _), Nat.div_eq_of_lt small,
        Nat.zero_add]
    have remainder : m.pattern % twoPow 52 = rest := by
      rw [rounded, Nat.add_comm, Nat.add_mul_mod_self_right, Nat.mod_eq_of_lt small]
    rw [units, exponent, mantissa, binade, if_neg (Nat.succ_ne_zero _), remainder,
      Nat.add_sub_cancel]

end Magnitude

namespace Double

/-! ## Words divided by powers of two -/

section

variable {numerator denominator numerator' denominator' n steps : Nat} {negative : Bool}
  {m divisor : Magnitude}

theorem ofRatio_congr (same : nearestPattern numerator denominator =
      nearestPattern numerator' denominator') :
    ofRatio negative numerator denominator = ofRatio negative numerator' denominator' := by
  simp only [ofRatio, same]

/-- A number of 53 bits is kept as it is, whichever power of two it is scaled
by. -/
theorem units_of_few_bits {scale : Nat} (few : n < twoPow 53)
    (rounded : m.pattern = nearestPattern (n * twoPow scale) 1) :
    m.units = n * twoPow scale := by
  have exponent : roundingExponent (n * twoPow scale) 1 ≤ scale := by
    apply roundingExponent_le
    rw [Nat.div_one, twoPow_add]
    exact Nat.mul_lt_mul_of_pos_right few (twoPow_pos _)
  have power : twoPow (roundingExponent (n * twoPow scale) 1) ∣ n * twoPow scale :=
    Nat.dvd_trans (twoPow_dvd_twoPow exponent) (Nat.dvd_mul_left _ _)
  exact Magnitude.units_of_exact power rounded

theorem units_ofNat (few : n < twoPow 53) (finite : ofNat n = .finite negative m) :
    m.units = n * unitsInOne :=
  units_of_few_bits few (pattern_of_ofRatio finite)

theorem div_twoPow_eq (power : divisor.units = twoPow steps * unitsInOne) :
    (Double.finite false m / Double.finite false divisor : Double) =
      ofRatio false m.units (twoPow steps) := by
  have positive : divisor.units ≠ 0 := by
    rw [power]
    exact Nat.mul_ne_zero (Nat.ne_of_gt (twoPow_pos _)) (Nat.ne_of_gt unitsInOne_pos)
  have quotient : (Double.finite false m / Double.finite false divisor : Double) =
      ofRatio false (m.units * unitsInOne) divisor.units := if_neg positive
  rw [quotient, power]
  exact ofRatio_congr (nearestPattern_mul_mul unitsInOne_pos)

/-- A word divided by a power of two is rounded only once: it is the double
nearest to the exact quotient.  A small word is not rounded at all when it is
converted, and a large one is so far from the lowest binades that halving it
leaves its bits as they are. -/
theorem ofNat_div_twoPow (word : n < twoPow 64) (small : steps < 53) :
    ofNat n / ofNat (twoPow steps) = ofRatio false (n * unitsInOne) (twoPow steps) := by
  rcases below_ofNat word with ⟨m, finite, _⟩
  rcases below_ofNat (n := twoPow steps) (twoPow_lt_twoPow (Nat.lt_trans small (by decide))) with
    ⟨divisor, finite', _⟩
  rw [finite, finite', div_twoPow_eq (units_ofNat (twoPow_lt_twoPow small) finite')]
  by_cases few : n < twoPow 53
  · rw [units_ofNat few finite]
  · have positive : n ≠ 0 := by
      have := twoPow_pos 53
      omega
    rcases atLeastOne_ofNat word positive with ⟨_, same, one⟩
    cases finite.symm.trans same
    have halved : ∀ value : Nat, unitsInOne ≤ value →
        nearestPattern value (twoPow steps) + steps * twoPow 52 = nearestPattern value 1 := by
      intro value large
      rw [← Nat.one_mul (twoPow steps)]
      apply nearestPattern_mul_twoPow
      rw [Nat.div_one]
      exact Nat.le_trans (twoPow_le_twoPow (by omega)) large
    have unrounded := halved (n * unitsInOne)
      (Nat.le_mul_of_pos_left _ (Nat.pos_of_ne_zero positive))
    have rounded := halved m.units one
    rw [m.nearestPattern_units, pattern_of_ofRatio finite, ← unrounded] at rounded
    exact ofRatio_congr (Nat.add_right_cancel rounded)

/-- A number of 53 bits is divided by a power of two without rounding. -/
theorem units_div_twoPow (few : n < twoPow 53) (range : steps ≤ 1074)
    (finite : ofRatio false (n * unitsInOne) (twoPow steps) = .finite negative m) :
    m.units * twoPow steps = n * unitsInOne := by
  have whole : n * unitsInOne = n * twoPow (1074 - steps) * twoPow steps := by
    rw [Nat.mul_assoc, ← twoPow_add, Nat.sub_add_cancel range, unitsInOne]
  have rounded : m.pattern = nearestPattern (n * twoPow (1074 - steps)) 1 := by
    have lowest : nearestPattern (n * twoPow (1074 - steps) * twoPow steps) (1 * twoPow steps) =
        nearestPattern (n * twoPow (1074 - steps)) 1 := nearestPattern_mul_mul (twoPow_pos _)
    rw [Nat.one_mul] at lowest
    rw [pattern_of_ofRatio finite, whole, lowest]
  rw [units_of_few_bits few rounded, whole]

end

/-! ## The order of doubles -/

/-- The order of doubles, in which NaN is comparable with nothing. -/
protected def le : Double → Double → Prop
  | .nan, _ | _, .nan => False
  | .infinite true, _ | _, .infinite false => True
  | .infinite false, _ | _, .infinite true => False
  | .finite s x, .finite t y => signedUnits s x ≤ signedUnits t y

instance : LE Double := ⟨Double.le⟩

/-- A larger quotient rounds to a double that is no smaller. -/
theorem ofRatio_le_ofRatio {first second denominator : Nat} (le : first ≤ second) :
    ofRatio false first denominator ≤ ofRatio false second denominator := by
  have patterns : nearestPattern first denominator ≤ nearestPattern second denominator :=
    nearestPattern_mono le
  unfold ofRatio
  by_cases range : nearestPattern second denominator < infinityPattern
  · have range' := Nat.lt_of_le_of_lt patterns range
    dsimp only
    rw [dif_pos range, dif_pos range']
    exact Int.ofNat_le.mpr (Magnitude.units_le_units_iff.mpr patterns)
  · dsimp only
    rw [dif_neg range]
    by_cases range' : nearestPattern first denominator < infinityPattern
    · rw [dif_pos range']
      trivial
    · rw [dif_neg range']
      trivial

end Double
end StorageTelemetry
