import StorageTelemetry.Proofs.Statistics.Figures
import StorageTelemetry.Proofs.Statistics.RoundingOrder

namespace StorageTelemetry

/-!
# Capacity adds up

A legacy pool is counted in words.  What is usable and what is left are
differences, which stop at zero, and what is usable and what is in use are halves,
which drop the odd kilobyte.  Whole kilobytes after both are still a partition:
what is left and what is in use make up the total, unless more is in use than
there is.

The figures that are published are these kilobytes in gigabytes.  The division
itself never rounds, so a figure is the double nearest to the exact quotient, and
rounding keeps the order of the kilobytes.
-/

/-! ## Words -/

/-- The difference of two words, zero where it would be negative. -/
def saturatingSub (minuend subtrahend : UInt64) : UInt64 :=
  if subtrahend ≤ minuend then minuend - subtrahend else 0

theorem toNat_saturatingSub (minuend subtrahend : UInt64) :
    (saturatingSub minuend subtrahend).toNat = minuend.toNat - subtrahend.toNat := by
  unfold saturatingSub
  split
  · exact UInt64.toNat_sub_of_le _ _ ‹_›
  · have below : minuend.toNat < subtrahend.toNat := by
      exact UInt64.lt_iff_toNat_lt.mp (UInt64.not_le.mp ‹_›)
    exact (Nat.sub_eq_zero_of_le (Nat.le_of_lt below)).symm

/-! ## Gigabytes -/

/-- Whether a double is a quotient exactly. -/
def Double.IsQuotient (x : Double) (dividend divisor : Nat) : Prop :=
  ∃ m, x = .finite false m ∧ m.units * divisor = dividend * Double.unitsInOne

/-- Exact quotients by the same divisor are ordered as what is divided. -/
theorem Double.IsQuotient.le_iff {x y : Double} {first second divisor : Nat}
    (left : x.IsQuotient first divisor) (right : y.IsQuotient second divisor)
    (positive : 0 < divisor) : x ≤ y ↔ first ≤ second := by
  rcases left with ⟨m, rfl, same⟩
  rcases right with ⟨n, rfl, same'⟩
  calc Double.finite false m ≤ Double.finite false n
      ↔ m.units ≤ n.units := Int.ofNat_le
    _ ↔ m.units * divisor ≤ n.units * divisor := (Nat.mul_le_mul_right_iff positive).symm
    _ ↔ first * unitsInOne ≤ second * unitsInOne := by rw [same, same']
    _ ↔ first ≤ second := Nat.mul_le_mul_right_iff unitsInOne_pos

/-- The double nearest to kilobytes in gigabytes. -/
def nearestGigabytes (kilobytes : Nat) : Double :=
  .ofRatio false (kilobytes * Double.unitsInOne) (twoPow 20)

theorem inGb_eq {kilobytes : Nat} (word : kilobytes < twoPow 64) :
    Double.ofNat kilobytes / twoPow20 = nearestGigabytes kilobytes :=
  Double.ofNat_div_twoPow word (by decide)

theorem isQuotient_nearestGigabytes {kilobytes : Nat} (few : kilobytes < twoPow 53) :
    (nearestGigabytes kilobytes).IsQuotient kilobytes (twoPow 20) := by
  have word := Nat.lt_trans few (twoPow_lt_twoPow (by decide : 53 < 64))
  have whole := Double.below_ofNat word
  rcases Double.Below.div 1087 whole atLeastOne_twoPow20 (by decide) with ⟨m, finite, _⟩
  rw [inGb_eq word] at finite
  exact ⟨m, finite, Double.units_div_twoPow few (by decide) finite⟩

namespace PoolCounters

/-- Logical capacity, computed on words. -/
def totalWord (counters : PoolCounters) : UInt64 :=
  saturatingSub counters.maximum counters.spare / 2

/-- Logical capacity in use, computed on words. -/
def inUseWord (counters : PoolCounters) : UInt64 := counters.inUse / 2

/-- Logical capacity left, computed on words. -/
def availableWord (counters : PoolCounters) : UInt64 :=
  saturatingSub counters.totalWord counters.inUseWord

variable (counters : PoolCounters)

theorem toNat_totalWord : counters.totalWord.toNat = counters.totalKb := by
  rw [totalWord, UInt64.toNat_div, toNat_saturatingSub]
  rfl

theorem toNat_inUseWord : counters.inUseWord.toNat = counters.inUseKb := by
  rw [inUseWord, UInt64.toNat_div]
  rfl

theorem toNat_availableWord : counters.availableWord.toNat = counters.availableKb := by
  rw [availableWord, toNat_saturatingSub, toNat_totalWord, toNat_inUseWord]
  rfl

theorem totalKb_eq_max :
    (counters.totalKb : Int) =
      max (counters.maximum.toNat - counters.spare.toNat : Int) 0 / 2 := by
  unfold totalKb
  omega

theorem availableKb_eq_max :
    (counters.availableKb : Int) = max (counters.totalKb - counters.inUseKb : Int) 0 := by
  unfold availableKb
  omega

theorem availableKb_add_inUseKb :
    counters.availableKb + min counters.inUseKb counters.totalKb = counters.totalKb := by
  unfold availableKb
  omega

theorem availableKb_eq_zero_iff :
    counters.availableKb = 0 ↔ counters.totalKb ≤ counters.inUseKb :=
  Nat.sub_eq_zero_iff_le

/-- More is left when there is more, and less of it is spare or in use. -/
theorem availableKb_mono {other : PoolCounters} (maximum : counters.maximum ≤ other.maximum)
    (spare : other.spare ≤ counters.spare) (inUse : other.inUse ≤ counters.inUse) :
    counters.availableKb ≤ other.availableKb := by
  rw [UInt64.le_iff_toNat_le] at maximum spare inUse
  unfold availableKb totalKb inUseKb
  omega

theorem values_normalize :
    (CapacityStatistics.legacy counters).normalize.values =
      [counters.totalKb, counters.availableKb, counters.inUseKb,
        counters.provisioned.toNat].map nearestGigabytes := by
  simp only [CapacityStatistics.normalize, CapacityMetrics.values, List.map_cons,
    List.map_nil, inGb_eq counters.totalKb_lt, inGb_eq counters.availableKb_lt,
    inGb_eq counters.inUseKb_lt, inGb_eq (word_lt counters.provisioned)]

/-- Kilobytes add up whatever the counters are, and the published gigabytes are
these kilobytes, in the same order.  Figures that differ by less than the spacing of
doubles may be equal, but only where kilobytes have more than 53 bits. -/
theorem capacity_adds_up :
    (counters.totalWord.toNat = counters.totalKb ∧
      counters.inUseWord.toNat = counters.inUseKb ∧
      counters.availableWord.toNat = counters.availableKb) ∧
    ((counters.totalKb : Int) =
        max (counters.maximum.toNat - counters.spare.toNat : Int) 0 / 2 ∧
      counters.inUseKb = counters.inUse.toNat / 2 ∧
      (counters.availableKb : Int) = max (counters.totalKb - counters.inUseKb : Int) 0) ∧
    (counters.availableKb ≤ counters.totalKb ∧
      counters.availableKb + min counters.inUseKb counters.totalKb = counters.totalKb ∧
      (counters.availableKb = 0 ↔ counters.totalKb ≤ counters.inUseKb)) ∧
    (∀ other : PoolCounters, counters.maximum ≤ other.maximum → other.spare ≤ counters.spare →
      other.inUse ≤ counters.inUse → counters.availableKb ≤ other.availableKb) ∧
    (CapacityStatistics.legacy counters).normalize.values =
      [counters.totalKb, counters.availableKb, counters.inUseKb,
        counters.provisioned.toNat].map nearestGigabytes ∧
    (∀ first second, first ≤ second → nearestGigabytes first ≤ nearestGigabytes second) ∧
    (∀ kilobytes < twoPow 53, (nearestGigabytes kilobytes).IsQuotient kilobytes (twoPow 20)) ∧
    ∀ first < twoPow 53, ∀ second < twoPow 53,
      nearestGigabytes first ≤ nearestGigabytes second ↔ first ≤ second := by
  refine ⟨⟨counters.toNat_totalWord, counters.toNat_inUseWord, counters.toNat_availableWord⟩,
    ⟨counters.totalKb_eq_max, rfl, counters.availableKb_eq_max⟩,
    ⟨Nat.sub_le _ _, counters.availableKb_add_inUseKb, counters.availableKb_eq_zero_iff⟩,
    fun _ => counters.availableKb_mono, counters.values_normalize, ?_,
    fun _ => isQuotient_nearestGigabytes, ?_⟩
  · intro first second le
    exact Double.ofRatio_le_ofRatio (Nat.mul_le_mul_right _ le)
  · intro first few second few'
    have quotient := isQuotient_nearestGigabytes few
    exact quotient.le_iff (isQuotient_nearestGigabytes few') (twoPow_pos 20)

/-- Odd counters, and more in use than there is: nothing is left until some of it
is freed. -/
theorem capacity_of_overcommitted_pool :
    (PoolCounters.mk 7 2 11 0).availableKb = 0 ∧
      (PoolCounters.mk 7 2 11 0).availableKb ≤ (PoolCounters.mk 9 2 3 0).availableKb := by
  rcases capacity_adds_up (.mk 7 2 11 0) with ⟨_, _, ⟨_, _, zero⟩, monotone, _⟩
  have full : (PoolCounters.mk 7 2 11 0).totalKb ≤ (PoolCounters.mk 7 2 11 0).inUseKb := by decide
  exact ⟨zero.mpr full, monotone (.mk 9 2 3 0) (by decide) (by decide) (by decide)⟩

end PoolCounters
end StorageTelemetry
