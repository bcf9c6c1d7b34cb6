import StorageTelemetry.Normalization
import StorageTelemetry.Proofs.Statistics.Rounding

namespace StorageTelemetry

/-!
# Normalized figures are finite and not negative

Legacy figures are not clamped.  That they are finite rests on the counters
being words: a divisor is looked at before it divides, so it is at least one,
and a quotient is then no larger than a word is.  Figures of a batch may be
computed from any sample whatever, and are clamped.
-/

open Double

/-! ## Counters -/

theorem word_lt (word : UInt64) : word.toNat < twoPow 64 := word.toNat_lt

theorem word_ne_zero {word : UInt64} (positive : word ≠ 0) : word.toNat ≠ 0 :=
  fun zero => positive (UInt64.toNat_inj.mp zero)

theorem atLeastOne_kbPerMb : kbPerMb.AtLeastOne := atLeastOne_ofNat (by decide) (by decide)

theorem atLeastOne_twoPow20 : twoPow20.AtLeastOne := atLeastOne_ofNat (by decide) (by decide)

/-- A word by a word other than zero. -/
theorem below_ratio (dividend : UInt64) {divisor : UInt64} (positive : divisor ≠ 0) :
    (ofNat dividend.toNat / ofNat divisor.toNat).Below 1142 := by
  apply Below.div 1087
  · exact below_ofNat (word_lt dividend)
  · exact atLeastOne_ofNat (word_lt divisor) (word_ne_zero positive)
  · decide

theorem isFigure_ratioInMb (dividend : UInt64) {divisor : UInt64} (positive : divisor ≠ 0) :
    (ofNat dividend.toNat / ofNat divisor.toNat / kbPerMb).IsFigure := by
  have ratio := below_ratio dividend positive
  exact (Below.div 1089 ratio atLeastOne_kbPerMb (by decide)).isFigure

/-- Kilobytes that fit into a word, in gigabytes. -/
theorem isFigure_inGb {kilobytes : Nat} (word : kilobytes < twoPow 64) :
    (ofNat kilobytes / twoPow20).IsFigure := by
  have whole := below_ofNat word
  exact (Below.div 1087 whole atLeastOne_twoPow20 (by decide)).isFigure

/-! ## Windows -/

namespace Window

variable (window : Window)

theorem isFigure_bandwidth : window.bandwidth.IsFigure := by
  unfold bandwidth
  by_cases empty : window.seconds = 0
  · rw [if_pos empty]
    exact isFigure_finite .zero
  · rw [if_neg empty]
    exact isFigure_ratioInMb window.weightInKb empty

theorem isFigure_rate : window.rate.IsFigure := by
  unfold rate
  by_cases empty : window.seconds = 0
  · rw [if_pos empty]
    exact isFigure_finite .zero
  · rw [if_neg empty]
    exact (below_ratio window.occurrences empty).isFigure

theorem isFigure_latency : window.latency.IsFigure := by
  unfold latency
  by_cases idle : window.occurrences = 0
  · rw [if_pos idle]
    exact isFigure_finite .zero
  · rw [if_neg idle]
    exact isFigure_ratioInMb window.weightInKb idle

end Window

/-! ## Capacity -/

namespace PoolCounters

variable (counters : PoolCounters)

theorem totalKb_lt : counters.totalKb < twoPow 64 := by
  have word := word_lt counters.maximum
  unfold totalKb
  omega

theorem inUseKb_lt : counters.inUseKb < twoPow 64 := by
  have word := word_lt counters.inUse
  unfold inUseKb
  omega

theorem availableKb_lt : counters.availableKb < twoPow 64 :=
  Nat.lt_of_le_of_lt (Nat.sub_le _ _) counters.totalKb_lt

end PoolCounters

/-! ## All figures -/

theorem IoStatistics.isFigure_normalize (statistics : IoStatistics) :
    ∀ value ∈ statistics.normalize.values, value.IsFigure := by
  cases statistics with
  | legacy counters =>
    simp only [normalize, IoMetrics.values, List.forall_mem_cons]
    exact ⟨counters.read.isFigure_bandwidth, counters.write.isFigure_bandwidth,
      counters.read.isFigure_rate, counters.write.isFigure_rate,
      counters.readLatency.isFigure_latency, counters.writeLatency.isFigure_latency, nofun⟩
  | bulk resource =>
    simp only [normalize, IoMetrics.values, List.forall_mem_cons]
    refine ⟨?_, ?_, ?_, ?_, ?_, ?_, nofun⟩ <;> exact isFigure_nonNegative _

theorem CapacityStatistics.isFigure_normalize (statistics : CapacityStatistics) :
    ∀ value ∈ statistics.normalize.values, value.IsFigure := by
  cases statistics with
  | legacy counters =>
    simp only [normalize, CapacityMetrics.values, List.forall_mem_cons]
    exact ⟨isFigure_inGb counters.totalKb_lt, isFigure_inGb counters.availableKb_lt,
      isFigure_inGb counters.inUseKb_lt, isFigure_inGb (word_lt counters.provisioned),
      nofun⟩
  | bulk resource =>
    simp only [normalize, CapacityMetrics.values, List.forall_mem_cons]
    refine ⟨?_, ?_, ?_, ?_, nofun⟩ <;> exact isFigure_nonNegative _

/-- The record of a pass without volumes publishes zeros. -/
theorem IoMetrics.isFigure_zero : ∀ value ∈ IoMetrics.zero.values, value.IsFigure := by
  simp only [zero, values, List.forall_mem_cons]
  refine ⟨?_, ?_, ?_, ?_, ?_, ?_, nofun⟩ <;> exact isFigure_finite .zero

end StorageTelemetry
