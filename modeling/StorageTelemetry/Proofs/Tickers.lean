import StorageTelemetry.Clock.Ticker

namespace StorageTelemetry

/-!
# Laws of tickers

A ticker that fires keeps its period, and is due next after a period at least:
counted from its due moment, and, but for the tolerance, from the moment at
which it fires.
-/

namespace Ticker

theorem period_fire (ticker : Ticker) (now : Instant) :
    (ticker.fire now).period = ticker.period := by
  unfold fire
  split <;> rfl

/-- The due moment goes on by a period at least. -/
theorem due_add_period_le_fire (ticker : Ticker) (now : Instant) :
    ticker.due + ticker.period ≤ (ticker.fire now).due := by
  by_cases late : ticker.due + tolerance < now
  · have fired : (ticker.fire now).due = now + ticker.period := congrArg due (if_pos late)
    rw [fired]
    exact Nat.add_le_add_right (Nat.le_of_lt (Nat.lt_of_add_right_lt late)) _
  · have fired : (ticker.fire now).due = ticker.due + ticker.period := congrArg due (if_neg late)
    exact Nat.le_of_eq fired.symm

/-- The next due moment is a period after the moment at which the ticker fires,
except for the tolerance. -/
theorem now_add_period_le_fire (ticker : Ticker) (now : Instant) :
    now + ticker.period ≤ (ticker.fire now).due + tolerance := by
  unfold fire
  by_cases late : ticker.due + tolerance < now
  · rw [if_pos late]
    exact Nat.le_add_right _ _
  · rw [if_neg late]
    calc now + ticker.period
        ≤ ticker.due + tolerance + ticker.period := Nat.add_le_add_right (Nat.le_of_not_lt late) _
      _ = ticker.due + ticker.period + tolerance := Nat.add_right_comm _ _ _

end Ticker
end StorageTelemetry
