import Mathlib.Order.Monotone.Basic
import StorageTelemetry.Proofs.Tickers
import StorageTelemetry.Session.World

namespace StorageTelemetry

/-!
# The timetable of a refresh loop

When a loop logs in is settled by its period, by the moment at which it
started, and by how long its logins take.  Whether they succeed does not
matter, nor when it is told to end, but that it then ends.
-/

/-- A login of a loop: when it begins and ends, and the ticker as it is left by
it. -/
structure Slot where
  begins : Instant
  ends : Instant
  ticker : Ticker

/-- What settles the logins of a loop. -/
structure Timetable where
  plan : Nat → Login
  period : Nat
  start : Instant

namespace Timetable

variable (timetable : Timetable) (n : Nat)

/-- The slot of each login.  The ticker starts when the first login has ended,
and a login that outlasts its due moment is followed by the next at once. -/
def slot : Nat → Slot
  | 0 =>
      let ends := timetable.start + (timetable.plan 0).delay
      ⟨timetable.start, ends, ⟨timetable.period, ends + timetable.period⟩⟩
  | n + 1 =>
      let begins := max (slot n).ends (slot n).ticker.due
      ⟨begins, begins + (timetable.plan (n + 1)).delay, (slot n).ticker.fire begins⟩

abbrev begins : Instant := (timetable.slot n).begins

abbrev ends : Instant := (timetable.slot n).ends

/-- The ticker that a loop has when it idles after a login. -/
abbrev ticker : Ticker := (timetable.slot n).ticker

theorem ends_eq : timetable.ends n = timetable.begins n + (timetable.plan n).delay := by
  cases n <;> rfl

theorem period_ticker : (timetable.ticker n).period = timetable.period := by
  induction n with
  | zero => rfl
  | succ n ih => exact (Ticker.period_fire _ _).trans ih

theorem begins_le_ends : timetable.begins n ≤ timetable.ends n :=
  timetable.ends_eq n ▸ Nat.le_add_right _ _

/-- No login begins before the one before it has ended. -/
theorem ends_le_begins : timetable.ends n ≤ timetable.begins (n + 1) :=
  Nat.le_max_left _ _

theorem due_le_begins : (timetable.ticker n).due ≤ timetable.begins (n + 1) :=
  Nat.le_max_right _ _

/-- The second login begins a period after the first has ended. -/
theorem begins_one : timetable.begins 1 = timetable.ends 0 + timetable.period :=
  Nat.max_eq_right (Nat.le_add_right _ _)

/-- Between the beginnings of two logins lies a period, but for the tolerance. -/
theorem begins_add_period_le :
    timetable.begins n + timetable.period ≤ timetable.begins (n + 1) + Ticker.tolerance := by
  have due : timetable.begins n + timetable.period ≤
      (timetable.ticker n).due + Ticker.tolerance := by
    cases n with
    | zero =>
        have ended : timetable.start ≤ timetable.ends 0 := Nat.le_add_right _ _
        have due : timetable.ends 0 + timetable.period ≤
            (timetable.ticker 0).due + Ticker.tolerance := Nat.le_add_right _ _
        exact Nat.le_trans (Nat.add_le_add_right ended _) due
    | succ n =>
        have fired := (timetable.ticker n).now_add_period_le_fire (timetable.begins (n + 1))
        rwa [timetable.period_ticker n] at fired
  exact Nat.le_trans due (Nat.add_le_add_right (timetable.due_le_begins n) _)

theorem due_ge : timetable.ends 0 + (n + 1) * timetable.period ≤ (timetable.ticker n).due := by
  induction n with
  | zero =>
      rw [Nat.zero_add, Nat.one_mul]
      exact Nat.le_refl _
  | succ n ih =>
      calc timetable.ends 0 + (n + 1 + 1) * timetable.period
          = timetable.ends 0 + (n + 1) * timetable.period + timetable.period := by
            rw [Nat.succ_mul (n + 1), Nat.add_assoc]
        _ ≤ (timetable.ticker n).due + (timetable.ticker n).period :=
            Nat.add_le_add ih (Nat.le_of_eq (timetable.period_ticker n).symm)
        _ ≤ (timetable.ticker (n + 1)).due := Ticker.due_add_period_le_fire _ _

theorem begins_monotone : Monotone timetable.begins :=
  monotone_nat_of_le_succ fun n =>
    Nat.le_trans (timetable.begins_le_ends n) (timetable.ends_le_begins n)

/-- What the moments of a timetable have in common. -/
structure Laws (timetable : Timetable) : Prop where
  /-- The first login begins when the loop starts. -/
  first : timetable.begins 0 = timetable.start
  second : timetable.begins 1 = timetable.ends 0 + timetable.period
  spaced : ∀ n,
    timetable.begins n + timetable.period ≤ timetable.begins (n + 1) + Ticker.tolerance
  /-- Logins that were late are not made up for. -/
  paced : ∀ n, timetable.ends 0 + (n + 1) * timetable.period ≤ timetable.begins (n + 1)
  apart : ∀ n, timetable.ends n ≤ timetable.begins (n + 1)
  lasting : ∀ n, timetable.ends n = timetable.begins n + (timetable.plan n).delay
  /-- It does not matter whether logins succeed. -/
  blind : ∀ plan : Nat → Login, (∀ n, (plan n).delay = (timetable.plan n).delay) →
    ∀ n, { timetable with plan }.slot n = timetable.slot n

theorem laws : timetable.Laws where
  first := rfl
  second := timetable.begins_one
  spaced := timetable.begins_add_period_le
  paced n := Nat.le_trans (timetable.due_ge n) (timetable.due_le_begins n)
  apart := timetable.ends_le_begins
  lasting := timetable.ends_eq
  blind plan same n := by
    induction n with
    | zero => simp only [slot, same]
    | succ n ih => simp only [slot, ih, same]

theorem le_begins (positive : 0 < timetable.period) : n ≤ timetable.begins n := by
  cases n with
  | zero => exact Nat.zero_le _
  | succ n =>
      calc n + 1 ≤ (n + 1) * timetable.period := Nat.le_mul_of_pos_right _ positive
        _ ≤ timetable.ends 0 + (n + 1) * timetable.period := Nat.le_add_left _ _
        _ ≤ timetable.begins (n + 1) := timetable.laws.paced n

/-- The ticker that a loop has during a login. -/
def held : Nat → Option Ticker
  | 0 => none
  | n + 1 => some (timetable.ticker (n + 1))

/-- Whether the first due moment lies within the range of the clock. -/
def InRange : Prop :=
  0 < timetable.period ∧ (timetable.ends 0 + timetable.period) / 1000 < RefreshLoop.clockLimit

/-- A loop idles after its refresh. -/
theorem afterRefresh_held (inRange : timetable.InRange) :
    RefreshLoop.afterRefresh timetable.period (timetable.ends n) (timetable.held n) =
      .idle (timetable.ticker n) := by
  cases n with
  | zero =>
      have first : RefreshLoop.firstTicker? timetable.period (timetable.ends 0) =
          some (timetable.ticker 0) := by
        obtain ⟨positive, represented⟩ := inRange
        unfold RefreshLoop.firstTicker?
        rw [if_pos (by simp [positive, represented])]
        rfl
      simp only [held, RefreshLoop.afterRefresh, first]
  | succ n => rfl

end Timetable
end StorageTelemetry
