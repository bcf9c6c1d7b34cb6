namespace StorageTelemetry

/-!
# Time

Instants and spans are whole milliseconds on a clock that starts at zero.
Between events nothing takes time.
-/

/-- A moment, in milliseconds since the clock started. -/
abbrev Instant := Nat

def secondsSpan (seconds : Nat) : Nat := 1000 * seconds

/-!
# Tickers

A ticker becomes due at regular moments.  A tick that is taken in time, or at
most a few milliseconds late, is followed by one exactly a period after its
due moment.  A tick that is taken later is followed by one a full period after
it was taken, so missed ticks are never made up for.
-/

/-- A ticker with its next due moment. -/
structure Ticker where
  period : Nat
  due : Instant
deriving DecidableEq

namespace Ticker

/-- How late a tick may be taken without moving the ones after it. -/
def tolerance : Nat := 5

def ready (ticker : Ticker) (now : Instant) : Bool := ticker.due ≤ now

def fire (ticker : Ticker) (now : Instant) : Ticker :=
  if ticker.due + tolerance < now then { ticker with due := now + ticker.period }
  else { ticker with due := ticker.due + ticker.period }

end Ticker
end StorageTelemetry
