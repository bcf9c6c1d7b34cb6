import StorageTelemetry.Clock.Ticker
import StorageTelemetry.Fault
import StorageTelemetry.Powers
import StorageTelemetry.Session.TokenManager

namespace StorageTelemetry

/-!
# Keeping the session fresh

A refresh loop logs in at once and then on every tick.  It looks for a reason
to end only between refreshes: a login under way is always finished.  When it
is told to stop and to shut down at the same time, shutting down counts.
-/

/-- Why a refresh loop ended. -/
inductive LoopEnd
  | stopped
  | shutDown
deriving DecidableEq

/-- The result of a loop: being shut down counts as a fault. -/
def LoopEnd.result : LoopEnd → Except Fault Unit
  | stopped => .ok ()
  | shutDown => .error .cancelled

/-- Where a refresh loop stands.  While it refreshes it keeps its ticker, which
it does not have before the first login has ended. -/
inductive RefreshLoop
  | refreshing (ticket : Ticket) (ticker : Option Ticker)
  | idle (ticker : Ticker)
  | ended (reason : LoopEnd)
  | broken
deriving DecidableEq

namespace RefreshLoop

/-- The first second that the clock cannot represent. -/
def clockLimit : Nat := twoPow 63

/-- The ticker that is due a period after `now`, if the period is not zero and
that moment lies within the range of the clock. -/
def firstTicker? (period : Nat) (now : Instant) : Option Ticker :=
  if 0 < period && (now + period) / 1000 < clockLimit then some ⟨period, now + period⟩ else none

/-- The loop after its refresh has ended.  The ticker starts to run when the
first login is over; if there can be no ticker, the loop breaks. -/
def afterRefresh (period : Nat) (now : Instant) : Option Ticker → RefreshLoop
  | some ticker => idle ticker
  | none =>
      match firstTicker? period now with
      | some ticker => idle ticker
      | none => broken

/-- What an idle loop does next. -/
inductive Reaction
  | finish (reason : LoopEnd)
  | refresh (ticker : Ticker)
  | wait
deriving DecidableEq

/-- What an idle loop does at a moment. -/
def react (ticker : Ticker) (now : Instant) (shutdown stopped : Bool) : Reaction :=
  if shutdown then .finish .shutDown
  else if stopped then .finish .stopped
  else if ticker.ready now then .refresh (ticker.fire now)
  else .wait

end RefreshLoop
end StorageTelemetry
