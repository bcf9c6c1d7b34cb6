import StorageTelemetry.Clock.Ticker
import StorageTelemetry.Entity.Records
import StorageTelemetry.Fault
import StorageTelemetry.Log

namespace StorageTelemetry

/-!
# The collection loop

The loop waits for whatever is ready: a due ticker, a failed bootstrap task,
or the request to shut down.  If several are ready, any of them may be taken.
A tick that was started always runs to its end before the loop looks at
anything else.

The loop is a transition system.  Time passes by events of its own, so a
statement about all lists of events covers every duration of every tick, every
choice among what is ready, and every moment of a shutdown or a failure.

Failures arrive through a channel.  It closes when every bootstrap task has
ended, and from then on the loop no longer looks at it.
-/

/-- Why a bootstrap task failed. -/
inductive BootstrapFailure
  | election (fault : Fault)
  | server (reason : String)
deriving DecidableEq

namespace BootstrapFailure

def context : BootstrapFailure → String
  | election _ => "leader election init failed"
  | server _ => "metrics server failed"

/-- The fault of this library behind a failure, if there is one. -/
def cause? : BootstrapFailure → Option Fault
  | election fault => some fault
  | server _ => none

def message (failure : BootstrapFailure) : String :=
  failure.context ++ ": " ++
    match failure with
    | election fault => fault.message
    | server reason => reason

end BootstrapFailure

/-- What the loop is doing.  A tick that breaks off takes the loop with it. -/
inductive LoopActivity
  | waiting
  | ticking (kind : EntityKind)
  | ended (result : Except BootstrapFailure Unit)
  | broken

/-- The state of the loop.  The failures are those that were reported but not
looked at yet, and the reporters are the bootstrap tasks that have not ended.
Started ticks are kept, newest first. -/
structure CollectionLoop where
  clock : Instant
  ticker : EntityKind → Ticker
  activity : LoopActivity
  shutdown : Bool
  failures : List BootstrapFailure
  reporters : Nat
  started : List (EntityKind × Instant)
  tokensStopped : Bool

namespace CollectionLoop

/-- Whether a ticker can be made for every kind: a period must not be zero. -/
def legalPeriods (period : EntityKind → Nat) : Bool :=
  0 < period .sdc && 0 < period .volume && 0 < period .storagePool

/-- The leader election and the metrics server. -/
def bootstrapTasks : Nat := 2

/-- The loop at its start, when every ticker is due. -/
def start (period : EntityKind → Nat) : CollectionLoop where
  clock := 0
  ticker kind := ⟨period kind, 0⟩
  activity := .waiting
  shutdown := false
  failures := []
  reporters := bootstrapTasks
  started := []
  tokensStopped := false

/-- What can happen to the loop. -/
inductive Event
  | elapse (span : Nat)
  | cancel
  | bootstrapEnded (result : Except BootstrapFailure Unit)
  | startTick (kind : EntityKind)
  | finishTick
  | breakOff
  | observeShutdown
  | observeFailure
  | observeClosed

def isWaiting (loop : CollectionLoop) : Bool :=
  match loop.activity with
  | .waiting => true
  | _ => false

def result? (loop : CollectionLoop) : Option (Except BootstrapFailure Unit) :=
  match loop.activity with
  | .ended result => some result
  | _ => none

/-- The loop after its end, whatever the result: the token refresh is stopped
as well. -/
def finish (loop : CollectionLoop) (result : Except BootstrapFailure Unit) : CollectionLoop :=
  { loop with activity := .ended result, tokensStopped := true }

/-- What a bootstrap task reports at its end. -/
def reported : Except BootstrapFailure Unit → List BootstrapFailure
  | .ok () => []
  | .error failure => [failure]

/-- Whether there is nothing left to receive, now or later. -/
def channelClosed (loop : CollectionLoop) : Bool := loop.failures.isEmpty && loop.reporters == 0

/-- The state after an event, if it is possible. -/
def step? (loop : CollectionLoop) : Event → Option CollectionLoop
  | .elapse span => some { loop with clock := loop.clock + span }
  | .cancel => some { loop with shutdown := true }
  | .bootstrapEnded result =>
      match loop.reporters with
      | 0 => none
      | reporters + 1 => some { loop with
          reporters := reporters
          failures := loop.failures ++ reported result }
  | .startTick kind =>
      if loop.isWaiting && (loop.ticker kind).ready loop.clock then
        some { loop with
          activity := .ticking kind
          ticker := fun other =>
            if other = kind then (loop.ticker kind).fire loop.clock else loop.ticker other
          started := (kind, loop.clock) :: loop.started }
      else none
  | .finishTick =>
      match loop.activity with
      | .ticking _ => some { loop with activity := .waiting }
      | _ => none
  | .breakOff =>
      match loop.activity with
      | .ticking _ => some { loop with activity := .broken }
      | _ => none
  | .observeShutdown =>
      if loop.isWaiting && loop.shutdown then some (loop.finish (.ok ())) else none
  | .observeFailure =>
      match loop.isWaiting, loop.failures with
      | true, failure :: rest => some ({ loop with failures := rest }.finish (.error failure))
      | _, _ => none
  | .observeClosed => if loop.isWaiting && loop.channelClosed then some loop else none

/-- The state after a list of events, if each is possible in its turn. -/
def run? : CollectionLoop → List Event → Option CollectionLoop
  | loop, [] => some loop
  | loop, event :: rest =>
      match loop.step? event with
      | some loop => run? loop rest
      | none => none

/-- The state after a list of events, leaving out those that are not possible. -/
def perform (loop : CollectionLoop) (events : List Event) : CollectionLoop :=
  events.foldl (fun loop event => (loop.step? event).getD loop) loop

/-! ## Reports -/

def startedEntry (seconds : EntityKind → Nat) : LogEntry :=
  .info ("Collection loop started (sdc " ++ toString (seconds .sdc) ++ "s, volume " ++
    toString (seconds .volume) ++ "s, storage pool " ++ toString (seconds .storagePool) ++ "s)") []

def endedEntry : Except BootstrapFailure Unit → LogEntry
  | .ok () => .info "Shutdown requested, stopping collection loop" []
  | .error failure => .error ("Bootstrap failure: " ++ failure.message) []

end CollectionLoop
end StorageTelemetry
