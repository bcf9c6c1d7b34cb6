import StorageTelemetry.Log
import StorageTelemetry.Pipeline.Outcome

namespace StorageTelemetry

/-!
# The gather stage

A fixed number of workers share one queue of items.  A worker that is free
takes the next item, computes a record from it, and either emits the record or
reports why there is none.  When the queue is empty a free worker stops, and
the output is closed once all have stopped.

The stage is a transition system: which worker moves next is the choice of
whoever drives it, so statements about all interleavings are statements about
all lists of actions.
-/

/-- What a worker is doing. -/
inductive Worker (ι : Type)
  | free
  | busy (item : ι)
  | stopped
deriving DecidableEq

/-- The state of the stage.  The output holds the records that were emitted
and not yet received. -/
structure Gather (ι ρ : Type) where
  queue : List ι
  workers : List (Worker ι)
  output : List ρ
  log : List LogEntry
deriving DecidableEq

namespace Gather

variable {ι ρ : Type}

/-- The number of workers for a requested bound and a number of items: at
least one, and no more than there are items. -/
def workerCount (bound items : Nat) : Nat := min (max bound 1) (max items 1)

def start (bound : Nat) (items : List ι) : Gather ι ρ where
  queue := items
  workers := List.replicate (workerCount bound items.length) .free
  output := []
  log := []

/-- A move of one worker. -/
inductive Action
  | take (worker : Nat)
  | finish (worker : Nat)
  | stop (worker : Nat)
deriving DecidableEq

def failureEntry (stage : String) (worker : Nat) (reason : String) : LogEntry :=
  .warn "Dropping item after gather failure"
    [("stage", stage), ("worker", toString worker), ("error", reason)]

def panicEntry (stage : String) (worker : Nat) (panic : Panic) : LogEntry :=
  .error "Recovered from panic in gather worker"
    [("stage", stage), ("worker", toString worker), ("panic", panic.text)]

/-- The effect of an outcome on the output and the log. -/
def conclude (stage : String) (state : Gather ι ρ) (worker : Nat) :
    Outcome String ρ → Gather ι ρ
  | .done record => { state with output := state.output ++ [record] }
  | .failed reason => { state with log := state.log ++ [failureEntry stage worker reason] }
  | .panicked panic => { state with log := state.log ++ [panicEntry stage worker panic] }

/-- The state after a move, if the move is possible. -/
def step? (stage : String) (work : ι → Outcome String ρ) (state : Gather ι ρ) :
    Action → Option (Gather ι ρ)
  | .take worker =>
      match state.workers[worker]?, state.queue with
      | some .free, item :: rest =>
          some { state with queue := rest, workers := state.workers.set worker (.busy item) }
      | _, _ => none
  | .finish worker =>
      match state.workers[worker]? with
      | some (.busy item) =>
          let state := { state with workers := state.workers.set worker .free }
          some (conclude stage state worker (work item))
      | _ => none
  | .stop worker =>
      match state.workers[worker]?, state.queue with
      | some .free, [] => some { state with workers := state.workers.set worker .stopped }
      | _, _ => none

def closed (state : Gather ι ρ) : Bool :=
  state.workers.all fun worker => match worker with
    | .stopped => true
    | _ => false

def inFlight (state : Gather ι ρ) : Nat :=
  state.workers.countP fun worker => match worker with
    | .busy _ => true
    | _ => false

end Gather
end StorageTelemetry
