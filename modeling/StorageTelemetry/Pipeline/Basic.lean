import StorageTelemetry.Pipeline.Gather

namespace StorageTelemetry

/-!
# The collection pipeline

Records that the gather stage emits are received one by one, and each is
handed to a sink by a task of its own.  A sink call either gives an
identifier, which is sent on and read at the end, or reports why it does not.
The reader may go away; records still reach the sink.

Like the gather stage, the pipeline is a transition system whose driver
chooses the order of moves.  Sink calls work on a shared state, one at a time.
-/

/-- A sink: what a record does to the shared state, how the call ends, and
what it reports. -/
abbrev Sink (ρ σ : Type) := ρ → σ → Outcome String String × σ × List LogEntry

/-- The state of a pipeline. -/
structure Pipeline (ι ρ σ : Type) where
  gather : Gather ι ρ
  tasks : List ρ
  shared : σ
  sent : List String
  drained : List String
  readerOpen : Bool
  log : List LogEntry

namespace Pipeline

variable {ι ρ σ : Type}

def start (bound : Nat) (items : List ι) (shared : σ) : Pipeline ι ρ σ where
  gather := .start bound items
  tasks := []
  shared := shared
  sent := []
  drained := []
  readerOpen := true
  log := []

/-- A move: of a gather worker, of the receiver that makes tasks, of one task,
or of the reader. -/
inductive Action
  | gather (action : Gather.Action)
  | receive
  | push (task : Nat)
  | read
  | dropReader
deriving DecidableEq

def failureEntry (stage reason : String) : LogEntry :=
  .warn "Dropping record after push failure" [("stage", stage), ("error", reason)]

def panicEntry (stage : String) (panic : Panic) : LogEntry :=
  .error "Recovered from panic in push worker" [("stage", stage), ("panic", panic.text)]

/-- The effect of the end of a sink call.  An identifier is lost if nobody
reads any more. -/
def conclude (stage : String) (state : Pipeline ι ρ σ) : Outcome String String → Pipeline ι ρ σ
  | .done id => if state.readerOpen then { state with sent := state.sent ++ [id] } else state
  | .failed reason => { state with log := state.log ++ [failureEntry stage reason] }
  | .panicked panic => { state with log := state.log ++ [panicEntry stage panic] }

/-- The names under which the two stages report. -/
structure Stages where
  gather : String
  push : String

/-- The state after a move, if the move is possible. -/
def step? (stages : Stages) (work : ι → Outcome String ρ) (sink : Sink ρ σ)
    (state : Pipeline ι ρ σ) : Action → Option (Pipeline ι ρ σ)
  | .gather action =>
      (state.gather.step? stages.gather work action).map fun gather => { state with gather }
  | .receive =>
      match state.gather.output with
      | record :: rest =>
          some { state with
            gather := { state.gather with output := rest }
            tasks := state.tasks ++ [record] }
      | [] => none
  | .push task =>
      match state.tasks[task]? with
      | some record =>
          let (outcome, shared, log) := sink record state.shared
          let state := { state with
            tasks := state.tasks.eraseIdx task
            shared := shared
            log := state.log ++ log }
          some (conclude stages.push state outcome)
      | none => none
  | .read =>
      match state.readerOpen, state.sent with
      | true, id :: rest => some { state with sent := rest, drained := state.drained ++ [id] }
      | _, _ => none
  | .dropReader => some { state with readerOpen := false, sent := [] }

/-- The state after a list of moves, if each is possible in its turn. -/
def run? (stages : Stages) (work : ι → Outcome String ρ) (sink : Sink ρ σ) :
    Pipeline ι ρ σ → List Action → Option (Pipeline ι ρ σ)
  | state, [] => some state
  | state, action :: rest =>
      match state.step? stages work sink action with
      | some state => run? stages work sink state rest
      | none => none

/-- Whether everything that can happen has happened: all workers stopped, all
records pushed, and nothing left to read. -/
def finished (state : Pipeline ι ρ σ) : Bool :=
  state.gather.closed && state.gather.output.isEmpty && state.tasks.isEmpty && state.sent.isEmpty

/-- The state after a move, or the same state if the move is not possible. -/
def perform (stages : Stages) (work : ι → Outcome String ρ) (sink : Sink ρ σ)
    (state : Pipeline ι ρ σ) (action : Action) : Pipeline ι ρ σ :=
  (state.step? stages work sink action).getD state

def fullLog (state : Pipeline ι ρ σ) : List LogEntry := state.gather.log ++ state.log

end Pipeline
end StorageTelemetry
