import StorageTelemetry.Clock.Ticker
import StorageTelemetry.Pipeline.Basic

namespace StorageTelemetry

/-!
# The pipeline on a clock

When work takes time, items start in the order of the list, each as soon as
some worker is free.  The jobs that result are turned into moves of the
pipeline in order of time, so a run on the clock is one of the runs of the
transition system.
-/

/-- One item's computation on the clock. -/
structure Job (ι β : Type) where
  item : ι
  worker : Nat
  start : Instant
  finish : Instant
  result : β

namespace Job

variable {ι β : Type}

/-- The position and value of the smallest element, the first of several. -/
def earliest : List Instant → Nat × Instant
  | [] => (0, 0)
  | [time] => (0, time)
  | time :: next :: rest =>
      let (index, best) := earliest (next :: rest)
      if time ≤ best then (0, time) else (index + 1, best)

/-- Jobs for items in order.  The list gives the moment from which each worker
is free. -/
def assign (work : Instant → ι → Instant × β) : List Instant → List ι → List (Job ι β)
  | _, [] => []
  | free, item :: rest =>
      let (worker, start) := earliest free
      let (finish, result) := work start item
      ⟨item, worker, start, finish, result⟩ :: assign work (free.set worker finish) rest

/-- Jobs for items on a bounded number of workers that are free from `now`. -/
def schedule (bound : Nat) (now : Instant) (work : Instant → ι → Instant × β) (items : List ι) :
    List (Job ι β) :=
  assign work (List.replicate (Gather.workerCount bound items.length) now) items

/-- The moment at which the last of some jobs ends, or `now` if there is none. -/
def lastFinish (now : Instant) (jobs : List (Job ι β)) : Instant :=
  jobs.foldl (fun latest job => max latest job.finish) now

/-- The largest number of jobs under way at once. -/
def peak (jobs : List (Job ι β)) : Nat :=
  jobs.foldl (fun most job =>
    max most (jobs.countP fun other => other.start ≤ job.start && job.start < other.finish)) 0

def moves (job : Job ι β) : List (Instant × Gather.Action) :=
  [(job.start, .take job.worker), (job.finish, .finish job.worker)]

/-- The moves of all jobs in order of time.  Moves at the same moment keep the
order of the items, so a worker ends one job before it takes the next. -/
def timeline (jobs : List (Job ι β)) : List (Instant × Gather.Action) :=
  (jobs.flatMap moves).mergeSort fun a b => a.1 ≤ b.1

end Job

namespace Pipeline

variable {ι ρ σ : Type}

/-- The moves that follow a gather move at once: whatever it emitted is
received, pushed and read. -/
def withFollowUp (action : Gather.Action) : List Action :=
  [.gather action, .receive, .push 0, .read]

/-- The states of a run along timed gather moves, each with its moment. -/
def statesAlong (stages : Stages) (work : ι → Outcome String ρ) (sink : Sink ρ σ) :
    Pipeline ι ρ σ → List (Instant × Gather.Action) → List (Instant × Pipeline ι ρ σ)
  | _, [] => []
  | state, (time, action) :: rest =>
      let state := (withFollowUp action).foldl (perform stages work sink) state
      (time, state) :: statesAlong stages work sink state rest

/-- The last state of a run. -/
def lastState (initial : Pipeline ι ρ σ) (states : List (Instant × Pipeline ι ρ σ)) :
    Pipeline ι ρ σ :=
  (states.getLast?.map (·.2)).getD initial

end Pipeline
end StorageTelemetry
