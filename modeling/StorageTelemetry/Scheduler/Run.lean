import StorageTelemetry.Clock.Timeline
import StorageTelemetry.Scheduler.Loop
import StorageTelemetry.Scheduler.Tick

namespace StorageTelemetry

/-!
# The collection loop on a clock

Here the loop runs with real ticks.  Whatever is ready is taken at once.  The
loop looks at its branches in turn and goes on behind the ticker that it served
last, so no ticker can keep the others waiting.  When nothing is ready, the
clock goes on to the next moment at which something is.
-/

/-- What the loop meets while it runs. -/
structure Surroundings where
  leads : Instant → Bool
  shutdownAt : Option Instant
  failures : List BootstrapFailure

/-- A run up to some moment. -/
structure LoopRun where
  loop : CollectionLoop
  exporter : MetricsExporter
  history : Timeline MetricsExporter
  calls : List (Instant × Request)
  log : List LogEntry

namespace LoopRun

/-- The run at its start, with bootstrap failures already reported. -/
def start (scheduler : Scheduler) (surroundings : Surroundings) (exporter : MetricsExporter) :
    LoopRun :=
  let seconds := fun kind => (scheduler.settings.pollSeconds kind).toNat
  let loop := CollectionLoop.start fun kind => secondsSpan (seconds kind)
  { loop := loop.perform (surroundings.failures.map fun failure => .bootstrapEnded (.error failure))
    exporter := exporter
    history := ⟨exporter, []⟩
    calls := []
    log := [CollectionLoop.startedEntry seconds] }

/-- The loop after the clock has gone on to a moment.  A shutdown requested by
then has happened. -/
def passTo (surroundings : Surroundings) (moment : Instant) (loop : CollectionLoop) :
    CollectionLoop :=
  match surroundings.shutdownAt with
  | some time =>
      if time ≤ moment then
        loop.perform [.elapse (time - loop.clock), .cancel, .elapse (moment - max time loop.clock)]
      else loop.perform [.elapse (moment - loop.clock)]
  | none => loop.perform [.elapse (moment - loop.clock)]

/-- What the waiting loop looks at. -/
inductive Branch
  | shutdown
  | failure
  | ticker (kind : EntityKind)

/-- The branches in the order in which a loop looks at them that has not served
a ticker yet. -/
def branches : List Branch :=
  [.shutdown, .failure, .ticker .sdc, .ticker .volume, .ticker .storagePool]

/-- How many of the branches there are up to the ticker of a kind. -/
def turnsTo : EntityKind → Nat
  | .sdc => 3
  | .volume => 4
  | .storagePool => 5

/-- The branches in the order in which the loop looks at them next. -/
def branchOrder (loop : CollectionLoop) : List Branch :=
  match loop.started with
  | [] => branches
  | (kind, _) :: _ => branches.rotateLeft (turnsTo kind)

/-- The next moment at which the waiting loop has something to look at. -/
def nextMoment (surroundings : Surroundings) (loop : CollectionLoop) : Instant :=
  let due := [(loop.ticker .volume).due, (loop.ticker .storagePool).due].foldl min
    (loop.ticker .sdc).due
  match surroundings.shutdownAt with
  | some time => if loop.shutdown then due else min due time
  | none => due

/-- A run after one whole tick of a kind. -/
def afterTick (scheduler : Scheduler) (surroundings : Surroundings) (run : LoopRun)
    (kind : EntityKind) : LoopRun :=
  let tick := scheduler.tick (surroundings.leads run.loop.clock) kind run.loop.clock run.exporter
  let last : CollectionLoop.Event := match tick.outcome with
    | .brokenOff _ => .breakOff
    | _ => .finishTick
  let loop := run.loop.perform [.startTick kind]
  { loop := (passTo surroundings tick.finish loop).perform [last]
    exporter := tick.exporter
    history := { run.history with changes := run.history.changes ++ tick.states }
    calls := run.calls ++ tick.calls
    log := run.log ++ tick.log }

/-- The run after the loop has ended with a result. -/
def ended (run : LoopRun) (event : CollectionLoop.Event)
    (result : Except BootstrapFailure Unit) : LoopRun :=
  { run with
    loop := run.loop.perform [event]
    log := run.log ++ [CollectionLoop.endedEntry result] }

/-- The run after the loop has taken a branch, if the branch is ready. -/
def take? (scheduler : Scheduler) (surroundings : Surroundings) (run : LoopRun) :
    Branch → Option LoopRun
  | .shutdown => if run.loop.shutdown then some (run.ended .observeShutdown (.ok ())) else none
  | .failure =>
      match run.loop.failures with
      | failure :: _ => some (run.ended .observeFailure (.error failure))
      | [] => none
  | .ticker kind =>
      if (run.loop.ticker kind).ready run.loop.clock then
        some (run.afterTick scheduler surroundings kind)
      else none

/-- The run after the clock of a loop with nothing to take has gone on. -/
def wait (surroundings : Surroundings) (run : LoopRun) : LoopRun :=
  { run with loop := passTo surroundings (nextMoment surroundings run.loop) run.loop }

/-- The next stage of a run, or nothing if the loop has ended. -/
def next? (scheduler : Scheduler) (surroundings : Surroundings) (run : LoopRun) :
    Option LoopRun :=
  if run.loop.isWaiting then
    some (((branchOrder run.loop).findSome? (run.take? scheduler surroundings)).getD
      (run.wait surroundings))
  else none

/-- Runs until the loop ends, in at most a number of stages. -/
def toEnd (scheduler : Scheduler) (surroundings : Surroundings) : Nat → LoopRun → LoopRun
  | 0, run => run
  | stages + 1, run =>
      match run.next? scheduler surroundings with
      | some run => toEnd scheduler surroundings stages run
      | none => run

def callsBy (run : LoopRun) (moment : Instant) : List (Instant × Request) :=
  run.calls.filter fun call => call.1 ≤ moment

/-- Whether the loop had not ended at a moment. -/
def runningAt (run : LoopRun) (moment : Instant) : Bool :=
  match run.loop.result? with
  | some _ => moment < run.loop.clock
  | none => true

end LoopRun
end StorageTelemetry
