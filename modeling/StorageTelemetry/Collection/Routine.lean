import StorageTelemetry.Gateway.Client
import StorageTelemetry.Log

namespace StorageTelemetry

/-!
# Routines

A routine is a sequence of calls made one after another on the clock.  Its
completion says how it ended, when, which calls it made at which moments, and
what it reported.  A call that fails or breaks off ends the routine, unless the
routine attempted it.
-/

/-- What became of a routine. -/
structure Completion (α : Type) where
  outcome : Outcome Fault α
  finish : Instant
  calls : List (Instant × Request)
  log : List LogEntry

/-- A sequential computation that begins at some moment. -/
def Routine (α : Type) := Instant → Completion α

namespace Routine

variable {α β : Type}

/-- A routine that is done at once. -/
def done (value : α) : Routine α := fun now => ⟨.done value, now, [], []⟩

/-- A routine followed by another that depends on its value. -/
def andThen (routine : Routine α) (next : α → Routine β) : Routine β := fun now =>
  let first := routine now
  match first.outcome with
  | .done value =>
      let second := next value first.finish
      { second with calls := first.calls ++ second.calls, log := first.log ++ second.log }
  | .failed fault => ⟨.failed fault, first.finish, first.calls, first.log⟩
  | .panicked panic => ⟨.panicked panic, first.finish, first.calls, first.log⟩

instance : Monad Routine where
  pure := done
  bind := andThen

/-- A routine that fails at once. -/
def fail (fault : Fault) : Routine α := fun now => ⟨.failed fault, now, [], []⟩

def report (entry : LogEntry) : Routine Unit := fun now => ⟨.done (), now, [], [entry]⟩

def ofExcept : Except Fault α → Routine α
  | .ok value => done value
  | .error fault => fail fault

def call (request : Request) (ask : Instant → Reply α) : Routine α := fun now =>
  let reply := ask now
  ⟨reply.outcome, now + reply.delay, [(now, request)], []⟩

/-- A routine whose fault becomes its value. -/
def attempt (routine : Routine α) : Routine (Except Fault α) := fun now =>
  let first := routine now
  let outcome : Outcome Fault (Except Fault α) :=
    match first.outcome with
    | .done value => .done (.ok value)
    | .failed fault => .done (.error fault)
    | .panicked panic => .panicked panic
  ⟨outcome, first.finish, first.calls, first.log⟩

end Routine

/-! ## Calls as routines -/

namespace Client

def askAuthenticate (client : Client) : Routine Unit := .call .authenticate client.authenticate

def askGeneration (client : Client) : Routine Generation := .call .generation client.generation

def askSdcs (client : Client) : Routine (List Sdc) := .call .sdcs client.sdcs

def askSdcVolumes (client : Client) (id : String) : Routine (List Volume) :=
  .call (.sdcVolumes id) (client.sdcVolumes id)

def askSdcStatistics (client : Client) (id : String) : Routine IoCounters :=
  .call (.sdcStatistics id) (client.sdcStatistics id)

def askVolumeStatistics (client : Client) (id : String) : Routine IoCounters :=
  .call (.volumeStatistics id) (client.volumeStatistics id)

def askPools (client : Client) : Routine (List StoragePool) := .call .pools client.pools

def askPoolStatistics (client : Client) (id : String) : Routine PoolCounters :=
  .call (.poolStatistics id) (client.poolStatistics id)

def askBulk (client : Client) (query : BulkQuery) : Routine BulkResponse :=
  .call (.bulk query) (client.bulk query)

end Client
end StorageTelemetry
