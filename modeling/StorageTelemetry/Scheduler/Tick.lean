import StorageTelemetry.Collection.Collect
import StorageTelemetry.Powers
import StorageTelemetry.Settings.Basic

namespace StorageTelemetry

/-!
# Ticks

A tick is one attempt to collect one kind of entities.  Nothing that goes
wrong in it reaches the loop: the outcome says how far the tick came, and the
exporter's own figures keep the account.
-/

/-- What a tick came to.  The last case is a gateway that broke off outside
the work on a single entity. -/
inductive TickOutcome
  | notLeader
  | disabled
  | authFailed
  | failed
  | collected (count : Nat)
  | brokenOff (panic : Panic)
deriving DecidableEq

/-- What ticks work with. -/
structure Scheduler where
  context : CollectionContext
  settings : CollectionSettings

def CollectionSettings.enabled (settings : CollectionSettings) : EntityKind → Bool
  | .sdc => settings.sdcEnabled
  | .volume => settings.volumeEnabled
  | .storagePool => settings.poolEnabled

def CollectionSettings.pollSeconds (settings : CollectionSettings) : EntityKind → UInt64
  | .sdc => settings.sdcInterval
  | .volume => settings.volumeInterval
  | .storagePool => settings.poolInterval

/-- An exporter whose meter serves metrics. -/
abbrev MetricsExporter := Exporter Registry Handle

/-- What a tick did.  The states tell how the exporter looked after each
moment at which it changed. -/
structure Tick where
  outcome : TickOutcome
  finish : Instant
  calls : List (Instant × Request)
  log : List LogEntry
  states : List (Instant × MetricsExporter)
  exporter : MetricsExporter

namespace Tick

/-- A tick that did nothing. -/
def idle (outcome : TickOutcome) (now : Instant) (exporter : MetricsExporter) : Tick :=
  ⟨outcome, now, [], [], [], exporter⟩

/-- What a tick without a usable session reports. -/
def authFailureEntry (kind : EntityKind) (fault : Fault) : LogEntry :=
  .warn "Gateway authentication failed, skipping tick"
    [("kind", kind.label), ("error", fault.message)]

def failureEntry (kind : EntityKind) (fault : Fault) : LogEntry :=
  .warn "Collection failed" [("kind", kind.label), ("error", fault.message)]

end Tick

/-- A span in seconds: whole seconds plus the rest in nanoseconds divided by a
billion. -/
def seconds (span : Nat) : Double :=
  (Double.ofNat (span / 1000)).add ((Double.ofNat (span % 1000 * tenPow 6)).div (.ofNat (tenPow 9)))

/-- Changes the meter of an exporter and leaves its cache alone. -/
def Exporter.withMeter {μ η : Type} (exporter : Exporter μ η) (change : μ → μ) : Exporter μ η :=
  { exporter with meter := change exporter.meter }

/-- The account of a collection that ended after some span. -/
def accountFor (kind : EntityKind) (span : Nat) (result : Except Fault Nat) (registry : Registry) :
    Registry :=
  let registry := registry.setDuration kind (seconds span)
  match result with
  | .ok count => registry.setCollected kind (.ofNat count)
  | .error _ => registry.countFailure kind

namespace Scheduler

/-- The part of a tick that follows a successful authentication. -/
def collectNow (scheduler : Scheduler) (kind : EntityKind) (now : Instant)
    (exporter : MetricsExporter) : Tick :=
  let exporter := exporter.withMeter (·.setUp .one)
  let pass := collect scheduler.context kind now exporter
  let states := (now, exporter) :: pass.states
  let close := fun (outcome : TickOutcome) (result : Except Fault Nat) (log : List LogEntry) =>
    let final := pass.exporter.withMeter (accountFor kind (pass.finish - now) result)
    (⟨outcome, pass.finish, pass.calls, pass.log ++ log, states ++ [(pass.finish, final)], final⟩ :
      Tick)
  match pass.result with
  | .done count => close (.collected count) (.ok count) []
  | .failed fault => close .failed (.error fault) [Tick.failureEntry kind fault]
  | .panicked panic =>
      ⟨.brokenOff panic, pass.finish, pass.calls, pass.log, states, pass.exporter⟩

/-- One tick of a kind.  Leadership is looked at first, then whether the kind
is enabled, and only then is the gateway asked for anything. -/
def tick (scheduler : Scheduler) (leads : Bool) (kind : EntityKind) (now : Instant)
    (exporter : MetricsExporter) : Tick :=
  if !leads then .idle .notLeader now exporter
  else if !scheduler.settings.enabled kind then .idle .disabled now exporter
  else
    let session := scheduler.context.client.askAuthenticate now
    match session.outcome with
    | .done () =>
        let tick := scheduler.collectNow kind session.finish exporter
        { tick with calls := session.calls ++ tick.calls }
    | .failed fault =>
        let final := exporter.withMeter (·.setUp .zero)
        ⟨.authFailed, session.finish, session.calls, [Tick.authFailureEntry kind fault],
          [(session.finish, final)], final⟩
    | .panicked panic => ⟨.brokenOff panic, session.finish, session.calls, [], [], exporter⟩

end Scheduler
end StorageTelemetry
