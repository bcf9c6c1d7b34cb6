import StorageTelemetry.Cache.Basic
import StorageTelemetry.Collection.Enumerate
import StorageTelemetry.Pipeline.Schedule

namespace StorageTelemetry

/-!
# Collecting

A pass over one kind of entities: enumerate, gather records with bounded
concurrency, and push each record to the exporter.  Enumeration decides
whether there is a pass at all; after it, what happens to one entity costs
only that entity.
-/

/-- What a pass did.  The states tell how the exporter looked after each
moment at which a record was pushed. -/
structure Pass (μ η : Type) where
  result : Outcome Fault Nat
  finish : Instant
  calls : List (Instant × Request)
  log : List LogEntry
  states : List (Instant × Exporter μ η)
  exporter : Exporter μ η

section

variable {μ η : Type} [Meter μ η]

/-- A sink from a recording operation and the identifier it gives. -/
def recordSink {ρ : Type} (id : ρ → String)
    (store : Exporter μ η → ρ → Except Fault Unit × Exporter μ η × List LogEntry) :
    Sink ρ (Exporter μ η) := fun record exporter =>
  let (answer, exporter, log) := store exporter record
  ((Outcome.ofExcept answer).mapReason Fault.message |>.map fun _ => id record, exporter, log)

def sdcSink : Sink SdcRecord (Exporter μ η) :=
  recordSink (·.entity.id) fun exporter record =>
    let (answer, exporter) := exporter.recordSdc record
    (answer, exporter, [])

def volumeSink : Sink VolumeRecord (Exporter μ η) :=
  recordSink (·.entity.id) fun exporter record =>
    let (answer, exporter) := exporter.recordVolume record
    (answer, exporter, [])

def storageClassSink : Sink StorageClassRecord (Exporter μ η) :=
  recordSink (·.storageClass.name) fun exporter record => exporter.recordCapacity record

/-- A job of the gather stage. -/
abbrev GatherJob (ι ρ : Type) := Job ι (Completion ρ)

/-- The end of a job as the pipeline sees it. -/
def GatherJob.outcome {ι ρ : Type} (job : GatherJob ι ρ) : Outcome String ρ :=
  job.result.outcome.mapReason Fault.message

def updatedEntry (kind : EntityKind) (pushed total : Nat) : LogEntry :=
  let what := match kind with
    | .sdc => "SDCs"
    | .volume => "volumes"
    | .storagePool => "storage classes"
  let name := match kind with
    | .sdc => "sdc"
    | .volume => "volume"
    | .storagePool => "storage pool"
  .info ("Updated " ++ name ++ " metrics for " ++ toString pushed ++ "/" ++ toString total ++
    " " ++ what) []

/-- Gathers records for items and pushes them, on the clock. -/
def runPipeline {ι ρ : Type} (kind : EntityKind) (bound : Nat) (work : ι → Routine ρ)
    (sink : Sink ρ (Exporter μ η)) (items : List ι) (now : Instant) (exporter : Exporter μ η) :
    Pass μ η :=
  let jobs : List (GatherJob ι ρ) := Job.schedule bound now
    (fun start item => let completion := work item start; (completion.finish, completion)) items
  let stages : Pipeline.Stages := ⟨kind.label, kind.label⟩
  let initial : Pipeline (GatherJob ι ρ) ρ (Exporter μ η) := .start bound jobs exporter
  let states := Pipeline.statesAlong stages GatherJob.outcome sink initial (Job.timeline jobs)
  let last := Pipeline.lastState initial states
  { result := .done last.drained.length
    finish := Job.lastFinish now jobs
    calls := jobs.flatMap fun job => job.result.calls
    log := jobs.flatMap (fun job => job.result.log) ++ last.fullLog ++
      [updatedEntry kind last.drained.length items.length]
    states := states.map fun (time, state) => (time, state.shared)
    exporter := last.shared }

/-- Pushes the record of a pass without volumes. -/
def pushKeepAlive (now : Instant) (exporter : Exporter μ η) : Pass μ η :=
  let stages : Pipeline.Stages := ⟨EntityKind.volume.label, EntityKind.volume.label⟩
  let initial : Pipeline Unit VolumeRecord (Exporter μ η) := .start 1 [] exporter
  let initial := { initial with gather := { initial.gather with output := [.keepAlive] } }
  let last := [Pipeline.Action.receive, .push 0, .read].foldl
    (Pipeline.perform stages (fun _ => .done .keepAlive) volumeSink) initial
  { result := .done last.drained.length
    finish := now
    calls := []
    log := last.fullLog ++ [updatedEntry .volume last.drained.length 0]
    states := [(now, last.shared)]
    exporter := last.shared }

/-- Enumerates, and goes on with what was found. -/
def afterEnumeration {ι : Type} (enumerate : Routine (List ι))
    (rest : List ι → Instant → Exporter μ η → Pass μ η) (now : Instant)
    (exporter : Exporter μ η) : Pass μ η :=
  let found := enumerate now
  match found.outcome with
  | .done items =>
      let pass := rest items found.finish exporter
      { pass with calls := found.calls ++ pass.calls, log := found.log ++ pass.log }
  | .failed fault => ⟨.failed fault, found.finish, found.calls, found.log, [], exporter⟩
  | .panicked panic => ⟨.panicked panic, found.finish, found.calls, found.log, [], exporter⟩

def collectSdcs (context : CollectionContext) : Instant → Exporter μ η → Pass μ η :=
  afterEnumeration (enumerateSdcs context)
    (runPipeline .sdc context.bound (·.record context.client) sdcSink)

/-- A pass over the volumes.  One that finds none still pushes a record. -/
def collectVolumes (context : CollectionContext) : Instant → Exporter μ η → Pass μ η :=
  afterEnumeration (enumerateVolumes context) fun retrievers =>
    if retrievers.isEmpty then pushKeepAlive
    else runPipeline .volume context.bound (·.record context.client) volumeSink retrievers

def collectStorageClasses (context : CollectionContext) : Instant → Exporter μ η → Pass μ η :=
  afterEnumeration (enumerateStorageClasses context)
    (runPipeline .storagePool context.bound (·.record context.client) storageClassSink)

def collect (context : CollectionContext) : EntityKind → Instant → Exporter μ η → Pass μ η
  | .sdc => collectSdcs context
  | .volume => collectVolumes context
  | .storagePool => collectStorageClasses context

end

end StorageTelemetry
