import StorageTelemetry.Cache.Meter
import StorageTelemetry.Cache.Series
import StorageTelemetry.Log

namespace StorageTelemetry

/-!
# The instrument cache

The cache keeps, for every entity that was ever recorded, the labels of its
series and the instruments behind them.  Recording an entity again with the
same labels only sets values.  When a label changed, all series are made anew
under the new labels before the old ones are retired, so a failure leaves the
old set in place.  Entities are never removed.
-/

/-- The instruments of one entity and the labels they carry. -/
structure InstrumentSet (η : Type) where
  labels : LabelSet
  instruments : List η
deriving DecidableEq

/-- Instrument sets by kind and identifier. -/
structure Cache (η : Type) where
  sets : Table (EntityKind × String) (InstrumentSet η)
deriving DecidableEq

section

variable {μ η : Type} [Meter μ η]

def retireAll (meter : μ) (instruments : List η) : μ := instruments.foldl Meter.retire meter

def setAll (meter : μ) (instruments : List η) (values : List Double) : μ :=
  (instruments.zip values).foldl (fun meter (instrument, value) => Meter.set meter instrument value)
    meter

/-- Creates the series of an entity in order.  If one is refused, those
already made are retired again. -/
def createAll (kind : EntityKind) (labels : LabelSet) :
    List SeriesSpec → List η → μ → Except Fault (List η) × μ
  | [], made, meter => (.ok made, meter)
  | spec :: rest, made, meter =>
      match Meter.create meter (kind.seriesName spec) spec.help labels with
      | (.ok instrument, meter) => createAll kind labels rest (made ++ [instrument]) meter
      | (.error fault, meter) => (.error fault, retireAll meter made)

def InstrumentSet.create (kind : EntityKind) (labels : LabelSet) (meter : μ) :
    Except Fault (InstrumentSet η) × μ :=
  match createAll kind labels kind.series [] meter with
  | (.ok instruments, meter) => (.ok ⟨labels, instruments⟩, meter)
  | (.error fault, meter) => (.error fault, meter)

/-- The cache together with the meter it writes to. -/
structure Exporter (μ η : Type) where
  cache : Cache η
  meter : μ

namespace Cache

/-- A cache without entities. -/
def empty : Cache η := ⟨.empty⟩

def labels? (cache : Cache η) (kind : EntityKind) (id : String) : Option LabelSet :=
  (cache.sets.get? (kind, id)).map (·.labels)

def count (cache : Cache η) (kind : EntityKind) : Nat :=
  (cache.sets.entries.filter fun entry => entry.1.1 = kind).length

end Cache

namespace Exporter

/-- An exporter that has recorded nothing. -/
def start (meter : μ) : Exporter μ η := ⟨.empty, meter⟩

/-- Puts an instrument set into the cache and sets its values. -/
def adopt (exporter : Exporter μ η) (kind : EntityKind) (id : String) (set : InstrumentSet η)
    (values : List Double) : Exporter μ η :=
  { cache := ⟨exporter.cache.sets.put (kind, id) set⟩
    meter := setAll exporter.meter set.instruments values }

/-- Records the figures of one entity under its labels. -/
def record (exporter : Exporter μ η) (kind : EntityKind) (id : String) (labels : LabelSet)
    (values : List Double) : Except Fault Unit × Exporter μ η :=
  match exporter.cache.sets.get? (kind, id) with
  | some set =>
      if set.labels = labels then
        (.ok (), { exporter with meter := setAll exporter.meter set.instruments values })
      else
        match InstrumentSet.create kind labels exporter.meter with
        | (.ok fresh, meter) =>
            let exporter := { exporter with meter := retireAll meter set.instruments }
            (.ok (), exporter.adopt kind id fresh values)
        | (.error fault, meter) => (.error fault, { exporter with meter })
  | none =>
      match InstrumentSet.create kind labels exporter.meter with
      | (.ok fresh, meter) => (.ok (), { exporter with meter }.adopt kind id fresh values)
      | (.error fault, meter) => (.error fault, { exporter with meter })

def recordSdc (exporter : Exporter μ η) (record : SdcRecord) :
    Except Fault Unit × Exporter μ η :=
  exporter.record .sdc record.entity.id record.entity.labels record.metrics.values

def recordVolume (exporter : Exporter μ η) (record : VolumeRecord) :
    Except Fault Unit × Exporter μ η :=
  exporter.record .volume record.entity.id record.entity.labels record.metrics.values

def recordPool (exporter : Exporter μ η) (storageClass : StorageClassMeta) (pool : PoolCapacity) :
    Except Fault Unit × Exporter μ η :=
  exporter.record .storagePool pool.entity.id (pool.entity.labels storageClass)
    pool.metrics.values

/-- What a pool that could not be recorded reports. -/
def poolFailureEntry (storageClass : StorageClassMeta) (pool : PoolCapacity) (fault : Fault) :
    LogEntry :=
  .warn "Failed to record storage pool capacity"
    [("storage_pool_id", pool.entity.id), ("storage_class", storageClass.name),
     ("error", fault.message)]

/-- Records pools one by one, whatever happened to the ones before, and
collects the faults. -/
def recordPools (storageClass : StorageClassMeta) :
    List PoolCapacity → Exporter μ η → List (PoolCapacity × Fault) × Exporter μ η
  | [], exporter => ([], exporter)
  | pool :: rest, exporter =>
      match exporter.recordPool storageClass pool with
      | (.ok (), exporter) => recordPools storageClass rest exporter
      | (.error fault, exporter) =>
          let (faults, exporter) := recordPools storageClass rest exporter
          ((pool, fault) :: faults, exporter)

/-- Records every pool of a storage class.  The answer is the fault of the
first pool that failed, if one did. -/
def recordCapacity (exporter : Exporter μ η) (record : StorageClassRecord) :
    Except Fault Unit × Exporter μ η × List LogEntry :=
  let (faults, exporter) := recordPools record.storageClass record.pools exporter
  let log := faults.map fun (pool, fault) => poolFailureEntry record.storageClass pool fault
  match faults with
  | [] => (.ok (), exporter, log)
  | (_, fault) :: _ => (.error fault, exporter, log)

end Exporter
end

end StorageTelemetry
