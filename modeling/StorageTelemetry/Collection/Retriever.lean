import StorageTelemetry.Collection.BulkBatch
import StorageTelemetry.Entity.Records

namespace StorageTelemetry

/-!
# Retrievers

A retriever stands for one entity that can report statistics during the
current pass.  On a legacy system it asks the gateway; on a bulk system it
looks into the batch that was fetched for the pass.  Either way the figures
come out in the same units.
-/

/-- A data client to be read. -/
structure SdcRetriever where
  entity : SdcMeta
  generation : Generation
  batch : BulkBatch

/-- A volume to be read. -/
structure VolumeRetriever where
  entity : VolumeMeta
  generation : Generation
  batch : BulkBatch

/-- A storage pool to be read. -/
structure PoolRetriever where
  entity : StoragePoolMeta
  generation : Generation
  batch : BulkBatch

/-- A storage class and the pools behind it. -/
structure StorageClassRetriever where
  storageClass : StorageClassMeta
  pools : List PoolRetriever

def SdcRetriever.statistics (retriever : SdcRetriever) (client : Client) : Routine IoStatistics :=
  match retriever.generation with
  | .legacy => return .legacy (← client.askSdcStatistics retriever.entity.id)
  | .bulk => return .bulk (← .ofExcept (retriever.batch.resource retriever.entity.id))

def SdcRetriever.record (retriever : SdcRetriever) (client : Client) : Routine SdcRecord :=
  return ⟨retriever.entity, (← retriever.statistics client).normalize⟩

def VolumeRetriever.statistics (retriever : VolumeRetriever) (client : Client) :
    Routine IoStatistics :=
  match retriever.generation with
  | .legacy => return .legacy (← client.askVolumeStatistics retriever.entity.id)
  | .bulk => return .bulk (← .ofExcept (retriever.batch.resource retriever.entity.id))

def VolumeRetriever.record (retriever : VolumeRetriever) (client : Client) : Routine VolumeRecord :=
  return ⟨retriever.entity, (← retriever.statistics client).normalize⟩

def PoolRetriever.statistics (retriever : PoolRetriever) (client : Client) :
    Routine CapacityStatistics :=
  match retriever.generation with
  | .legacy => return .legacy (← client.askPoolStatistics retriever.entity.id)
  | .bulk => return .bulk (← .ofExcept (retriever.batch.resource retriever.entity.id))

namespace StorageClassRetriever

/-- What a pool that did not answer reports. -/
def skippedEntry (storageClass : StorageClassMeta) (pool : StoragePoolMeta) (fault : Fault) :
    LogEntry :=
  .warn "Skipping storage pool"
    [("storage_pool_id", pool.id), ("storage_class", storageClass.name),
     ("error", fault.message)]

/-- Asks pools in order and keeps the answers, and the last fault. -/
def answers (storageClass : StorageClassMeta) (client : Client) :
    List PoolRetriever → Routine (List PoolCapacity × Option Fault)
  | [] => .done ([], none)
  | pool :: rest => do
      match ← (pool.statistics client).attempt with
      | .ok statistics =>
          let (pools, last) ← answers storageClass client rest
          return (⟨pool.entity, statistics.normalize⟩ :: pools, last)
      | .error fault =>
          Routine.report (skippedEntry storageClass pool.entity fault)
          let (pools, last) ← answers storageClass client rest
          return (pools, last.orElse fun _ => some fault)

/-- The record of a storage class: the pools that answered.  It fails only if
there are pools and none of them answered. -/
def record (retriever : StorageClassRetriever) (client : Client) : Routine StorageClassRecord := do
  let (pools, last) ← answers retriever.storageClass client retriever.pools
  match last with
  | some fault => if pools.isEmpty then .fail fault else return ⟨retriever.storageClass, pools⟩
  | none => return ⟨retriever.storageClass, pools⟩

end StorageClassRetriever
end StorageTelemetry
