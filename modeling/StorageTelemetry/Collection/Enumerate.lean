import StorageTelemetry.Collection.Retriever
import StorageTelemetry.Settings.Inventory
import StorageTelemetry.Text.Lowercase

namespace StorageTelemetry

/-!
# Enumerating entities

A pass begins by finding out which entities there are.  Cluster objects come
from discovery, storage objects from the gateway, and the two are matched:
nodes to data clients by their GUID without regard to case, volumes by their
identifier, and pools by their name.
-/

/-- Lookup of cluster objects by storage driver. -/
structure Discovery where
  nodes : String → Except Fault (List NodeEntry)
  volumes : String → Except Fault (List VolumeEntry)
  storageClasses : String → Except Fault (List StorageClassEntry)

/-- Discovery from a declared inventory, which never fails. -/
def Inventory.discovery (inventory : Inventory) : Discovery where
  nodes driver := .ok (inventory.nodesOf driver)
  volumes driver := .ok (inventory.volumesOf driver)
  storageClasses driver := .ok (inventory.storageClassesOf driver)

/-- What a pass works with. -/
structure CollectionContext where
  client : Client
  discovery : Discovery
  bound : Nat
  drivers : List String

/-- The objects of several drivers, driver by driver.  The first lookup that
fails is the answer. -/
def lookupAll {α : Type} (lookup : String → Except Fault (List α)) :
    List String → Except Fault (List α)
  | [] => .ok []
  | driver :: rest => do
      let found ← lookup driver
      let others ← lookupAll lookup rest
      return found ++ others

/-! ## Data clients -/

/-- Data clients by GUID in lower case; the last of several with one GUID
counts. -/
def sdcsByGuid (sdcs : List Sdc) : Table String Sdc :=
  .ofPairs (sdcs.map fun sdc => (Text.lower sdc.guid, sdc))

/-- The description of a node's data client.  Its address is the node's if the
gateway knows none. -/
def sdcMetaOf (node : NodeEntry) (sdc : Sdc) : SdcMeta where
  id := sdc.id
  name := sdc.name.getD ""
  ip := if sdc.ip.isEmpty then node.ip else sdc.ip
  nodeName := node.name
  storageSystemId := sdc.systemId

/-- Nodes matched to data clients; a node without one is left out. -/
def matchNodes (sdcs : List Sdc) (nodes : List NodeEntry) : List SdcMeta :=
  let known := sdcsByGuid sdcs
  nodes.filterMap fun node =>
    (known.get? (Text.lower node.sdcGuid)).map fun sdc => sdcMetaOf node sdc

/-- The generation of the system and the data clients of all driver nodes. -/
def resolveSdcs (context : CollectionContext) : Routine (Generation × List SdcMeta) := do
  let generation ← context.client.askGeneration
  let nodes ← .ofExcept (lookupAll context.discovery.nodes context.drivers)
  let sdcs ← context.client.askSdcs
  return (generation, matchNodes sdcs nodes)

/-- The data clients to be read in this pass. -/
def enumerateSdcs (context : CollectionContext) : Routine (List SdcRetriever) := do
  let (generation, entities) ← resolveSdcs context
  let batch ← BulkBatch.fetchFor generation context.client "sdc" (entities.map (·.id))
    IoMetrics.bulkNames
  return entities.map fun entity => ⟨entity, generation, batch⟩

/-! ## Volumes -/

/-- The description of a volume at its first mapping.  The declared storage
system counts, and where none is declared, that of the data client. -/
def volumeMetaOf (sdc : SdcMeta) (volume : Volume) (declared : VolumeEntry) : VolumeMeta where
  id := volume.id
  name := volume.name
  storageSystemId :=
    if declared.storageSystemId.isEmpty then sdc.storageSystemId else declared.storageSystemId
  persistentVolume := declared.persistentVolume
  persistentVolumeClaim := declared.persistentVolumeClaim
  namespaceName := declared.namespaceName
  storageClass := declared.storageClass
  mappedNodeIds := [sdc.id]
  mappedNodeIps := [sdc.ip]

def VolumeMeta.addMapping (entity : VolumeMeta) (sdc : SdcMeta) : VolumeMeta :=
  { entity with
    mappedNodeIds := entity.mappedNodeIds ++ [sdc.id]
    mappedNodeIps := entity.mappedNodeIps ++ [sdc.ip] }

/-- Visits a volume in the listing of a data client.  A volume that was
visited before only gets another mapping, and one that no driver manages is
left out. -/
def visitVolume (managed : Table String VolumeEntry) (sdc : SdcMeta)
    (entities : List VolumeMeta) (volume : Volume) : List VolumeMeta :=
  if entities.any (·.id = volume.id) then
    entities.map fun entity => if entity.id = volume.id then entity.addMapping sdc else entity
  else
    match managed.get? volume.id with
    | some declared => entities ++ [volumeMetaOf sdc volume declared]
    | none => entities

def listingFailureEntry (sdc : SdcMeta) (fault : Fault) : LogEntry :=
  .warn "Failed to list volumes mapped to SDC" [("sdc_id", sdc.id), ("error", fault.message)]

/-- Visits the volumes of data clients in order.  A listing that fails costs
only its own data client's mappings. -/
def visitSdcs (client : Client) (managed : Table String VolumeEntry) :
    List SdcMeta → List VolumeMeta → Routine (List VolumeMeta)
  | [], entities => .done entities
  | sdc :: rest, entities => do
      match ← (client.askSdcVolumes sdc.id).attempt with
      | .ok volumes =>
          visitSdcs client managed rest (volumes.foldl (visitVolume managed sdc) entities)
      | .error fault =>
          Routine.report (listingFailureEntry sdc fault)
          visitSdcs client managed rest entities

/-- Declared volumes by identifier; the last of several with one identifier
counts. -/
def volumesById (volumes : List VolumeEntry) : Table String VolumeEntry :=
  .ofPairs (volumes.map fun volume => (volume.volumeId, volume))

/-- The volumes to be read in this pass, each once. -/
def enumerateVolumes (context : CollectionContext) : Routine (List VolumeRetriever) := do
  let (generation, sdcs) ← resolveSdcs context
  let declared ← .ofExcept (lookupAll context.discovery.volumes context.drivers)
  let entities ← visitSdcs context.client (volumesById declared) sdcs []
  let batch ← BulkBatch.fetchFor generation context.client "volume" (entities.map (·.id))
    IoMetrics.bulkNames
  return entities.map fun entity => ⟨entity, generation, batch⟩

/-! ## Storage classes -/

/-- Pools by name; the last of several with one name counts. -/
def poolsByName (pools : List StoragePool) : Table String StoragePool :=
  .ofPairs (pools.map fun pool => (pool.name, pool))

/-- What a name that no pool has reports. -/
def unknownPoolEntry (storageClass : StorageClassEntry) (name : String) : LogEntry :=
  .warn "Storage pool not found on gateway"
    [("storage_class", storageClass.name), ("storage_pool", name)]

/-- The pools that a class is exported with, given those already taken by
itself or an earlier class, and the names that no pool has. -/
def claimPools (known : Table String StoragePool) :
    List String → List String → List StoragePoolMeta × List String × List String
  | taken, [] => ([], taken, [])
  | taken, name :: rest =>
      match known.get? name with
      | some pool =>
          if taken.contains pool.id then claimPools known taken rest
          else
            let (entities, taken, unknown) := claimPools known (taken ++ [pool.id]) rest
            (⟨pool.id, pool.name⟩ :: entities, taken, unknown)
      | none =>
          let (entities, taken, unknown) := claimPools known taken rest
          (entities, taken, name :: unknown)

/-- Classes with the pools they are exported with, the identifiers of all
these pools, and what the unknown names report. -/
def resolveClasses (known : Table String StoragePool) :
    List String → List StorageClassEntry →
      List (StorageClassMeta × List StoragePoolMeta) × List String × List LogEntry
  | taken, [] => ([], taken, [])
  | taken, entry :: rest =>
      let (entities, taken, unknown) := claimPools known taken entry.storagePools
      let (classes, taken, log) := resolveClasses known taken rest
      ((⟨entry.name, entry.driver, entry.storageSystemId⟩, entities) :: classes, taken,
        unknown.map (unknownPoolEntry entry) ++ log)

def sortIds (ids : List String) : List String := ids.mergeSort fun a b => !decide (b < a)

/-- The storage classes to be read in this pass, each pool under one class. -/
def enumerateStorageClasses (context : CollectionContext) : Routine (List StorageClassRetriever) := do
  let generation ← context.client.askGeneration
  let entries ← .ofExcept (lookupAll context.discovery.storageClasses context.drivers)
  let pools ← context.client.askPools
  let (classes, ids, log) := resolveClasses (poolsByName pools) [] entries
  log.forM Routine.report
  let batch ← BulkBatch.fetchFor generation context.client "storage_pool" (sortIds ids)
    CapacityMetrics.bulkNames
  return classes.map fun (storageClass, entities) =>
    ⟨storageClass, entities.map fun entity => ⟨entity, generation, batch⟩⟩

end StorageTelemetry
