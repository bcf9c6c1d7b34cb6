import StorageTelemetry.Document.Readable

namespace StorageTelemetry

/-!
# Inventory

The cluster objects that belong to a storage driver, as the settings declare
them.  A lookup keeps the objects of one driver, in the order in which they
were declared; the name of the driver is compared exactly.
-/

/-- A declared cluster node. -/
structure NodeEntry where
  name : String
  sdcGuid : String
  ip : String
  driver : String
deriving DecidableEq

/-- A declared persistent volume. -/
structure VolumeEntry where
  volumeId : String
  persistentVolume : String
  persistentVolumeClaim : String
  namespaceName : String
  storageClass : String
  storageSystemId : String
  driver : String
deriving DecidableEq

/-- A declared storage class and the names of the pools it draws from. -/
structure StorageClassEntry where
  name : String
  driver : String
  storageSystemId : String
  storagePools : List String
deriving DecidableEq

/-- All declared cluster objects. -/
structure Inventory where
  nodes : List NodeEntry
  volumes : List VolumeEntry
  storageClasses : List StorageClassEntry
deriving DecidableEq

namespace Inventory

/-- An inventory without objects. -/
def empty : Inventory := ⟨[], [], []⟩

def nodesOf (inventory : Inventory) (driver : String) : List NodeEntry :=
  inventory.nodes.filter (·.driver = driver)

def volumesOf (inventory : Inventory) (driver : String) : List VolumeEntry :=
  inventory.volumes.filter (·.driver = driver)

def storageClassesOf (inventory : Inventory) (driver : String) : List StorageClassEntry :=
  inventory.storageClasses.filter (·.driver = driver)

end Inventory

/-! ## Reading -/

section

variable {ν : Type} [Readable ν]

def NodeEntry.read (document : ν) : Except Mismatch NodeEntry := do
  let record ← Readable.record "struct NodeEntry" ["name", "sdc_guid", "ip", "driver"] document
  let name ← record.read? "name" Readable.text
  let sdcGuid ← record.read? "sdc_guid" Readable.text
  let ip ← record.read "ip" Readable.text ""
  let driver ← record.read? "driver" Readable.text
  let name ← record.require "name" name
  let sdcGuid ← record.require "sdc_guid" sdcGuid
  let driver ← record.require "driver" driver
  return { name, sdcGuid, ip, driver }

def VolumeEntry.read (document : ν) : Except Mismatch VolumeEntry := do
  let record ← Readable.record "struct VolumeEntry"
    ["volume_id", "persistent_volume", "persistent_volume_claim", "namespace", "storage_class",
     "storage_system_id", "driver"] document
  let volumeId ← record.read? "volume_id" Readable.text
  let persistentVolume ← record.read? "persistent_volume" Readable.text
  let persistentVolumeClaim ← record.read "persistent_volume_claim" Readable.text ""
  let namespaceName ← record.read "namespace" Readable.text ""
  let storageClass ← record.read "storage_class" Readable.text ""
  let storageSystemId ← record.read "storage_system_id" Readable.text ""
  let driver ← record.read? "driver" Readable.text
  let volumeId ← record.require "volume_id" volumeId
  let persistentVolume ← record.require "persistent_volume" persistentVolume
  let driver ← record.require "driver" driver
  return { volumeId, persistentVolume, persistentVolumeClaim, namespaceName, storageClass,
           storageSystemId, driver }

def StorageClassEntry.read (document : ν) : Except Mismatch StorageClassEntry := do
  let record ← Readable.record "struct StorageClassEntry"
    ["name", "driver", "storage_system_id", "storage_pools"] document
  let name ← record.read? "name" Readable.text
  let driver ← record.read? "driver" Readable.text
  let storageSystemId ← record.read "storage_system_id" Readable.text ""
  let storagePools ← record.read "storage_pools" (Readable.list Readable.text) []
  let name ← record.require "name" name
  let driver ← record.require "driver" driver
  return { name, driver, storageSystemId, storagePools }

def Inventory.read (document : ν) : Except Mismatch Inventory := do
  let record ← Readable.record "struct InventoryConfig"
    ["nodes", "volumes", "storage_classes"] document
  let nodes ← record.read "nodes" (Readable.list NodeEntry.read) []
  let volumes ← record.read "volumes" (Readable.list VolumeEntry.read) []
  let storageClasses ← record.read "storage_classes" (Readable.list StorageClassEntry.read) []
  return { nodes, volumes, storageClasses }

end

end StorageTelemetry
