import StorageTelemetry.LabelSet
import StorageTelemetry.Normalization

namespace StorageTelemetry

/-!
# Records of collected entities

A record is what one pass learned about an entity: the descriptive texts that
become labels, and its normalized figures.  A record is made by gathering and
used once, by the instrument cache.
-/

/-- The kinds of entities, each collected on its own ticker. -/
inductive EntityKind
  | sdc
  | volume
  | storagePool
deriving DecidableEq

/-- The name of a kind in labels and messages. -/
def EntityKind.label : EntityKind → String
  | sdc => "sdc"
  | volume => "volume"
  | storagePool => "storage_pool"

/-! ## Data clients -/

/-- What identifies and describes a data client. -/
structure SdcMeta where
  id : String
  name : String
  ip : String
  nodeName : String
  storageSystemId : String
deriving DecidableEq

def SdcMeta.labels (m : SdcMeta) : LabelSet :=
  ⟨[("sdc_id", m.id), ("sdc_name", m.name), ("ip", m.ip), ("node_name", m.nodeName),
    ("storage_system_id", m.storageSystemId)]⟩

/-- A data client with its figures. -/
structure SdcRecord where
  entity : SdcMeta
  metrics : IoMetrics
deriving DecidableEq

/-! ## Volumes -/

/-- What identifies and describes a volume, with the data clients it is
mapped to. -/
structure VolumeMeta where
  id : String
  name : String
  storageSystemId : String
  persistentVolume : String
  persistentVolumeClaim : String
  namespaceName : String
  storageClass : String
  mappedNodeIds : List String
  mappedNodeIps : List String
deriving DecidableEq

def joinedLabel (texts : List String) : String := "__".intercalate texts

def VolumeMeta.labels (m : VolumeMeta) : LabelSet :=
  ⟨[("volume_id", m.id), ("volume_name", m.name), ("storage_system_id", m.storageSystemId),
    ("persistent_volume", m.persistentVolume),
    ("persistent_volume_claim", m.persistentVolumeClaim), ("namespace", m.namespaceName),
    ("storage_class", m.storageClass), ("mapped_node_ids", joinedLabel m.mappedNodeIds),
    ("mapped_node_ips", joinedLabel m.mappedNodeIps)]⟩

/-- The description that stands for a pass without volumes. -/
def VolumeMeta.blank : VolumeMeta := ⟨"", "", "", "", "", "", "", [], []⟩

/-- A volume with its figures. -/
structure VolumeRecord where
  entity : VolumeMeta
  metrics : IoMetrics
deriving DecidableEq

/-- The record that a pass without volumes publishes. -/
def VolumeRecord.keepAlive : VolumeRecord := ⟨.blank, .zero⟩

/-! ## Storage pools and classes -/

/-- What identifies and describes a storage class. -/
structure StorageClassMeta where
  name : String
  driver : String
  storageSystemId : String
deriving DecidableEq

/-- What identifies and describes a storage pool. -/
structure StoragePoolMeta where
  id : String
  name : String
deriving DecidableEq

/-- The labels of a pool, which name the class it is exported under. -/
def StoragePoolMeta.labels (m : StoragePoolMeta) (c : StorageClassMeta) : LabelSet :=
  ⟨[("storage_pool_id", m.id), ("storage_pool_name", m.name), ("storage_class", c.name),
    ("driver", c.driver), ("storage_system_id", c.storageSystemId)]⟩

/-- A pool with its figures. -/
structure PoolCapacity where
  entity : StoragePoolMeta
  metrics : CapacityMetrics
deriving DecidableEq

/-- A storage class with the capacity of the pools that answered. -/
structure StorageClassRecord where
  storageClass : StorageClassMeta
  pools : List PoolCapacity
deriving DecidableEq

end StorageTelemetry
