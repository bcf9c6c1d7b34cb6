import StorageTelemetry.Json.Value
import StorageTelemetry.Settings.Basic

namespace StorageTelemetry

/-!
# Settings as a document

All settings with their values, defaults included.  Numbers of 64 bits are
written as texts, which keep them exactly, and the entries of the inventory as
lists of their fields.
-/

def wordText (value : UInt64) : Json := .ofText (toString value.toNat)

def GatewaySettings.toJson (settings : GatewaySettings) : Json :=
  .ofMembers
    [("endpoint", .ofText settings.endpoint), ("username", .ofText settings.username),
     ("password", .ofText settings.password), ("insecure", .bool settings.insecure),
     ("cert_path", (settings.certPath.map Json.ofText).getD .null)]

def CollectionSettings.toJson (settings : CollectionSettings) : Json :=
  .ofMembers
    [("sdc_poll_interval_seconds", wordText settings.sdcInterval),
     ("volume_poll_interval_seconds", wordText settings.volumeInterval),
     ("storage_pool_poll_interval_seconds", wordText settings.poolInterval),
     ("sdc_metrics_enabled", .bool settings.sdcEnabled),
     ("volume_metrics_enabled", .bool settings.volumeEnabled),
     ("storage_pool_metrics_enabled", .bool settings.poolEnabled),
     ("max_concurrent_queries", wordText settings.maxConcurrentQueries),
     ("token_refresh_interval_seconds", wordText settings.tokenRefreshInterval),
     ("auth_timeout_seconds", wordText settings.authTimeout),
     ("driver_names", .ofTexts settings.driverNames)]

def ElectionSettings.toJson (settings : ElectionSettings) : Json :=
  .ofMembers
    [("enabled", .bool settings.enabled), ("endpoint", .ofText settings.endpoint),
     ("namespace", .ofText settings.namespaceName)]

def ServerSettings.toJson (settings : ServerSettings) : Json :=
  .ofMembers [("addr", .ofText settings.address), ("port", .ofNat settings.port.toNat)]

def Inventory.toJson (inventory : Inventory) : Json :=
  .ofMembers
    [("nodes", .array (inventory.nodes.map fun node =>
       .ofTexts [node.name, node.sdcGuid, node.ip, node.driver])),
     ("volumes", .array (inventory.volumes.map fun volume =>
       .ofTexts [volume.volumeId, volume.persistentVolume, volume.persistentVolumeClaim,
         volume.namespaceName, volume.storageClass, volume.storageSystemId, volume.driver])),
     ("storage_classes", .array (inventory.storageClasses.map fun storageClass =>
       .array [.ofText storageClass.name, .ofText storageClass.driver,
         .ofText storageClass.storageSystemId, .ofTexts storageClass.storagePools]))]

def Settings.toJson (settings : Settings) : Json :=
  .ofMembers
    [("powerflex", settings.gateway.toJson), ("collection", settings.collection.toJson),
     ("leader_election", settings.election.toJson), ("server", settings.server.toJson),
     ("inventory", settings.inventory.toJson)]

end StorageTelemetry
