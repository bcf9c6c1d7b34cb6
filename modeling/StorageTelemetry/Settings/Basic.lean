import StorageTelemetry.Settings.Inventory
import StorageTelemetry.Text.Blank
import StorageTelemetry.Fault

namespace StorageTelemetry

/-!
# Settings

Everything the exporter can be told.  Only the gateway section and its three
texts have to be given; the other sections and fields have defaults.  A field
that its section leaves out takes the default of the field, and a section that
is left out as a whole takes a value of its own.
-/

/-- How to reach the gateway. -/
structure GatewaySettings where
  endpoint : String
  username : String
  password : String
  insecure : Bool
  certPath : Option String
deriving DecidableEq

/-- What is collected, how often, and within which bounds. -/
structure CollectionSettings where
  sdcInterval : UInt64
  volumeInterval : UInt64
  poolInterval : UInt64
  sdcEnabled : Bool
  volumeEnabled : Bool
  poolEnabled : Bool
  maxConcurrentQueries : UInt64
  tokenRefreshInterval : UInt64
  authTimeout : UInt64
  driverNames : List String
deriving DecidableEq

/-- Whether and where the leader is elected. -/
structure ElectionSettings where
  enabled : Bool
  endpoint : String
  namespaceName : String
deriving DecidableEq

/-- Where metrics are served. -/
structure ServerSettings where
  address : String
  port : UInt16
deriving DecidableEq

/-- All settings. -/
structure Settings where
  gateway : GatewaySettings
  collection : CollectionSettings
  election : ElectionSettings
  server : ServerSettings
  inventory : Inventory
deriving DecidableEq

/-! ## Defaults of fields -/

namespace FieldDefault

def pollInterval : UInt64 := 5

def metricsEnabled : Bool := true

def maxConcurrentQueries : UInt64 := 10

def tokenRefreshInterval : UInt64 := 300

def authTimeout : UInt64 := 30

def driverNames : List String := ["csi-vxflexos.dellemc.com"]

def electionNamespace : String := "powerflex-exporter"

def address : String := "0.0.0.0"

def port : UInt16 := 9090

end FieldDefault

/-! ## Defaults of sections -/

def CollectionSettings.default : CollectionSettings where
  sdcInterval := FieldDefault.pollInterval
  volumeInterval := FieldDefault.pollInterval
  poolInterval := FieldDefault.pollInterval
  sdcEnabled := true
  volumeEnabled := true
  poolEnabled := true
  maxConcurrentQueries := FieldDefault.maxConcurrentQueries
  tokenRefreshInterval := FieldDefault.tokenRefreshInterval
  authTimeout := FieldDefault.authTimeout
  driverNames := FieldDefault.driverNames

def ElectionSettings.default : ElectionSettings where
  enabled := false
  endpoint := ""
  namespaceName := FieldDefault.electionNamespace

def ServerSettings.default : ServerSettings where
  address := FieldDefault.address
  port := FieldDefault.port

/-! ## Reading -/

section

variable {ν : Type} [Readable ν]

def GatewaySettings.read (document : ν) : Except Mismatch GatewaySettings := do
  let record ← Readable.record "struct PowerFlexConfig"
    ["endpoint", "username", "password", "insecure", "cert_path"] document
  let endpoint ← record.read? "endpoint" Readable.text
  let username ← record.read? "username" Readable.text
  let password ← record.read? "password" Readable.text
  let insecure ← record.read "insecure" Readable.flag false
  let certPath ← record.read "cert_path" Readable.optionalText none
  let endpoint ← record.require "endpoint" endpoint
  let username ← record.require "username" username
  let password ← record.require "password" password
  return { endpoint, username, password, insecure, certPath }

def CollectionSettings.read (document : ν) : Except Mismatch CollectionSettings := do
  let record ← Readable.record "struct CollectionConfig"
    ["sdc_poll_interval_seconds", "volume_poll_interval_seconds",
     "storage_pool_poll_interval_seconds", "sdc_metrics_enabled", "volume_metrics_enabled",
     "storage_pool_metrics_enabled", "max_concurrent_queries", "token_refresh_interval_seconds",
     "auth_timeout_seconds", "driver_names"] document
  let sdcInterval ←
    record.read "sdc_poll_interval_seconds" Readable.word FieldDefault.pollInterval
  let volumeInterval ←
    record.read "volume_poll_interval_seconds" Readable.word FieldDefault.pollInterval
  let poolInterval ←
    record.read "storage_pool_poll_interval_seconds" Readable.word FieldDefault.pollInterval
  let sdcEnabled ←
    record.read "sdc_metrics_enabled" Readable.flag FieldDefault.metricsEnabled
  let volumeEnabled ←
    record.read "volume_metrics_enabled" Readable.flag FieldDefault.metricsEnabled
  let poolEnabled ←
    record.read "storage_pool_metrics_enabled" Readable.flag FieldDefault.metricsEnabled
  let maxConcurrentQueries ←
    record.read "max_concurrent_queries" Readable.word FieldDefault.maxConcurrentQueries
  let tokenRefreshInterval ←
    record.read "token_refresh_interval_seconds" Readable.word FieldDefault.tokenRefreshInterval
  let authTimeout ←
    record.read "auth_timeout_seconds" Readable.word FieldDefault.authTimeout
  let driverNames ←
    record.read "driver_names" (Readable.list Readable.text) FieldDefault.driverNames
  return { sdcInterval, volumeInterval, poolInterval, sdcEnabled, volumeEnabled, poolEnabled,
           maxConcurrentQueries, tokenRefreshInterval, authTimeout, driverNames }

def ElectionSettings.read (document : ν) : Except Mismatch ElectionSettings := do
  let record ← Readable.record "struct LeaderElectionConfig"
    ["enabled", "endpoint", "namespace"] document
  let enabled ← record.read "enabled" Readable.flag false
  let endpoint ← record.read "endpoint" Readable.text ""
  let namespaceName ← record.read "namespace" Readable.text FieldDefault.electionNamespace
  return { enabled, endpoint, namespaceName }

def ServerSettings.read (document : ν) : Except Mismatch ServerSettings := do
  let record ← Readable.record "struct ServerConfig" ["addr", "port"] document
  let address ← record.read "addr" Readable.text FieldDefault.address
  let port ← record.read "port" Readable.word16 FieldDefault.port
  return { address, port }

def Settings.read (document : ν) : Except Mismatch Settings := do
  let record ← Readable.record "struct Config"
    ["powerflex", "collection", "leader_election", "server", "inventory"] document
  let gateway ← record.read? "powerflex" GatewaySettings.read
  let collection ← record.read "collection" CollectionSettings.read .default
  let election ← record.read "leader_election" ElectionSettings.read .default
  let server ← record.read "server" ServerSettings.read .default
  let inventory ← record.read "inventory" Inventory.read .empty
  let gateway ← record.require "powerflex" gateway
  return { gateway, collection, election, server, inventory }

end

end StorageTelemetry
