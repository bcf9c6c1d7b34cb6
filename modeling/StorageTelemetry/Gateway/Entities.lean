import StorageTelemetry.Json.Fields

namespace StorageTelemetry

/-!
# Entities of the storage system

The gateway lists data clients, volumes and storage pools as documents.  Only
the identifier is always present; the other fields are empty when left out.
Fields of a record are read in the order of their keys, and a missing one is
noticed after all given ones were read.
-/

/-- A storage data client, one on each cluster node. -/
structure Sdc where
  id : String
  name : Option String
  guid : String
  ip : String
  systemId : String
deriving DecidableEq

/-- A volume of the storage system. -/
structure Volume where
  id : String
  name : String
  poolId : String
deriving DecidableEq

/-- A storage pool of the storage system. -/
structure StoragePool where
  id : String
  name : String
  domainId : String
deriving DecidableEq

def Sdc.ofJson (document : Json) : Except Mismatch Sdc := do
  let record ← document.record "struct Sdc" ["id", "name", "sdcGuid", "sdcIp", "systemId"]
  let id ← record.read? "id" Json.text
  let name ← record.read "name" Json.optionalText none
  let guid ← record.read "sdcGuid" Json.text ""
  let ip ← record.read "sdcIp" Json.text ""
  let systemId ← record.read "systemId" Json.text ""
  let id ← record.require "id" id
  return { id, name, guid, ip, systemId }

def Volume.ofJson (document : Json) : Except Mismatch Volume := do
  let record ← document.record "struct Volume" ["id", "name", "storagePoolId"]
  let id ← record.read? "id" Json.text
  let name ← record.read "name" Json.text ""
  let poolId ← record.read "storagePoolId" Json.text ""
  let id ← record.require "id" id
  return { id, name, poolId }

def StoragePool.ofJson (document : Json) : Except Mismatch StoragePool := do
  let record ← document.record "struct StoragePool" ["id", "name", "protectionDomainId"]
  let id ← record.read? "id" Json.text
  let name ← record.read "name" Json.text ""
  let domainId ← record.read "protectionDomainId" Json.text ""
  let id ← record.require "id" id
  return { id, name, domainId }

end StorageTelemetry
