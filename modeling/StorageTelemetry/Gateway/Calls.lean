import StorageTelemetry.Gateway.Connection
import StorageTelemetry.Gateway.Entities
import StorageTelemetry.Gateway.Statistics

namespace StorageTelemetry

/-!
# Calls on a gateway

Each call of the management interface is one request, for a path, with a
reader for the body of the answer.  A call needs the session token; without it
nothing is sent.
-/

/-- A call: what to ask for, and how to read what comes back. -/
structure GatewayCall (α : Type) where
  path : String
  query : Option Json
  read : Json → Except Mismatch α

namespace GatewayCall

variable {α : Type}

/-- A call that only reads. -/
def reading (path : String) (read : Json → Except Mismatch α) : GatewayCall α := ⟨path, none, read⟩

/-- The path of what is related to an entity. -/
def relationPath (kind id relation : String) : String :=
  "/api/instances/" ++ kind ++ "::" ++ id ++ "/relationships/" ++ relation

def version : GatewayCall String := reading "/api/version" Json.text

def sdcs : GatewayCall (List Sdc) := reading "/api/types/Sdc/instances" (Json.list Sdc.ofJson)

def sdcVolumes (id : String) : GatewayCall (List Volume) :=
  reading (relationPath "Sdc" id "Volume") (Json.list Volume.ofJson)

def sdcStatistics (id : String) : GatewayCall IoCounters :=
  reading (relationPath "Sdc" id "Statistics") IoCounters.ofJson

def volumeStatistics (id : String) : GatewayCall IoCounters :=
  reading (relationPath "Volume" id "Statistics") IoCounters.ofJson

def pools : GatewayCall (List StoragePool) :=
  reading "/api/types/StoragePool/instances" (Json.list StoragePool.ofJson)

def poolStatistics (id : String) : GatewayCall PoolCounters :=
  reading (relationPath "StoragePool" id "Statistics") PoolCounters.ofJson

def bulk (query : BulkQuery) : GatewayCall BulkResponse :=
  ⟨"/dtapi/rest/v1/metrics/query", some query.toJson, BulkResponse.ofJson⟩

/-- Makes a call with the answer to the wish for a token. -/
def perform (call : GatewayCall α) (connection : GatewayConnection) (server : RestServer)
    (token : Except Fault String) : Exchange α :=
  match token with
  | .error fault => ⟨[], .error fault⟩
  | .ok token =>
      let method := if call.query.isSome then "POST" else "GET"
      let exchange := connection.exchange server method call.path token call.query
      ⟨exchange.sent, exchange.result.bind (GatewayConnection.decode call.path call.read)⟩

end GatewayCall
end StorageTelemetry
