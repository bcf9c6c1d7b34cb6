import StorageTelemetry.Gateway.Client
import StorageTelemetry.Json.Lookup

namespace StorageTelemetry

/-!
# A simulated gateway

A gateway that answers from a table, for rehearsing collection without a
storage system.  The table is an object with the answers by call: lists and
statistics as the documents a real gateway would send, a call that fails as
`{"$error": [kind, text]}`, one that breaks off as `{"$panic": text}`, and
under `delays` the milliseconds that a call takes.  What is missing is empty,
except that statistics of an unknown entity are a fault.
-/

def Request.name : Request → String
  | .authenticate => "auth"
  | .generation => "version"
  | .sdcs => "sdcs"
  | .sdcVolumes id => "sdc_volumes:" ++ id
  | .sdcStatistics id => "sdc_stats:" ++ id
  | .volumeStatistics id => "volume_stats:" ++ id
  | .pools => "pools"
  | .poolStatistics id => "pool_stats:" ++ id
  | .bulk query => "bulk:" ++ query.resourceType

/-- The fault that a kind and a text name. -/
def Fault.ofSpec (spec : Json) : Fault :=
  let text := (spec.items.drop 1).head?.map Json.asText |>.getD ""
  match spec.items.head?.map Json.asText |>.getD "" with
  | "PowerFlexApi" => .powerFlexApi text
  | "Http" => .http text
  | "Config" => .config text
  | "Auth" => .auth text
  | "BulkBatch" => .bulkBatch text
  | "LeaderElection" => .leaderElection text
  | "Registration" => .registration text
  | "Instrument" => .instrument text
  | "Timeout" => .timeout text
  | "Io" => .io text
  | _ => .cancelled

namespace SimulatedGateway

def outcome {α : Type} (missing : Outcome Fault α) (reader : Json → Except Mismatch α)
    (entry : Json) : Outcome Fault α :=
  match entry, entry.get "$error", entry.get "$panic" with
  | .null, _, _ => missing
  | entry, .null, .null => .ofExcept ((reader entry).mapError .json)
  | _, .null, text => .panicked (.message text.asText)
  | _, spec, _ => .failed (.ofSpec spec)

def reply {α : Type} (table : Json) (request : Request) (missing : Outcome Fault α)
    (reader : Json → Except Mismatch α) (entry : Json) : Reply α :=
  ⟨(table.get "delays").natAt request.name, outcome missing reader entry⟩

/-- The fault of statistics that the table does not have. -/
def notFound {α : Type} (what id : String) : Outcome Fault α :=
  .failed (.powerFlexApi (what ++ "::" ++ id ++ " not found"))

/-- The gateway of a table that may change over time.  A call reads the table
of the moment at which it begins. -/
def client (table : Instant → Json) : Client where
  authenticate now :=
    reply (table now) .authenticate (.done ()) (fun _ => .ok ()) ((table now).get "auth")
  generation now :=
    reply (table now) .generation (.done (.ofVersion ""))
      (fun version => .ok (.ofVersion version.asText)) ((table now).get "version")
  sdcs now := reply (table now) .sdcs (.done []) (Json.list Sdc.ofJson) ((table now).get "sdcs")
  sdcVolumes id now :=
    reply (table now) (.sdcVolumes id) (.done []) (Json.list Volume.ofJson)
      (((table now).get "sdc_volumes").get id)
  sdcStatistics id now :=
    reply (table now) (.sdcStatistics id) (notFound "Sdc" id) IoCounters.ofJson
      (((table now).get "sdc_stats").get id)
  volumeStatistics id now :=
    reply (table now) (.volumeStatistics id) (notFound "Volume" id) IoCounters.ofJson
      (((table now).get "volume_stats").get id)
  pools now :=
    reply (table now) .pools (.done []) (Json.list StoragePool.ofJson) ((table now).get "pools")
  poolStatistics id now :=
    reply (table now) (.poolStatistics id) (notFound "StoragePool" id) PoolCounters.ofJson
      (((table now).get "pool_stats").get id)
  bulk query now :=
    reply (table now) (.bulk query) (.done .empty) BulkResponse.ofJson
      (((table now).get "bulk").get query.resourceType)

end SimulatedGateway
end StorageTelemetry
