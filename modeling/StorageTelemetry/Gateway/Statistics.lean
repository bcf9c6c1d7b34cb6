import StorageTelemetry.Json.Fields

namespace StorageTelemetry

/-!
# Raw statistics

Legacy gateways report windowed counters per entity and leave out every
counter they have never sampled, so each counter is zero by default.  Newer
gateways answer one batched query with named series of samples for each
requested resource.
-/

/-! ## Windowed counters -/

/-- Operations and kilobytes counted over a window of seconds. -/
structure Window where
  occurrences : UInt64
  seconds : UInt64
  weightInKb : UInt64
deriving DecidableEq

/-- A window in which nothing was counted. -/
def Window.empty : Window := ⟨0, 0, 0⟩

/-- Input and output counters of one data client or volume. -/
structure IoCounters where
  read : Window
  write : Window
  readLatency : Window
  writeLatency : Window
deriving DecidableEq

/-- Capacity counters of one storage pool, in kilobytes. -/
structure PoolCounters where
  maximum : UInt64
  spare : UInt64
  inUse : UInt64
  provisioned : UInt64
deriving DecidableEq

/-- The keys of a window, in declaration order. -/
def Window.keys : List String := ["numOccurrences", "numSeconds", "totalWeightInKb"]

def Window.ofJson (document : Json) : Except Mismatch Window := do
  let record ← document.record "struct Bwc" keys
  let occurrences ← record.read "numOccurrences" Json.word 0
  let seconds ← record.read "numSeconds" Json.word 0
  let weightInKb ← record.read "totalWeightInKb" Json.word 0
  return { occurrences, seconds, weightInKb }

def Window.toJson (window : Window) : Json :=
  .ofMembers
    [("numOccurrences", .ofNat window.occurrences.toNat),
     ("numSeconds", .ofNat window.seconds.toNat),
     ("totalWeightInKb", .ofNat window.weightInKb.toNat)]

/-- The keys of input and output counters, in declaration order. -/
def IoCounters.keys : List String :=
  ["userDataReadBwc", "userDataWriteBwc", "userDataSdcReadLatency", "userDataSdcWriteLatency"]

def IoCounters.ofJson (document : Json) : Except Mismatch IoCounters := do
  let record ← document.record "struct IoCounters" keys
  let read ← record.read "userDataReadBwc" Window.ofJson .empty
  let readLatency ← record.read "userDataSdcReadLatency" Window.ofJson .empty
  let writeLatency ← record.read "userDataSdcWriteLatency" Window.ofJson .empty
  let write ← record.read "userDataWriteBwc" Window.ofJson .empty
  return { read, write, readLatency, writeLatency }

/-- The keys of capacity counters, in declaration order. -/
def PoolCounters.keys : List String :=
  ["maxCapacityInKb", "spareCapacityInKb", "capacityInUseInKb", "primaryVacInKb"]

def PoolCounters.ofJson (document : Json) : Except Mismatch PoolCounters := do
  let record ← document.record "struct StoragePoolCounters" keys
  let inUse ← record.read "capacityInUseInKb" Json.word 0
  let maximum ← record.read "maxCapacityInKb" Json.word 0
  let provisioned ← record.read "primaryVacInKb" Json.word 0
  let spare ← record.read "spareCapacityInKb" Json.word 0
  return { maximum, spare, inUse, provisioned }

/-! ## Batched samples -/

/-- The samples of one named series, oldest first. -/
structure NamedSamples where
  name : String
  values : List Double
deriving DecidableEq

/-- What a batched answer says about one resource. -/
structure BulkResource where
  id : String
  metrics : List NamedSamples
deriving DecidableEq

/-- A batched answer. -/
structure BulkResponse where
  resourceType : String
  timestamp : Option String
  resources : List BulkResource
deriving DecidableEq

/-- A batched query. -/
structure BulkQuery where
  resourceType : String
  ids : List String
  metrics : List String
deriving DecidableEq

/-- The latest sample of the first series with a name, and zero where there is
no such series or it has no samples. -/
def BulkResource.value (resource : BulkResource) (name : String) : Double :=
  match resource.metrics.find? (·.name = name) with
  | some samples => samples.values.getLast?.getD .zero
  | none => .zero

def NamedSamples.ofJson (document : Json) : Except Mismatch NamedSamples := do
  let record ← document.record "struct NamedMetric" ["name", "values"]
  let name ← record.read? "name" Json.text
  let values ← record.read "values" (Json.list Json.double) []
  let name ← record.require "name" name
  return { name, values }

def BulkResource.ofJson (document : Json) : Except Mismatch BulkResource := do
  let record ← document.record "struct BulkResource" ["id", "metrics"]
  let id ← record.read? "id" Json.text
  let metrics ← record.read "metrics" (Json.list NamedSamples.ofJson) []
  let id ← record.require "id" id
  return { id, metrics }

/-- An answer with nothing in it. -/
def BulkResponse.empty : BulkResponse := ⟨"", none, []⟩

def BulkResponse.ofJson (document : Json) : Except Mismatch BulkResponse := do
  let record ← document.record "struct BulkMetricsResponse"
    ["resource_type", "timestamp", "resources"]
  let resourceType ← record.read "resource_type" Json.text ""
  let resources ← record.read "resources" (Json.list BulkResource.ofJson) []
  let timestamp ← record.read "timestamp" Json.optionalText none
  return { resourceType, timestamp, resources }

def BulkQuery.toJson (query : BulkQuery) : Json :=
  .ofMembers
    [("resource_type", .ofText query.resourceType),
     ("ids", .ofTexts query.ids),
     ("metrics", .ofTexts query.metrics)]

end StorageTelemetry
