import StorageTelemetry.Collection.Routine
import StorageTelemetry.Table

namespace StorageTelemetry

/-!
# Batches

On a bulk system one query serves all entities of a kind.  A batch is accepted
only if it covers every identifier that was asked for, since the single call
was meant to serve them all.
-/

/-- The resources of a batched answer by identifier; the last of several with
one identifier counts. -/
structure BulkBatch where
  resources : Table String BulkResource
deriving DecidableEq

namespace BulkBatch

/-- A batch without resources. -/
def empty : BulkBatch := ⟨.empty⟩

/-- Why an answer does not serve as a batch for some identifiers. -/
def fault? (resourceType : String) (ids : List String) (response : BulkResponse) : Option Fault :=
  if response.resources.isEmpty then
    some (.bulkBatch ("empty " ++ resourceType ++ " response for " ++ toString ids.length ++
      " requested IDs"))
  else
    (ids.find? fun id => !response.resources.any (·.id = id)).map fun id =>
      .bulkBatch (resourceType ++ " " ++ id ++ " missing from bulk response")

def ofResponse (response : BulkResponse) : BulkBatch :=
  ⟨.ofPairs (response.resources.map fun resource => (resource.id, resource))⟩

/-- Fetches a batch for some identifiers; without any, nothing is asked. -/
def fetch (client : Client) (resourceType : String) (ids metrics : List String) :
    Routine BulkBatch :=
  if ids.isEmpty then .done empty
  else do
    let response ← client.askBulk ⟨resourceType, ids, metrics⟩
    match fault? resourceType ids response with
    | some fault => .fail fault
    | none => return ofResponse response

/-- Fetches a batch only if the generation reads in bulk. -/
def fetchFor (generation : Generation) (client : Client) (resourceType : String)
    (ids metrics : List String) : Routine BulkBatch :=
  match generation with
  | .legacy => .done empty
  | .bulk => fetch client resourceType ids metrics

def resource (batch : BulkBatch) (id : String) : Except Fault BulkResource :=
  match batch.resources.get? id with
  | some resource => .ok resource
  | none => .error (.bulkBatch (id ++ " not in bulk batch"))

def size (batch : BulkBatch) : Nat := batch.resources.size

end BulkBatch
end StorageTelemetry
