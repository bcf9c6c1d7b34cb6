import StorageTelemetry.Proofs.Collection.Batches
import StorageTelemetry.Proofs.Collection.Distinctness

namespace StorageTelemetry

/-!
# Reading from a batch

On a bulk system a pass has three steps whatever the kind: it finds the
entities with listing requests, fetches one batch for all of them, and makes
retrievers that look into the batch.  What differs between the kinds is kept in
a reader, with the proof that a retriever whose entities are all in the batch
gives its record at once.
-/

/-- An entity that a pass has found: its identifier, and what recording it
with the figures of a resource says. -/
structure FoundEntity where
  id : String
  observed : BulkResource → Observation

def SdcMeta.found (entity : SdcMeta) : FoundEntity where
  id := entity.id
  observed resource := SdcRecord.observation ⟨entity, (IoStatistics.bulk resource).normalize⟩

def VolumeMeta.found (entity : VolumeMeta) : FoundEntity where
  id := entity.id
  observed resource := VolumeRecord.observation ⟨entity, (IoStatistics.bulk resource).normalize⟩

def StoragePoolMeta.found (storageClass : StorageClassMeta) (entity : StoragePoolMeta) :
    FoundEntity where
  id := entity.id
  observed resource :=
    PoolCapacity.observation storageClass ⟨entity, (CapacityStatistics.bulk resource).normalize⟩

/-! ## What is asked for -/

/-- The series that a batch is asked for. -/
def EntityKind.bulkNames : EntityKind → List String
  | sdc | volume => IoMetrics.bulkNames
  | storagePool => CapacityMetrics.bulkNames

/-- The identifiers that a batch is asked for: those of all entities found,
in order, or sorted for pools. -/
def batchIds (kind : EntityKind) (found : List (List FoundEntity)) : List String :=
  let ids := found.flatten.map (·.id)
  match kind with
  | .sdc | .volume => ids
  | .storagePool => sortIds ids

/-- The one query of a pass. -/
def batchQuery (kind : EntityKind) (found : List (List FoundEntity)) : BulkQuery :=
  ⟨kind.label, batchIds kind found, kind.bulkNames⟩

theorem mem_batchIds {kind : EntityKind} {found : List (List FoundEntity)} {id : String} :
    id ∈ batchIds kind found ↔ ∃ entity ∈ found.flatten, entity.id = id := by
  rw [← List.mem_map]
  cases kind with
  | sdc => rfl
  | volume => rfl
  | storagePool => exact List.mem_mergeSort

/-- The requests by which entities are found: none of them is about
statistics. -/
def Request.IsListing : Request → Prop
  | generation | sdcs | sdcVolumes _ | pools => True
  | authenticate | sdcStatistics _ | volumeStatistics _ | poolStatistics _ | bulk _ => False

/-! ## Readers -/

open Routine

/-- How the entities of a kind are found and read. -/
structure BulkReader (context : CollectionContext) (ε ι ρ : Type) where
  kind : EntityKind
  find : Routine (Generation × List ε)
  entities : ε → List FoundEntity
  retriever : Generation → BulkBatch → ε → ι
  /-- What a retriever was made for. -/
  source : ι → List FoundEntity
  work : ι → Routine ρ
  observations : ρ → List Observation
  record : (String → BulkResource) → ε → ρ
  /-- The generation is asked for first. -/
  generation : ∀ now, (context.client.generation now).outcome = .done .bulk →
    ∀ generation found, (find now).outcome = .done (generation, found) → generation = .bulk
  lists : find.Asks Request.IsListing
  source_retriever : ∀ generation batch item,
    source (retriever generation batch item) = entities item
  reads : ∀ batch resource item,
    (∀ entity ∈ entities item, batch.resources.get? entity.id = some (resource entity.id)) →
      work (retriever .bulk batch item) = .done (record resource item)
  tells : ∀ resource item, observations (record resource item) =
    (entities item).map fun entity => entity.observed (resource entity.id)

namespace BulkReader

variable {context : CollectionContext} {ε ι ρ : Type} (reader : BulkReader context ε ι ρ)

/-- What is found: one list of entities for each retriever. -/
def listing : Routine (List (List FoundEntity)) := do
  let (_, found) ← reader.find
  return found.map reader.entities

/-- The retrievers for what is found. -/
def enumerate : Routine (List ι) := do
  let (generation, found) ← reader.find
  let batch ← BulkBatch.fetchFor generation context.client reader.kind.label
    (batchIds reader.kind (found.map reader.entities)) reader.kind.bulkNames
  return found.map (reader.retriever generation batch)

end BulkReader

theorem BulkBatch.resource_eq_ok {batch : BulkBatch} {id : String} {resource : BulkResource}
    (served : batch.resources.get? id = some resource) : batch.resource id = .ok resource := by
  rw [BulkBatch.resource, served]

/-- Whether a routine, which asks for the generation first, passes it on. -/
def PassesGeneration {α : Type} (client : Client) (find : Routine (Generation × α)) : Prop :=
  ∀ now system, (client.generation now).outcome = .done system →
    ∀ generation found, (find now).outcome = .done (generation, found) → generation = system

theorem passesGeneration_of_bind {α : Type} {client : Client}
    {next : Generation → Routine (Generation × α)}
    (passes : ∀ generation, (next generation).Gives fun found => found.1 = generation) :
    PassesGeneration client (client.askGeneration >>= next) := by
  intro now system answered generation found ended
  have asked : (client.askGeneration now).outcome = .done system := answered
  rw [bind_of_done asked] at ended
  exact passes system _ _ ended

variable (context : CollectionContext)

/-! ## Data clients -/

theorem resolveSdcs_asks : (resolveSdcs context).Asks Request.IsListing :=
  (asks_call trivial _).bind fun _ => (asks_ofExcept _).bind fun _ =>
    (asks_call trivial _).bind fun _ => asks_done _

theorem resolveSdcs_passes : PassesGeneration context.client (resolveSdcs context) :=
  passesGeneration_of_bind fun _ =>
    (gives_any _).bind fun _ _ => (gives_any _).bind fun _ _ => gives_pure rfl

theorem SdcRetriever.record_of_batch {client : Client} {batch : BulkBatch} {entity : SdcMeta}
    {resource : BulkResource} (served : batch.resources.get? entity.id = some resource) :
    (SdcRetriever.mk entity .bulk batch).record client =
      .done ⟨entity, (IoStatistics.bulk resource).normalize⟩ := by
  simp only [SdcRetriever.record, SdcRetriever.statistics, BulkBatch.resource_eq_ok served]
  rfl

def sdcReader : BulkReader context SdcMeta SdcRetriever SdcRecord where
  kind := .sdc
  find := resolveSdcs context
  entities entity := [entity.found]
  retriever generation batch entity := ⟨entity, generation, batch⟩
  source retriever := [retriever.entity.found]
  work retriever := retriever.record context.client
  observations record := [record.observation]
  record resource entity := ⟨entity, (IoStatistics.bulk (resource entity.id)).normalize⟩
  generation now := resolveSdcs_passes context now .bulk
  lists := resolveSdcs_asks context
  source_retriever _ _ _ := rfl
  reads _ _ entity served :=
    SdcRetriever.record_of_batch (served entity.found (List.mem_singleton_self _))
  tells _ _ := rfl

theorem ids_of_singletons {ε : Type} (found : ε → FoundEntity) (entities : List ε) :
    (entities.map fun entity => [found entity]).flatten.map (·.id) =
      entities.map fun entity => (found entity).id := by
  rw [← List.flatMap_def, ← List.map_eq_flatMap, List.map_map]
  rfl

theorem enumerateSdcs_eq : enumerateSdcs context = (sdcReader context).enumerate := by
  unfold enumerateSdcs BulkReader.enumerate
  simp only [sdcReader, batchIds, ids_of_singletons]
  rfl

/-! ## Volumes -/

/-- The generation of the system and the volumes to be read. -/
def findVolumes : Routine (Generation × List VolumeMeta) := do
  let (generation, sdcs) ← resolveSdcs context
  let declared ← .ofExcept (lookupAll context.discovery.volumes context.drivers)
  let entities ← visitSdcs context.client (volumesById declared) sdcs []
  return (generation, entities)

/-- Visits ask for the volumes of data clients only. -/
theorem visitSdcs_asks {sort : Request → Prop} (allowed : ∀ id, sort (.sdcVolumes id))
    (client : Client) (managed : Table String VolumeEntry) (sdcs : List SdcMeta)
    (entities : List VolumeMeta) : (visitSdcs client managed sdcs entities).Asks sort := by
  induction sdcs generalizing entities with
  | nil => exact asks_done entities
  | cons sdc rest ih =>
      have lists : (client.askSdcVolumes sdc.id).Asks sort := asks_call (allowed sdc.id) _
      refine lists.attempt.bind fun answer => ?_
      cases answer with
      | ok volumes => exact ih _
      | error fault => exact (asks_report _).bind fun _ => ih entities

theorem findVolumes_passes : PassesGeneration context.client (findVolumes context) := by
  unfold findVolumes resolveSdcs
  simp only [bind_assoc, pure_bind]
  exact passesGeneration_of_bind fun _ => (gives_any _).bind fun _ _ =>
    (gives_any _).bind fun _ _ => (gives_any _).bind fun _ _ => (gives_any _).bind fun _ _ =>
      gives_pure rfl

theorem VolumeRetriever.record_of_batch {client : Client} {batch : BulkBatch}
    {entity : VolumeMeta} {resource : BulkResource}
    (served : batch.resources.get? entity.id = some resource) :
    (VolumeRetriever.mk entity .bulk batch).record client =
      .done ⟨entity, (IoStatistics.bulk resource).normalize⟩ := by
  simp only [VolumeRetriever.record, VolumeRetriever.statistics, BulkBatch.resource_eq_ok served]
  rfl

def volumeReader : BulkReader context VolumeMeta VolumeRetriever VolumeRecord where
  kind := .volume
  find := findVolumes context
  entities entity := [entity.found]
  retriever generation batch entity := ⟨entity, generation, batch⟩
  source retriever := [retriever.entity.found]
  work retriever := retriever.record context.client
  observations record := [record.observation]
  record resource entity := ⟨entity, (IoStatistics.bulk (resource entity.id)).normalize⟩
  generation now := findVolumes_passes context now .bulk
  lists := (resolveSdcs_asks context).bind fun _ => (asks_ofExcept _).bind fun _ =>
    (visitSdcs_asks (fun _ => trivial) context.client _ _ _).bind fun _ => asks_done _
  source_retriever _ _ _ := rfl
  reads _ _ entity served :=
    VolumeRetriever.record_of_batch (served entity.found (List.mem_singleton_self _))
  tells _ _ := rfl

theorem enumerateVolumes_eq : enumerateVolumes context = (volumeReader context).enumerate := by
  unfold enumerateVolumes BulkReader.enumerate
  simp only [volumeReader, batchIds, ids_of_singletons, findVolumes, bind_assoc, pure_bind]
  rfl

/-! ## Storage classes -/

/-- The generation of the system and the classes to be read with their pools. -/
def findClasses : Routine (Generation × List (StorageClassMeta × List StoragePoolMeta)) := do
  let generation ← context.client.askGeneration
  let entries ← .ofExcept (lookupAll context.discovery.storageClasses context.drivers)
  let pools ← context.client.askPools
  let (classes, _, log) := resolveClasses (poolsByName pools) [] entries
  log.forM Routine.report
  return (generation, classes)

theorem findClasses_passes : PassesGeneration context.client (findClasses context) :=
  passesGeneration_of_bind fun _ => (gives_any _).bind fun _ _ =>
    (gives_any _).bind fun _ _ => (gives_any _).bind fun _ _ => gives_pure rfl

theorem PoolRetriever.statistics_of_batch {client : Client} {batch : BulkBatch}
    {entity : StoragePoolMeta} {resource : BulkResource}
    (served : batch.resources.get? entity.id = some resource) :
    (PoolRetriever.mk entity .bulk batch).statistics client = .done (.bulk resource) := by
  simp only [PoolRetriever.statistics, BulkBatch.resource_eq_ok served]
  rfl

theorem StorageClassRetriever.answers_of_batch {client : Client} {batch : BulkBatch}
    {resource : String → BulkResource} (storageClass : StorageClassMeta)
    {pools : List StoragePoolMeta}
    (served : ∀ pool ∈ pools, batch.resources.get? pool.id = some (resource pool.id)) :
    answers storageClass client (pools.map fun pool => ⟨pool, .bulk, batch⟩) =
      .done (pools.map fun pool => ⟨pool, (CapacityStatistics.bulk (resource pool.id)).normalize⟩,
        none) := by
  induction pools with
  | nil => rfl
  | cons pool rest ih =>
      have others := ih fun other member => served other (List.mem_cons_of_mem _ member)
      have own : (PoolRetriever.mk pool .bulk batch).statistics client =
          .done (.bulk (resource pool.id)) :=
        PoolRetriever.statistics_of_batch (served pool List.mem_cons_self)
      simp only [List.map_cons, answers, others, own]
      rfl

theorem StorageClassRetriever.record_of_batch {client : Client} {batch : BulkBatch}
    {resource : String → BulkResource} (storageClass : StorageClassMeta)
    {pools : List StoragePoolMeta}
    (served : ∀ pool ∈ pools, batch.resources.get? pool.id = some (resource pool.id)) :
    (StorageClassRetriever.mk storageClass
        (pools.map fun pool => ⟨pool, .bulk, batch⟩)).record client =
      .done ⟨storageClass,
        pools.map fun pool => ⟨pool, (CapacityStatistics.bulk (resource pool.id)).normalize⟩⟩ := by
  simp only [StorageClassRetriever.record, answers_of_batch storageClass served]
  rfl

def classReader : BulkReader context (StorageClassMeta × List StoragePoolMeta)
    StorageClassRetriever StorageClassRecord where
  kind := .storagePool
  find := findClasses context
  entities := fun (storageClass, pools) => pools.map (·.found storageClass)
  retriever := fun generation batch (storageClass, pools) =>
    ⟨storageClass, pools.map fun pool => ⟨pool, generation, batch⟩⟩
  source retriever := retriever.pools.map fun pool => pool.entity.found retriever.storageClass
  work retriever := retriever.record context.client
  observations := StorageClassRecord.observations
  record := fun resource (storageClass, pools) => ⟨storageClass,
    pools.map fun pool => ⟨pool, (CapacityStatistics.bulk (resource pool.id)).normalize⟩⟩
  generation now := findClasses_passes context now .bulk
  lists := (asks_call trivial _).bind fun _ => (asks_ofExcept _).bind fun _ =>
    (asks_call trivial _).bind fun _ => (asks_reports _).bind fun _ => asks_done _
  source_retriever := by
    rintro generation batch ⟨storageClass, pools⟩
    simp only [List.map_map]
    rfl
  reads := by
    rintro batch resource ⟨storageClass, pools⟩ served
    refine StorageClassRetriever.record_of_batch storageClass fun pool member => ?_
    exact served (pool.found storageClass) (List.mem_map_of_mem member)
  tells := by
    rintro resource ⟨storageClass, pools⟩
    simp only [StorageClassRecord.observations, List.map_map]
    rfl

/-- The pools taken by all classes are those that the classes are read with. -/
theorem ids_of_classes (known : Table String StoragePool) (entries : List StorageClassEntry) :
    (resolveClasses known [] entries).2.1 =
      ((resolveClasses known [] entries).1.map (classReader context).entities).flatten.map
        (·.id) := by
  rw [(resolveClasses_spec known [] entries List.nodup_nil).1, List.nil_append, List.map_flatten,
    List.map_map, List.flatMap_def]
  refine congrArg List.flatten (List.map_congr_left fun found _ => ?_)
  simp only [Function.comp_apply, classReader, List.map_map]
  rfl

theorem enumerateStorageClasses_eq :
    enumerateStorageClasses context = (classReader context).enumerate := by
  unfold enumerateStorageClasses BulkReader.enumerate batchIds
  simp only [ids_of_classes context]
  simp only [classReader, findClasses, bind_assoc, pure_bind]
  rfl

end StorageTelemetry
