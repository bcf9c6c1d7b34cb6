import StorageTelemetry.Proofs.Collection.PoolPlacement

namespace StorageTelemetry

/-!
# Enumerating storage classes

On a gateway that tells its generation and its pools, a pass enumerates every
class that the drivers declare, with the pools in their places.  On a bulk
system it asks for all these pools at once, and for nothing if there are none.
-/

open Routine

theorem Routine.reports_eq (entries : List LogEntry) (now : Instant) :
    (entries.forM report) now = ⟨.done (), now, [], entries⟩ := by
  induction entries with
  | nil => rfl
  | cons entry rest ih =>
      change (report entry >>= fun _ => rest.forM report) now = _
      rw [bind_report, ih]

section

variable {client : Client} (inventory : Inventory) (bound : Nat) (drivers : List String)
  {now : Instant} {generation : Generation} {pools : List StoragePool}

/-- The moment at which a gateway is asked for the batch of a pass over its
pools. -/
def poolBatchTime (client : Client) (now : Instant) : Instant :=
  generationTime client now + (client.pools (generationTime client now)).delay

/-- The classes that a pass finds are those of all drivers, with pools from the
answer of the gateway. -/
theorem findClasses_of_answers (answered : (client.generation now).outcome = .done generation)
    (listed : (client.pools (generationTime client now)).outcome = .done pools) :
    ∃ log, findClasses ⟨client, inventory.discovery, bound, drivers⟩ now =
      ⟨.done (generation,
          (resolveClasses (poolsByName pools) [] (drivers.flatMap inventory.storageClassesOf)).1),
        poolBatchTime client now, [(now, .generation), (generationTime client now, .pools)],
        log⟩ := by
  have first : (client.askGeneration now).outcome = .done generation := answered
  have second : (client.askPools (client.askGeneration now).finish).outcome = .done pools := listed
  have entries : lookupAll inventory.discovery.storageClasses drivers =
      .ok (drivers.flatMap inventory.storageClassesOf) :=
    lookupAll_ok inventory.storageClassesOf drivers
  unfold findClasses
  rw [bind_of_done first, entries, Routine.ofExcept, done_bind, bind_of_done second]
  dsimp only
  rw [bind_of_done (congrArg Completion.outcome (reports_eq _ _)), reports_eq]
  exact ⟨_, rfl⟩

/-- The query for the pools of some classes. -/
theorem batchQuery_of_classes (context : CollectionContext) (found : List ClassWithPools) :
    batchQuery .storagePool (found.map (classReader context).entities) =
      ⟨"storage_pool", sortIds (presentIds found), CapacityMetrics.bulkNames⟩ := by
  have ids : (found.map (classReader context).entities).flatten.map (·.id) = presentIds found := by
    rw [List.map_flatten, List.map_map, presentIds, List.flatMap_def]
    apply congrArg List.flatten
    apply List.map_congr_left
    intro item _
    simp only [Function.comp_apply, classReader, List.map_map]
    rfl
  rw [batchQuery, batchIds, ids]
  rfl

/-- Whether a pass enumerates declared classes with the pools of the gateway in
their places.  It returns their retrievers unless their batch fails, and the
batch is asked for with the pools that are present, in the order of bytes. -/
def EnumeratesClasses (context : CollectionContext) (now : Instant) (generation : Generation)
    (pools : List StoragePool) (entries : List StorageClassEntry) : Prop :=
  ∃ found ids, PoolsPlaced pools entries found ∧
    (ids.Pairwise fun id later => Text.bytes id < Text.bytes later) ∧
    (∀ id, id ∈ ids ↔ id ∈ presentIds found) ∧
    ReturnsFor (enumerateStorageClasses context now) generation
      (fun batch => found.map fun (storageClass, members) =>
        ⟨storageClass, members.map fun pool => ⟨pool, generation, batch⟩⟩)
      (context.client.BatchFails ⟨"storage_pool", ids, CapacityMetrics.bulkNames⟩
        (poolBatchTime context.client now)) ∧
    (enumerateStorageClasses context now).calls =
      [(now, .generation), (generationTime context.client now, .pools)] ++
        batchRequests generation ⟨"storage_pool", ids, CapacityMetrics.bulkNames⟩
          (poolBatchTime context.client now)

end

/-- On a gateway that tells its generation and its pools, a pass enumerates the
classes that the drivers declare, with the pools in their places. -/
theorem classes_enumerated_with_pools (client : Client) (inventory : Inventory) (bound : Nat)
    (drivers : List String) (now : Instant) (generation : Generation) (pools : List StoragePool)
    (answered : (client.generation now).outcome = .done generation)
    (listed : (client.pools (generationTime client now)).outcome = .done pools) :
    EnumeratesClasses ⟨client, inventory.discovery, bound, drivers⟩ now generation pools
      (drivers.flatMap inventory.storageClassesOf) := by
  let context : CollectionContext := ⟨client, inventory.discovery, bound, drivers⟩
  have placed := PoolsPlaced.of_resolveClasses pools (drivers.flatMap inventory.storageClassesOf)
  rcases findClasses_of_answers inventory bound drivers answered listed with ⟨log, find⟩
  generalize (resolveClasses (poolsByName pools) []
    (drivers.flatMap inventory.storageClassesOf)).1 = found at placed find
  have ended := congrArg Completion.outcome find
  have finish : (findClasses context now).finish = poolBatchTime client now :=
    congrArg Completion.finish find
  have asked : (findClasses context now).calls =
      [(now, .generation), (generationTime client now, .pools)] := congrArg Completion.calls find
  refine ⟨found, sortIds (presentIds found), placed, sortIds_ascending placed.distinct,
    fun id => List.mem_mergeSort, ?_, ?_⟩
  · rw [enumerateStorageClasses_eq, ← batchQuery_of_classes context found, ← finish]
    exact (classReader context).returnsFor ended
  · rw [enumerateStorageClasses_eq, ← batchQuery_of_classes context found, ← finish, ← asked]
    exact (classReader context).calls_of_done ended

/-- Four pools, of which two share a name and two an identifier. -/
def sharedPools : List StoragePool :=
  [⟨"b", "fast", ""⟩, ⟨"c", "slow", ""⟩, ⟨"a", "slow", ""⟩, ⟨"b", "quick", ""⟩]

/-- A bulk system with these pools. -/
def poolGateway : Client :=
  { twoClients.client with
    generation := fun _ => ⟨1, .done .bulk⟩
    pools := fun _ => ⟨1, .done sharedPools⟩
    bulk := fun _ _ => ⟨1, .done ⟨"storage_pool", none, [⟨"a", []⟩, ⟨"b", []⟩]⟩⟩ }

/-- Classes that list the pools more than once, and one of them a pool that is
unknown. -/
def sharingClasses : Inventory where
  nodes := []
  volumes := []
  storageClasses :=
    [⟨"third", "second", "", ["slow", "fast"]⟩,
      ⟨"first", "first", "", ["quick", "lost", "slow", "fast"]⟩, ⟨"other", "first", "", []⟩]

/-- A pass over these classes finds the pools under the first of them, and asks
for both. -/
theorem sharingClasses_enumerated :
    let context : CollectionContext :=
      ⟨poolGateway, sharingClasses.discovery, 2, ["first", "second"]⟩
    EnumeratesClasses context 0 .bulk sharedPools
        (["first", "second"].flatMap sharingClasses.storageClassesOf) ∧
      (∃ batch, (enumerateStorageClasses context 0).outcome = .done
        [⟨⟨"first", "first", ""⟩, [⟨⟨"b", "quick"⟩, .bulk, batch⟩, ⟨⟨"a", "slow"⟩, .bulk, batch⟩]⟩,
          ⟨⟨"other", "first", ""⟩, []⟩, ⟨⟨"third", "second", ""⟩, []⟩]) ∧
      (enumerateStorageClasses context 0).calls = [(0, .generation), (1, .pools),
        (2, .bulk ⟨"storage_pool", ["a", "b"], CapacityMetrics.bulkNames⟩)] := by
  have enumerated := classes_enumerated_with_pools poolGateway sharingClasses 2 ["first", "second"]
    0 .bulk sharedPools rfl rfl
  have sorted : sortIds ["b", "a"] = ["a", "b"] :=
    sortIds_eq (.swap "a" "b" []) (List.pairwise_pair.mpr (Text.bytes_lt_of_lt (by decide)))
  let rest (ids : List String) : Completion (List StorageClassRetriever) :=
    (BulkBatch.fetch poolGateway "storage_pool" ids CapacityMetrics.bulkNames >>= fun batch =>
      pure
        [⟨⟨"first", "first", ""⟩, [⟨⟨"b", "quick"⟩, .bulk, batch⟩, ⟨⟨"a", "slow"⟩, .bulk, batch⟩]⟩,
          ⟨⟨"other", "first", ""⟩, []⟩, ⟨⟨"third", "second", ""⟩, []⟩]) 2
  refine ⟨enumerated, ?_, ?_⟩
  · have read : (enumerateStorageClasses
        ⟨poolGateway, sharingClasses.discovery, 2, ["first", "second"]⟩ 0).outcome =
          (rest (sortIds ["b", "a"])).outcome := rfl
    rw [read, sorted]
    exact ⟨_, rfl⟩
  · have asked : (enumerateStorageClasses
        ⟨poolGateway, sharingClasses.discovery, 2, ["first", "second"]⟩ 0).calls =
          [(0, .generation), (1, .pools)] ++ (rest (sortIds ["b", "a"])).calls := rfl
    rw [asked, sorted]
    rfl

end StorageTelemetry
