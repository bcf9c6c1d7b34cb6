import StorageTelemetry.Proofs.Collection.BulkPasses

namespace StorageTelemetry

/-!
# What answers lead to

An enumeration looks things up: cluster objects by driver, and objects of the
gateway by a key of which the last holder counts.  Once it has found its
entities, it returns a retriever for each of them, all with the generation of
the system and one batch.  Nothing but the batch can still fail, and a batch is
fetched on bulk systems only.
-/

open Routine

/-- The moment at which a gateway has told its generation, and is asked for its
data clients or its pools. -/
def generationTime (client : Client) (now : Instant) : Instant :=
  now + (client.generation now).delay

/-! ## Looking up -/

/-- In a table of entries by a key, a key finds the last entry that has it. -/
theorem Table.get?_ofPairs_map {α κ : Type} [DecidableEq κ] (key : α → κ) (entries : List α)
    (wanted : κ) :
    (Table.ofPairs (entries.map fun entry => (key entry, entry))).get? wanted =
      (entries.filter fun entry => key entry = wanted).getLast? := by
  rw [Table.get?_ofPairs, ← List.map_reverse, List.find?_map, Option.map_map,
    List.getLast?_eq_head?_reverse, ← List.filter_reverse, List.head?_filter]
  exact Option.map_id'

/-- What never fails is looked up for all drivers, one after another. -/
theorem lookupAll_ok {α : Type} (entries : String → List α) (drivers : List String) :
    lookupAll (fun driver => .ok (entries driver)) drivers = .ok (drivers.flatMap entries) := by
  induction drivers with
  | nil => rfl
  | cons driver rest ih =>
      rw [lookupAll, ih]
      rfl

/-! ## Retrievers for what was found -/

/-- A batch comes of a query, unless the system is a bulk one and the query
fails. -/
theorem BulkBatch.exists_batch_for_iff (generation : Generation) (client : Client)
    (resourceType : String) (ids metrics : List String) (moment : Instant) :
    (∃ batch, (fetchFor generation client resourceType ids metrics moment).outcome =
        .done batch) ↔
      (generation = .bulk → ¬ client.BatchFails ⟨resourceType, ids, metrics⟩ moment) := by
  cases generation with
  | legacy =>
      constructor
      · intro _ bulk
        cases bulk
      · intro _
        exact ⟨.empty, rfl⟩
  | bulk =>
      have fetched := exists_batch_iff client resourceType ids metrics moment
      constructor
      · intro succeeds _
        exact fetched.mp succeeds
      · intro serves
        exact fetched.mpr (serves rfl)

/-- The request for a batch: one on a bulk system, unless there is nothing to
ask for. -/
def batchRequests (generation : Generation) (query : BulkQuery) (moment : Instant) :
    List (Instant × Request) :=
  match generation with
  | .legacy => []
  | .bulk => if query.ids = [] then [] else [(moment, .bulk query)]

theorem batchRequests_of_nil {query : BulkQuery} (nothing : query.ids = [])
    (generation : Generation) (moment : Instant) : batchRequests generation query moment = [] := by
  cases generation with
  | legacy => rfl
  | bulk => exact if_pos nothing

theorem BulkBatch.calls_fetchFor (generation : Generation) (client : Client)
    (resourceType : String) (ids metrics : List String) (moment : Instant) :
    (fetchFor generation client resourceType ids metrics moment).calls =
      batchRequests generation ⟨resourceType, ids, metrics⟩ moment := by
  cases generation with
  | legacy => rfl
  | bulk => exact calls_fetch client resourceType ids metrics moment

/-- The query for entities with a retriever each, in order. -/
theorem batchQuery_of_singletons {ε : Type} (kind : EntityKind) (single : kind ≠ .storagePool)
    (found : ε → FoundEntity) (entities : List ε) :
    batchQuery kind (entities.map fun entity => [found entity]) =
      ⟨kind.label, entities.map fun entity => (found entity).id, kind.bulkNames⟩ := by
  have ids := ids_of_singletons found entities
  cases kind with
  | sdc => rw [batchQuery, batchIds, ids]
  | volume => rw [batchQuery, batchIds, ids]
  | storagePool => exact absurd rfl single

/-- An enumeration that ends well has found its entities. -/
theorem BulkReader.exists_find_of_done {context : CollectionContext} {ε ι ρ : Type}
    (reader : BulkReader context ε ι ρ) {now : Instant} {items : List ι}
    (ended : (reader.enumerate now).outcome = .done items) :
    ∃ generation found batch, (reader.find now).outcome = .done (generation, found) ∧
      items = found.map (reader.retriever generation batch) := by
  unfold BulkReader.enumerate at ended
  rcases outcome_bind_eq_done_iff.mp ended with ⟨⟨generation, found⟩, begun, rest⟩
  rcases outcome_bind_eq_done_iff.mp rest with ⟨batch, -, same⟩
  exact ⟨generation, found, batch, begun, (Outcome.done.inj same).symm⟩

/-- The requests of an enumeration that has found its entities. -/
theorem BulkReader.calls_of_done {context : CollectionContext} {ε ι ρ : Type}
    (reader : BulkReader context ε ι ρ) {now : Instant} {generation : Generation} {found : List ε}
    (ended : (reader.find now).outcome = .done (generation, found)) :
    (reader.enumerate now).calls = (reader.find now).calls ++
      batchRequests generation (batchQuery reader.kind (found.map reader.entities))
        (reader.find now).finish := by
  unfold BulkReader.enumerate
  rw [bind_of_done ended]
  dsimp only
  rw [calls_bind_pure, BulkBatch.calls_fetchFor]
  rfl

/-- Whether an enumeration returns retrievers that are made from a generation
and a batch, and does so unless the system is a bulk one and a query fails. -/
structure ReturnsFor {ι : Type} (enumeration : Completion (List ι)) (generation : Generation)
    (retrievers : BulkBatch → List ι) (fails : Prop) : Prop where
  returned : ∀ items, enumeration.outcome = .done items → ∃ batch, items = retrievers batch
  returns_iff : (∃ items, enumeration.outcome = .done items) ↔ (generation = .bulk → ¬ fails)

/-- Entities that were found have their retrievers returned. -/
theorem BulkReader.returnsFor {context : CollectionContext} {ε ι ρ : Type}
    (reader : BulkReader context ε ι ρ) {now : Instant} {generation : Generation} {found : List ε}
    (ended : (reader.find now).outcome = .done (generation, found)) :
    ReturnsFor (reader.enumerate now) generation
      (fun batch => found.map (reader.retriever generation batch))
      (context.client.BatchFails (batchQuery reader.kind (found.map reader.entities))
        (reader.find now).finish) := by
  let query := batchQuery reader.kind (found.map reader.entities)
  have outcome : ∀ items, (reader.enumerate now).outcome = .done items ↔
      ∃ batch, (BulkBatch.fetchFor generation context.client query.resourceType query.ids
          query.metrics (reader.find now).finish).outcome = .done batch ∧
        found.map (reader.retriever generation batch) = items := by
    intro items
    unfold BulkReader.enumerate
    rw [bind_of_done ended]
    apply Iff.trans outcome_bind_eq_done_iff
    apply exists_congr
    intro batch
    exact and_congr_right fun _ => ⟨Outcome.done.inj, congrArg Outcome.done⟩
  constructor
  · intro items returned
    rcases (outcome items).mp returned with ⟨batch, -, rfl⟩
    exact ⟨batch, rfl⟩
  · apply Iff.trans _ (BulkBatch.exists_batch_for_iff _ _ _ _ _ _)
    constructor
    · rintro ⟨items, returned⟩
      rcases (outcome items).mp returned with ⟨batch, fetched, -⟩
      exact ⟨batch, fetched⟩
    · rintro ⟨batch, fetched⟩
      exact ⟨_, (outcome _).mpr ⟨batch, fetched, rfl⟩⟩

end StorageTelemetry
