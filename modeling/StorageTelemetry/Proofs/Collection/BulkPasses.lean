import StorageTelemetry.Proofs.Collection.BulkReading
import StorageTelemetry.Proofs.Collection.ScheduleIndependence

namespace StorageTelemetry

/-!
# Bulk passes are all or nothing

Once the batch of a pass is accepted, nothing can fail: every retriever finds
its entities in the batch, and a registry refuses nothing.  So a pass either
records everything it found, with the figures of the batch, or leaves the
exporter as it was.
-/

/-- What an exporter over a registry is seen to have recorded: it counts, labels
and exports what the latest of some observations say, and nothing else. -/
structure Exporter.Shows (exporter : Exporter Registry Handle) (observations : List Observation) :
    Prop where
  counts : ∀ kind, exporter.cache.count kind = (observedIds observations kind).length
  labels : ∀ kind id, exporter.cache.labels? kind id =
    (latest? observations (kind, id)).map (·.labels)
  series : exporter.meter.entitySeries.Perm (latestSeries observations)

theorem Exporter.Realizes.shows {figures : Registry} {exporter : Exporter Registry Handle}
    {observations : List Observation}
    (realizes : exporter.Realizes (Registry.view figures) observations) :
    exporter.Shows observations :=
  ⟨realizes.count_eq, realizes.labels?_eq, realizes.entitySeries_perm⟩

/-! ## What a pass comes to -/

/-- How many records a pass pushes: one for each retriever, and one if there is
no volume at all. -/
def passCount : EntityKind → List (List FoundEntity) → Nat
  | .volume, [] => 1
  | _, found => found.length

/-- What a pass records: every entity found, with the figures of its resource,
and a blank volume if there is no volume at all. -/
def passObservations (resource : String → BulkResource) :
    EntityKind → List (List FoundEntity) → List Observation
  | .volume, [] => [VolumeRecord.keepAlive.observation]
  | _, found => found.flatten.map fun entity => entity.observed (resource entity.id)

/-- The request for the batch of a pass, if something was found. -/
def batchCalls (kind : EntityKind) (listing : Completion (List (List FoundEntity))) :
    List (Instant × Request) :=
  match listing.outcome with
  | .done found =>
      if batchIds kind found = [] then []
      else [(listing.finish, .bulk (batchQuery kind found))]
  | .failed _ | .panicked _ => []

/-- What a pass comes to, given what it finds: nothing is recorded unless all
is, and that is prevented only by a fault of the listing or of the batch. -/
structure AllOrNothing (client : Client) (kind : EntityKind)
    (listing : Completion (List (List FoundEntity))) (exporter : Exporter Registry Handle)
    (result : Outcome Fault Nat) (final : Exporter Registry Handle) : Prop where
  nothing : (∀ count, result ≠ .done count) → final = exporter
  all : ∀ count, result = .done count → ∃ found resource earlier fresh,
    listing.outcome = .done found ∧ count = passCount kind found ∧
      (∀ entity ∈ found.flatten,
        client.Serves (batchQuery kind found) listing.finish entity.id (resource entity.id)) ∧
      exporter.Shows earlier ∧ fresh.Perm (passObservations resource kind found) ∧
      final.Shows (earlier ++ fresh)
  fails_iff : ∀ found, listing.outcome = .done found →
    ((∀ count, result ≠ .done count) ↔
      client.BatchFails (batchQuery kind found) listing.finish)

/-! ## Enumeration -/

open Routine

namespace BulkReader

variable {context : CollectionContext} {ε ι ρ : Type} {reader : BulkReader context ε ι ρ}
  {now : Instant}

theorem listing_of_done {generation : Generation} {found : List ε}
    (ended : (reader.find now).outcome = .done (generation, found)) :
    reader.listing now = ⟨.done (found.map reader.entities), (reader.find now).finish,
      (reader.find now).calls, (reader.find now).log⟩ := by
  unfold listing
  rw [bind_of_done ended]
  simp [pure, done]

/-- The fetch for what was found. -/
def fetch (reader : BulkReader context ε ι ρ) (found : List ε) : Routine BulkBatch :=
  BulkBatch.fetch context.client reader.kind.label
    (batchIds reader.kind (found.map reader.entities)) reader.kind.bulkNames

/-- On a bulk system the batch is fetched after the listing. -/
theorem enumerate_of_done (bulk : (context.client.generation now).outcome = .done .bulk)
    {generation : Generation} {found : List ε}
    (ended : (reader.find now).outcome = .done (generation, found)) :
    reader.enumerate now =
      (reader.find >>= fun _ => reader.fetch found >>= fun batch =>
        pure (found.map (reader.retriever .bulk batch))) now := by
  have same := reader.generation now bulk generation found ended
  subst same
  unfold enumerate
  rw [bind_of_done ended, bind_of_done ended]
  rfl

/-- Entities were listed if they were found. -/
theorem listing_eq_done_iff {listed : List (List FoundEntity)} :
    (reader.listing now).outcome = .done listed ↔
      ∃ generation found, (reader.find now).outcome = .done (generation, found) ∧
        listed = found.map reader.entities := by
  rw [listing, outcome_bind_eq_done_iff, Prod.exists]
  refine exists_congr fun generation => exists_congr fun found => and_congr_right fun _ => ?_
  exact ⟨fun same => (Outcome.done.inj same).symm, congrArg Outcome.done ∘ Eq.symm⟩

/-- An enumeration ends well if entities are found and the batch is fetched
after that. -/
theorem enumerate_eq_done_iff (bulk : (context.client.generation now).outcome = .done .bulk)
    {items : List ι} :
    (reader.enumerate now).outcome = .done items ↔
      ∃ generation found batch, (reader.find now).outcome = .done (generation, found) ∧
        (reader.fetch found (reader.listing now).finish).outcome = .done batch ∧
          items = found.map (reader.retriever .bulk batch) := by
  rw [enumerate, outcome_bind_eq_done_iff, Prod.exists]
  refine exists_congr fun generation => exists_congr fun found => ?_
  rw [exists_and_left]
  refine and_congr_right fun ended => ?_
  obtain rfl := reader.generation now bulk generation found ended
  rw [outcome_bind_eq_done_iff, listing_of_done ended]
  refine exists_congr fun batch => and_congr_right fun _ => ?_
  exact ⟨fun same => (Outcome.done.inj same).symm, congrArg Outcome.done ∘ Eq.symm⟩

/-- The requests of an enumeration are those of the listing and the one for the
batch. -/
theorem calls_enumerate (bulk : (context.client.generation now).outcome = .done .bulk) :
    (reader.enumerate now).calls =
      (reader.listing now).calls ++ batchCalls reader.kind (reader.listing now) := by
  cases ended : (reader.find now).outcome with
  | done value =>
      obtain ⟨generation, found⟩ := value
      rw [enumerate_of_done bulk ended, bind_of_done ended, listing_of_done ended]
      dsimp only [batchCalls]
      rw [calls_bind_pure, fetch, BulkBatch.calls_fetch]
      rfl
  | failed fault =>
      unfold enumerate listing
      rw [bind_of_failed ended, bind_of_failed ended]
      exact (List.append_nil _).symm
  | panicked panic =>
      unfold enumerate listing
      rw [bind_of_panicked ended, bind_of_panicked ended]
      exact (List.append_nil _).symm

end BulkReader

/-! ## Runs -/

/-- Nothing changes in a pass whose enumeration does not end well. -/
theorem RunAfter.unchanged {μ η ι : Type} {enumerate : Routine (List ι)}
    {run : List ι → Exporter μ η → Nat → Exporter μ η → Prop} {now : Instant}
    {exporter final : Exporter μ η} {result : Outcome Fault Nat}
    (ran : RunAfter enumerate run now exporter result final)
    (broken : ∀ items, (enumerate now).outcome ≠ .done items) :
    (∀ count, result ≠ .done count) ∧ final = exporter := by
  unfold RunAfter at ran
  cases ended : (enumerate now).outcome with
  | done items => exact absurd ended (broken items)
  | failed fault =>
      rw [ended] at ran
      obtain ⟨rfl, rfl⟩ := ran
      exact ⟨fun _ => nofun, rfl⟩
  | panicked panic =>
      rw [ended] at ran
      obtain ⟨rfl, rfl⟩ := ran
      exact ⟨fun _ => nofun, rfl⟩

/-- A pass in which nothing was recorded is in order if the batch failed or
the listing did. -/
theorem allOrNothing_of_unchanged {client : Client} {kind : EntityKind}
    {listing : Completion (List (List FoundEntity))} {exporter final : Exporter Registry Handle}
    {result : Outcome Fault Nat} (unchanged : (∀ count, result ≠ .done count) ∧ final = exporter)
    (fails : ∀ found, listing.outcome = .done found →
      client.BatchFails (batchQuery kind found) listing.finish) :
    AllOrNothing client kind listing exporter result final :=
  ⟨fun _ => unchanged.2, fun count same => absurd same (unchanged.1 count),
    fun found ended => ⟨fun _ => fails found ended, fun _ => unchanged.1⟩⟩

namespace BulkReader

variable {context : CollectionContext} {ε ι ρ : Type} {reader : BulkReader context ε ι ρ}
  {now : Instant} {exporter final : Exporter Registry Handle} {result : Outcome Fault Nat}

/-- Whether a batch gives the resources for everything found. -/
def Served (reader : BulkReader context ε ι ρ) (found : List ε) (batch : BulkBatch)
    (resource : String → BulkResource) : Prop :=
  ∀ entity ∈ (found.map reader.entities).flatten,
    batch.resources.get? entity.id = some (resource entity.id)

/-- An accepted batch serves everything that was found. -/
theorem exists_served {found : List ε} {batch : BulkBatch} {moment : Instant}
    (fetched : (reader.fetch found moment).outcome = .done batch) :
    ∃ resource, reader.Served found batch resource ∧
      ∀ entity ∈ (found.map reader.entities).flatten,
        context.client.Serves (batchQuery reader.kind (found.map reader.entities)) moment
          entity.id (resource entity.id) := by
  have each : ∀ entity ∈ (found.map reader.entities).flatten, ∃ resource,
      batch.resources.get? entity.id = some resource ∧
        context.client.Serves (batchQuery reader.kind (found.map reader.entities)) moment
          entity.id resource := by
    intro entity member
    exact BulkBatch.exists_resource _ _ _ _ _ fetched (mem_batchIds.mpr ⟨entity, member, rfl⟩)
  refine ⟨fun id => (batch.resources.get? id).getD ⟨id, []⟩, ?_, ?_⟩
  · intro entity member
    obtain ⟨resource, stored, _⟩ := each entity member
    simp only [stored, Option.getD_some]
  · intro entity member
    obtain ⟨resource, stored, serves⟩ := each entity member
    simpa only [stored, Option.getD_some] using serves

theorem allOrNothing (bulk : (context.client.generation now).outcome = .done .bulk)
    {run : List ι → Exporter Registry Handle → Nat → Exporter Registry Handle → Prop}
    (each : ∀ found batch resource count, reader.Served found batch resource →
      run (found.map (reader.retriever .bulk batch)) exporter count final →
        count = passCount reader.kind (found.map reader.entities) ∧
          ∃ earlier fresh, exporter.Shows earlier ∧
            fresh.Perm (passObservations resource reader.kind (found.map reader.entities)) ∧
              final.Shows (earlier ++ fresh))
    (ran : RunAfter reader.enumerate run now exporter result final) :
    AllOrNothing context.client reader.kind (reader.listing now) exporter result final := by
  have accepted := fun listed => BulkBatch.exists_batch_iff context.client reader.kind.label
    (batchIds reader.kind listed) reader.kind.bulkNames (reader.listing now).finish
  by_cases ends : ∃ items, (reader.enumerate now).outcome = .done items
  · obtain ⟨items, ended⟩ := ends
    obtain ⟨generation, found, batch, found', fetched, rfl⟩ := (enumerate_eq_done_iff bulk).mp ended
    have listed := listing_eq_done_iff.mpr ⟨generation, found, found', rfl⟩
    unfold RunAfter at ran
    rw [ended] at ran
    obtain ⟨count, rfl, ran⟩ := ran
    obtain ⟨resource, served, serves⟩ := exists_served fetched
    obtain ⟨counted, earlier, fresh, before, perm, after⟩ :=
      each found batch resource count served ran
    refine ⟨fun none => absurd rfl (none count), ?_, ?_⟩
    · intro count' same
      obtain rfl := Outcome.done.inj same
      exact ⟨_, resource, earlier, fresh, listed, counted, serves, before, perm, after⟩
    · intro others listed'
      obtain rfl := Outcome.done.inj (listed.symm.trans listed')
      exact ⟨fun none => absurd rfl (none count),
        fun fails => absurd fails ((accepted _).mp ⟨batch, fetched⟩)⟩
  · refine allOrNothing_of_unchanged (ran.unchanged (not_exists.mp ends)) fun listed ended => ?_
    obtain ⟨generation, found, found', rfl⟩ := listing_eq_done_iff.mp ended
    by_contra serves
    obtain ⟨batch, fetched⟩ := (accepted _).mpr serves
    exact ends ⟨_, (enumerate_eq_done_iff bulk).mpr
      ⟨generation, found, batch, found', fetched, rfl⟩⟩

/-- A retriever whose entities are all in the batch gives its record. -/
theorem Served.gives {found : List ε} {batch : BulkBatch} {resource : String → BulkResource}
    (served : reader.Served found batch resource) :
    ∀ item ∈ found,
      reader.work (reader.retriever .bulk batch item) = .done (reader.record resource item) := by
  intro item member
  refine reader.reads batch resource item fun entity own => served entity ?_
  exact List.mem_flatten.mpr ⟨_, List.mem_map_of_mem member, own⟩

/-- A run of the pipeline over retrievers whose batch serves them records every
entity. -/
theorem run_records {bound count : Nat} {sink : Sink ρ (Exporter Registry Handle)}
    (records : sink.Records reader.observations) (reached : exporter.Reached) {found : List ε}
    {batch : BulkBatch} {resource : String → BulkResource}
    (served : reader.Served found batch resource)
    (run : PipelineRun bound reader.work sink (found.map (reader.retriever .bulk batch)) exporter
      count final) :
    count = found.length ∧
      ∃ earlier fresh, exporter.Shows earlier ∧
        fresh.Perm ((found.map reader.entities).flatten.map fun entity =>
          entity.observed (resource entity.id)) ∧
          final.Shows (earlier ++ fresh) := by
  have regular : ∀ item ∈ found.map (reader.retriever .bulk batch),
      (reader.work item).Regular := by
    simp only [List.forall_mem_map]
    exact fun item member => served.gives item member ▸ regular_done _
  have given : recordsOf reader.work (found.map (reader.retriever .bulk batch)) =
      found.map (reader.record resource) := by
    rw [recordsOf, List.filterMap_map, ← List.filterMap_eq_map]
    refine List.filterMap_congr fun item member => ?_
    simp only [Function.comp_apply, served.gives item member]
    rfl
  have told : (found.map (reader.record resource)).flatMap reader.observations =
      (found.map reader.entities).flatten.map fun entity =>
        entity.observed (resource entity.id) := by
    rw [List.map_flatten, List.map_map, List.flatMap_map, List.flatMap_def]
    exact congrArg List.flatten (List.map_congr_left fun item _ => reader.tells resource item)
  obtain ⟨pushed, perm, rfl, rfl⟩ := run.exists_pushed regular
  rw [given] at perm
  obtain ⟨earlier, realizes⟩ := reached.realizes
  obtain ⟨length, after⟩ :=
    records.pushAll (Registry.view_lawful exporter.meter.bare) id realizes pushed
  refine ⟨?_, earlier, pushed.flatMap reader.observations, realizes.shows, ?_, after.shows⟩
  · rw [length, perm.length_eq, List.length_map]
  · exact told ▸ perm.flatMap_right reader.observations

/-- The retrievers of a pass are for what was found, and reading them asks the
gateway for nothing. -/
theorem reads_found (bulk : (context.client.generation now).outcome = .done .bulk)
    {items : List ι} (ended : (reader.enumerate now).outcome = .done items) :
    (reader.listing now).outcome = .done (items.map reader.source) ∧
      ∀ item ∈ items, ∀ moment, (reader.work item moment).calls = [] := by
  obtain ⟨generation, found, batch, found', fetched, rfl⟩ := (enumerate_eq_done_iff bulk).mp ended
  obtain ⟨resource, served, -⟩ := exists_served fetched
  constructor
  · refine listing_eq_done_iff.mpr ⟨generation, found, found', ?_⟩
    rw [List.map_map]
    exact List.map_congr_left fun item _ => reader.source_retriever .bulk batch item
  · simp only [List.forall_mem_map]
    intro item member moment
    rw [served.gives item member]
    rfl

end BulkReader

/-! ## Requests of a pass -/

section

variable {μ η ι ρ : Type} {now : Instant} {exporter : Exporter μ η}

/-- A pipeline makes the calls of its items. -/
theorem exists_of_mem_runPipeline {kind : EntityKind} {bound : Nat} {work : ι → Routine ρ}
    {sink : Sink ρ (Exporter μ η)} {items : List ι} {call : Instant × Request}
    (member : call ∈ (runPipeline kind bound work sink items now exporter).calls) :
    ∃ item ∈ items, ∃ moment, call ∈ (work item moment).calls := by
  obtain ⟨job, listed, made⟩ := List.mem_flatMap.mp member
  have own := List.mem_map_of_mem (f := Job.item) listed
  rw [Job.schedule, Job.items_assign] at own
  rw [Job.result_assign job listed] at made
  exact ⟨job.item, own, job.start, made⟩

theorem calls_runPipeline (kind : EntityKind) (bound : Nat) {work : ι → Routine ρ}
    (sink : Sink ρ (Exporter μ η)) {items : List ι}
    (silent : ∀ item ∈ items, ∀ moment, (work item moment).calls = []) :
    (runPipeline kind bound work sink items now exporter).calls = [] := by
  refine List.eq_nil_iff_forall_not_mem.mpr fun call member => ?_
  obtain ⟨item, listed, moment, made⟩ := exists_of_mem_runPipeline member
  rw [silent item listed moment] at made
  cases made

/-- A pass makes no more calls than its enumeration if the rest makes none. -/
theorem calls_afterEnumeration {enumerate : Routine (List ι)}
    {rest : List ι → Instant → Exporter μ η → Pass μ η}
    (silent : ∀ items, (enumerate now).outcome = .done items →
      ∀ moment, (rest items moment exporter).calls = []) :
    (afterEnumeration enumerate rest now exporter).calls = (enumerate now).calls := by
  unfold afterEnumeration
  cases ended : (enumerate now).outcome with
  | done items => simp only [ended, silent items ended, List.append_nil]
  | failed fault => simp only [ended]
  | panicked panic => simp only [ended]

end

/-! ## Each kind -/

section

variable (context : CollectionContext)

/-- What a pass finds, one list of entities for each retriever. -/
def findings : EntityKind → Routine (List (List FoundEntity))
  | .sdc => (sdcReader context).listing
  | .volume => (volumeReader context).listing
  | .storagePool => (classReader context).listing

/-- Whether the retrievers that a pass enumerates are those for what was
found, and ask the gateway for nothing when they are read. -/
def ReadsFound (now : Instant) : EntityKind → Prop
  | .sdc => ∀ retrievers, (enumerateSdcs context now).outcome = .done retrievers →
      (findings context .sdc now).outcome =
          .done (retrievers.map fun retriever => [retriever.entity.found]) ∧
        ∀ retriever ∈ retrievers, ∀ moment, (retriever.record context.client moment).calls = []
  | .volume => ∀ retrievers, (enumerateVolumes context now).outcome = .done retrievers →
      (findings context .volume now).outcome =
          .done (retrievers.map fun retriever => [retriever.entity.found]) ∧
        ∀ retriever ∈ retrievers, ∀ moment, (retriever.record context.client moment).calls = []
  | .storagePool => ∀ retrievers, (enumerateStorageClasses context now).outcome = .done retrievers →
      (findings context .storagePool now).outcome =
          .done (retrievers.map fun retriever =>
            retriever.pools.map fun pool => pool.entity.found retriever.storageClass) ∧
        ∀ retriever ∈ retrievers, ∀ moment, (retriever.record context.client moment).calls = []

variable {context} {now : Instant}

theorem readsFound (bulk : (context.client.generation now).outcome = .done .bulk)
    (kind : EntityKind) : ReadsFound context now kind := by
  cases kind with
  | sdc =>
      intro retrievers ended
      rw [enumerateSdcs_eq] at ended
      exact BulkReader.reads_found bulk ended
  | volume =>
      intro retrievers ended
      rw [enumerateVolumes_eq] at ended
      exact BulkReader.reads_found bulk ended
  | storagePool =>
      intro retrievers ended
      rw [enumerateStorageClasses_eq] at ended
      exact BulkReader.reads_found bulk ended

/-- What is found is found by listing requests alone. -/
theorem findings_asks (kind : EntityKind) : (findings context kind).Asks Request.IsListing := by
  cases kind with
  | sdc => exact (sdcReader context).lists.bind fun _ => asks_done _
  | volume => exact (volumeReader context).lists.bind fun _ => asks_done _
  | storagePool => exact (classReader context).lists.bind fun _ => asks_done _

/-- A pass lists, and asks for its batch. -/
theorem calls_collect {μ η : Type} [Meter μ η]
    (bulk : (context.client.generation now).outcome = .done .bulk) (kind : EntityKind)
    (exporter : Exporter μ η) :
    (collect context kind now exporter).calls =
      (findings context kind now).calls ++ batchCalls kind (findings context kind now) := by
  have reads := readsFound bulk kind
  cases kind with
  | sdc =>
      rw [collect, collectSdcs, calls_afterEnumeration, enumerateSdcs_eq]
      · exact BulkReader.calls_enumerate bulk
      · intro retrievers ended moment
        exact calls_runPipeline .sdc context.bound sdcSink (reads retrievers ended).2
  | volume =>
      rw [collect, collectVolumes, calls_afterEnumeration, enumerateVolumes_eq]
      · exact BulkReader.calls_enumerate bulk
      · intro retrievers ended moment
        by_cases none : retrievers.isEmpty = true
        · rw [if_pos none]
          rfl
        · rw [if_neg none]
          exact calls_runPipeline .volume context.bound volumeSink (reads retrievers ended).2
  | storagePool =>
      rw [collect, collectStorageClasses, calls_afterEnumeration, enumerateStorageClasses_eq]
      · exact BulkReader.calls_enumerate bulk
      · intro retrievers ended moment
        exact calls_runPipeline .storagePool context.bound storageClassSink
          (reads retrievers ended).2

variable {exporter final : Exporter Registry Handle} {result : Outcome Fault Nat}

theorem sdcRun_allOrNothing (bulk : (context.client.generation now).outcome = .done .bulk)
    (reached : exporter.Reached) (run : PassRun context .sdc now exporter result final) :
    AllOrNothing context.client .sdc (findings context .sdc now) exporter result final := by
  unfold PassRun at run
  rw [enumerateSdcs_eq] at run
  refine BulkReader.allOrNothing bulk (fun found batch resource count served ran => ?_) run
  obtain ⟨counted, recorded⟩ := BulkReader.run_records sdcSink_records reached served ran
  exact ⟨counted.trans (List.length_map _).symm, recorded⟩

theorem storageClassRun_allOrNothing
    (bulk : (context.client.generation now).outcome = .done .bulk) (reached : exporter.Reached)
    (run : PassRun context .storagePool now exporter result final) :
    AllOrNothing context.client .storagePool (findings context .storagePool now) exporter result
      final := by
  unfold PassRun at run
  rw [enumerateStorageClasses_eq] at run
  refine BulkReader.allOrNothing bulk (fun found batch resource count served ran => ?_) run
  obtain ⟨counted, recorded⟩ := BulkReader.run_records storageClassSink_records reached served ran
  exact ⟨counted.trans (List.length_map _).symm, recorded⟩

theorem volumeRun_allOrNothing (bulk : (context.client.generation now).outcome = .done .bulk)
    (reached : exporter.Reached) (run : PassRun context .volume now exporter result final) :
    AllOrNothing context.client .volume (findings context .volume now) exporter result final := by
  unfold PassRun at run
  rw [enumerateVolumes_eq] at run
  refine BulkReader.allOrNothing bulk (fun found batch resource count served ran => ?_) run
  cases found with
  | nil =>
      -- Without volumes a blank one is recorded.
      obtain ⟨rfl, rfl⟩ := KeepAliveRun.exists_pushed ran
      obtain ⟨earlier, realizes⟩ := reached.realizes
      obtain ⟨length, after⟩ := volumeSink_records.pushAll
        (Registry.view_lawful exporter.meter.bare) id realizes [.keepAlive]
      exact ⟨length, earlier, _, realizes.shows, List.Perm.refl _, after.shows⟩
  | cons first rest =>
      obtain ⟨counted, recorded⟩ := BulkReader.run_records volumeSink_records reached served ran
      exact ⟨counted.trans (List.length_map _).symm, recorded⟩

end

/-! ## All or nothing -/

/-- On a bulk system and over a registry, a pass over any kind, from any
exporter that can come about, is all or nothing, whatever is declared and
listed, whatever the answer to its query, and in whatever order workers and
push tasks move.

It asks for statistics once, for all that was found, and only if something was
found; its other requests are for listings, and its retrievers are those for
what was found.  The pass on the clock is one of these runs. -/
theorem bulk_pass_is_all_or_nothing (context : CollectionContext) (kind : EntityKind)
    (exporter : Exporter Registry Handle) (reached : exporter.Reached) (now : Instant)
    (bulk : (context.client.generation now).outcome = .done .bulk) :
    (∀ result final, PassRun context kind now exporter result final →
      AllOrNothing context.client kind (findings context kind now) exporter result final) ∧
    PassRun context kind now exporter (collect context kind now exporter).result
      (collect context kind now exporter).exporter ∧
    (collect context kind now exporter).calls =
      (findings context kind now).calls ++ batchCalls kind (findings context kind now) ∧
    (∀ call ∈ (findings context kind now).calls, call.2.IsListing) ∧
    ReadsFound context now kind := by
  refine ⟨fun result final run => ?_, collect_is_run context kind now exporter,
    calls_collect bulk kind exporter, findings_asks kind now, readsFound bulk kind⟩
  cases kind with
  | sdc => exact sdcRun_allOrNothing bulk reached run
  | volume => exact volumeRun_allOrNothing bulk reached run
  | storagePool => exact storageClassRun_allOrNothing bulk reached run

/-- Two data clients of a bulk system, whose answer repeats one of them and has
one that nobody asked for. -/
def twoBulkClients : CollectionContext :=
  { twoClients with
    client :=
      { twoClients.client with
        generation := fun _ => ⟨1, .done .bulk⟩
        bulk := fun _ _ =>
          ⟨1, .done ⟨"sdc", none, [⟨"b", []⟩, ⟨"a", []⟩, ⟨"c", []⟩, ⟨"a", []⟩]⟩⟩ } }

/-- A pass over these data clients counts both, and asks for both at once. -/
theorem twoBulkClients_count :
    (collect twoBulkClients .sdc 0 (Exporter.start Registry.empty)).result = .done 2 ∧
      (collect twoBulkClients .sdc 0 (Exporter.start Registry.empty)).calls =
        [(0, .generation), (1, .sdcs), (2, .bulk ⟨"sdc", ["a", "b"], IoMetrics.bulkNames⟩)] := by
  obtain ⟨sound, runs, asked, -, -⟩ :=
    bulk_pass_is_all_or_nothing twoBulkClients .sdc (.start .empty) .start 0 rfl
  have pass := sound _ _ runs
  refine ⟨?_, asked.trans rfl⟩
  have serves : ¬ twoBulkClients.client.BatchFails ⟨"sdc", ["a", "b"], IoMetrics.bulkNames⟩ 2 := by
    rw [← BulkBatch.exists_batch_iff]
    exact ⟨_, rfl⟩
  have counts : ∃ count,
      (collect twoBulkClients .sdc 0 (Exporter.start Registry.empty)).result = .done count := by
    by_contra none
    exact serves ((pass.fails_iff _ rfl).mp fun count same => none ⟨count, same⟩)
  obtain ⟨count, same⟩ := counts
  obtain ⟨found, -, -, -, listed, rfl, -⟩ := pass.all count same
  rw [same, ← Outcome.done.inj (Eq.trans rfl listed)]
  rfl

end StorageTelemetry
