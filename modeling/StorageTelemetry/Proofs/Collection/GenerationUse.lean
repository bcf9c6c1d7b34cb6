import StorageTelemetry.Proofs.Collection.BulkPasses
import StorageTelemetry.Scheduler.Tick

namespace StorageTelemetry

/-!
# One generation in a tick

A pass asks for the generation once, before anything else, and goes on by the
answer: its retrievers are all of that generation, and on a legacy system no
batch is asked for, on a bulk system no entity on its own.  Without an answer
nothing more is asked.  A tick makes at most one pass.
-/

/-- Whether a request may follow, once a gateway has told its generation. -/
def Request.Suits (generation : Generation) : Request → Prop
  | .authenticate | .generation => False
  | .sdcs | .sdcVolumes _ | .pools => True
  | .sdcStatistics _ | .volumeStatistics _ | .poolStatistics _ => generation = .legacy
  | .bulk _ => generation = .bulk

open Routine

/-! ## Readings -/

section

variable (client : Client)

theorem SdcRetriever.record_asks (retriever : SdcRetriever) :
    (retriever.record client).Asks (Request.Suits retriever.generation) := by
  refine Asks.bind ?_ fun _ => asks_done _
  unfold statistics
  cases retriever.generation with
  | legacy =>
      have suits : Request.Suits .legacy (.sdcStatistics retriever.entity.id) := rfl
      exact (asks_call suits _).bind fun _ => asks_done _
  | bulk => exact (asks_ofExcept _).bind fun _ => asks_done _

theorem VolumeRetriever.record_asks (retriever : VolumeRetriever) :
    (retriever.record client).Asks (Request.Suits retriever.generation) := by
  refine Asks.bind ?_ fun _ => asks_done _
  unfold statistics
  cases retriever.generation with
  | legacy =>
      have suits : Request.Suits .legacy (.volumeStatistics retriever.entity.id) := rfl
      exact (asks_call suits _).bind fun _ => asks_done _
  | bulk => exact (asks_ofExcept _).bind fun _ => asks_done _

theorem PoolRetriever.statistics_asks (retriever : PoolRetriever) :
    (retriever.statistics client).Asks (Request.Suits retriever.generation) := by
  unfold statistics
  cases retriever.generation with
  | legacy =>
      have suits : Request.Suits .legacy (.poolStatistics retriever.entity.id) := rfl
      exact (asks_call suits _).bind fun _ => asks_done _
  | bulk => exact (asks_ofExcept _).bind fun _ => asks_done _

variable {generation : Generation}

theorem StorageClassRetriever.answers_asks (storageClass : StorageClassMeta)
    {pools : List PoolRetriever} (same : ∀ pool ∈ pools, pool.generation = generation) :
    (answers storageClass client pools).Asks (Request.Suits generation) := by
  induction pools with
  | nil => exact asks_done _
  | cons pool rest ih =>
      have own : (pool.statistics client).Asks (Request.Suits generation) :=
        same pool List.mem_cons_self ▸ pool.statistics_asks client
      have others := ih fun other member => same other (List.mem_cons_of_mem pool member)
      refine own.attempt.bind fun answer => ?_
      cases answer with
      | ok statistics => exact others.bind fun _ => asks_done _
      | error fault => exact (asks_report _).bind fun _ => others.bind fun _ => asks_done _

theorem StorageClassRetriever.record_asks {retriever : StorageClassRetriever}
    (same : ∀ pool ∈ retriever.pools, pool.generation = generation) :
    (retriever.record client).Asks (Request.Suits generation) := by
  refine (answers_asks client _ same).bind fun ⟨pools, last⟩ => ?_
  cases last with
  | none => exact asks_done _
  | some fault =>
      by_cases silent : pools.isEmpty = true
      · simp only [silent, if_true]
        exact asks_fail fault
      · simp only [silent]
        exact asks_done _

/-- A batch is asked for on a bulk system only. -/
theorem BulkBatch.fetchFor_asks (generation : Generation) (resourceType : String)
    (ids metrics : List String) :
    (fetchFor generation client resourceType ids metrics).Asks (Request.Suits generation) := by
  cases generation with
  | legacy => exact asks_done _
  | bulk =>
      intro now call made
      have made : call ∈ (fetch client resourceType ids metrics now).calls := made
      rw [calls_fetch] at made
      split at made
      · cases made
      · rw [List.mem_singleton.mp made]
        rfl

end

/-! ## Enumerations -/

/-- Whether a routine asks for the generation first, and goes on by it to a
value that was made for it. -/
def GoesBy {α : Type} (client : Client) (routine : Routine α) (made : Generation → α → Prop) :
    Prop :=
  ∃ next, routine = client.askGeneration >>= next ∧
    ∀ generation, (next generation).Asks (Request.Suits generation) ∧
      (next generation).Gives (made generation)

variable (context : CollectionContext)

theorem enumerateSdcs_goesBy : GoesBy context.client (enumerateSdcs context)
    fun generation retrievers => ∀ retriever ∈ retrievers, retriever.generation = generation := by
  unfold enumerateSdcs resolveSdcs
  simp only [bind_assoc, pure_bind]
  refine ⟨_, rfl, fun generation => ⟨?_, ?_⟩⟩
  · exact (asks_ofExcept _).bind fun _ => (asks_call trivial _).bind fun _ =>
      (BulkBatch.fetchFor_asks _ _ _ _ _).bind fun _ => asks_done _
  · refine (gives_any _).bind fun _ _ => (gives_any _).bind fun _ _ =>
      (gives_any _).bind fun _ _ => gives_pure ?_
    simp

theorem enumerateVolumes_goesBy : GoesBy context.client (enumerateVolumes context)
    fun generation retrievers => ∀ retriever ∈ retrievers, retriever.generation = generation := by
  unfold enumerateVolumes resolveSdcs
  simp only [bind_assoc, pure_bind]
  refine ⟨_, rfl, fun generation => ⟨?_, ?_⟩⟩
  · refine (asks_ofExcept _).bind fun _ => (asks_call trivial _).bind fun _ =>
      (asks_ofExcept _).bind fun _ =>
        (visitSdcs_asks (fun _ => trivial) context.client _ _ _).bind fun _ =>
          (BulkBatch.fetchFor_asks _ _ _ _ _).bind fun _ => asks_done _
  · refine (gives_any _).bind fun _ _ => (gives_any _).bind fun _ _ =>
      (gives_any _).bind fun _ _ => (gives_any _).bind fun _ _ =>
        (gives_any _).bind fun _ _ => gives_pure ?_
    simp

theorem enumerateStorageClasses_goesBy : GoesBy context.client (enumerateStorageClasses context)
    fun generation retrievers => ∀ retriever ∈ retrievers, ∀ pool ∈ retriever.pools,
      pool.generation = generation := by
  refine ⟨_, rfl, fun generation => ⟨?_, ?_⟩⟩
  · exact (asks_ofExcept _).bind fun _ => (asks_call trivial _).bind fun _ =>
      (asks_reports _).bind fun _ =>
      (BulkBatch.fetchFor_asks _ _ _ _ _).bind fun _ => asks_done _
  · refine (gives_any _).bind fun _ _ => (gives_any _).bind fun _ _ =>
      (gives_any _).bind fun _ _ => (gives_any _).bind fun _ _ => gives_pure ?_
    refine List.forall_mem_map.mpr fun ⟨_, entities⟩ _ => List.forall_mem_map.mpr fun _ _ => rfl

/-! ## Passes -/

/-- Whether calls are one for the generation at some moment, and others that
suit the answer.  Without an answer there are no others. -/
def OneGeneration (client : Client) (now : Instant) (calls : List (Instant × Request)) : Prop :=
  ∃ others, calls = (now, .generation) :: others ∧
    ∀ call ∈ others, ∃ generation, (client.generation now).outcome = .done generation ∧
      call.2.Suits generation

section

variable {client : Client} {α : Type} {routine : Routine α} {made : Generation → α → Prop}
  {now : Instant}

theorem GoesBy.calls (goes : GoesBy client routine made) (now : Instant) :
    OneGeneration client now (routine now).calls := by
  obtain ⟨next, rfl, follows⟩ := goes
  have asked : (client.askGeneration now).calls = [(now, .generation)] := rfl
  cases ended : (client.askGeneration now).outcome with
  | done generation =>
      rw [bind_of_done ended, asked]
      exact ⟨_, rfl, fun call member => ⟨generation, ended, (follows generation).1 _ call member⟩⟩
  | failed fault =>
      rw [bind_of_failed ended, asked]
      exact ⟨[], rfl, nofun⟩
  | panicked panic =>
      rw [bind_of_panicked ended, asked]
      exact ⟨[], rfl, nofun⟩

/-- What such a routine gives was made for the generation that was told. -/
theorem GoesBy.gives (goes : GoesBy client routine made) {value : α}
    (ended : (routine now).outcome = .done value) :
    ∃ generation, (client.generation now).outcome = .done generation ∧ made generation value := by
  obtain ⟨next, rfl, follows⟩ := goes
  obtain ⟨generation, told, ended⟩ := outcome_bind_eq_done_iff.mp ended
  exact ⟨generation, told, (follows generation).2 _ value ended⟩

end

section

variable {μ η ι ρ : Type} {now : Instant} {exporter : Exporter μ η}

theorem afterEnumeration_oneGeneration {client : Client} {enumerate : Routine (List ι)}
    {made : Generation → List ι → Prop} (goes : GoesBy client enumerate made)
    {rest : List ι → Instant → Exporter μ η → Pass μ η}
    (suits : ∀ generation items, made generation items → ∀ moment,
      ∀ call ∈ (rest items moment exporter).calls, call.2.Suits generation) :
    OneGeneration client now (afterEnumeration enumerate rest now exporter).calls := by
  obtain ⟨others, calls, suit⟩ := goes.calls now
  unfold afterEnumeration
  cases ended : (enumerate now).outcome with
  | done items =>
      obtain ⟨generation, told, fits⟩ := goes.gives ended
      simp only [ended, calls]
      refine ⟨_, List.cons_append, fun call member => ?_⟩
      rcases List.mem_append.mp member with early | late
      · exact suit call early
      · exact ⟨generation, told, suits generation items fits _ call late⟩
  | failed fault | panicked panic =>
      simp only [ended]
      exact ⟨others, calls, suit⟩

end

/-- A pass over any kind asks for the generation once, and goes by the answer. -/
theorem collect_oneGeneration {μ η : Type} [Meter μ η] (kind : EntityKind) (now : Instant)
    (exporter : Exporter μ η) :
    OneGeneration context.client now (collect context kind now exporter).calls := by
  cases kind with
  | sdc =>
      refine afterEnumeration_oneGeneration (enumerateSdcs_goesBy context) ?_
      intro generation retrievers same moment call member
      obtain ⟨retriever, listed, moment, made⟩ := exists_of_mem_runPipeline member
      exact same retriever listed ▸ retriever.record_asks context.client moment call made
  | volume =>
      refine afterEnumeration_oneGeneration (enumerateVolumes_goesBy context) ?_
      intro generation retrievers same moment call member
      by_cases nothing : retrievers.isEmpty = true
      · rw [if_pos nothing] at member
        cases member
      · rw [if_neg nothing] at member
        obtain ⟨retriever, listed, moment, made⟩ := exists_of_mem_runPipeline member
        exact same retriever listed ▸ retriever.record_asks context.client moment call made
  | storagePool =>
      refine afterEnumeration_oneGeneration (enumerateStorageClasses_goesBy context) ?_
      intro generation retrievers same moment call member
      obtain ⟨retriever, listed, moment, made⟩ := exists_of_mem_runPipeline member
      have asks := StorageClassRetriever.record_asks context.client (same retriever listed)
      exact asks moment call made

/-! ## Ticks -/

/-- What a tick asks for: nothing, the session alone, or the session and then
what one pass asks for. -/
inductive TickByOne (client : Client) (now : Instant) : List (Instant × Request) → Prop
  | idle : TickByOne client now []
  | gate : TickByOne client now [(now, .authenticate)]
  | pass {moment : Instant} {calls : List (Instant × Request)}
      (goes : OneGeneration client moment calls) :
      TickByOne client now ((now, .authenticate) :: calls)

theorem tick_byOne (scheduler : Scheduler) (leads : Bool) (kind : EntityKind) (now : Instant)
    (exporter : MetricsExporter) :
    TickByOne scheduler.context.client now (scheduler.tick leads kind now exporter).calls := by
  unfold Scheduler.tick
  cases leads with
  | false => exact .idle
  | true =>
      cases scheduler.settings.enabled kind with
      | false => exact .idle
      | true =>
          simp only [Bool.not_true, Bool.false_eq_true, if_false]
          cases session : (scheduler.context.client.askAuthenticate now).outcome with
          | failed fault | panicked panic => exact .gate
          | done value =>
              have goes := collect_oneGeneration scheduler.context kind
                (scheduler.context.client.askAuthenticate now).finish
                (exporter.withMeter (·.setUp .one))
              simp only [Scheduler.collectNow]
              cases (collect scheduler.context kind
                  (scheduler.context.client.askAuthenticate now).finish
                  (exporter.withMeter (·.setUp .one))).result with
              | done count | failed fault | panicked panic => exact .pass goes

end StorageTelemetry
