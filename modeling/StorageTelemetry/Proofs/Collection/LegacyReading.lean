import StorageTelemetry.Proofs.Collection.BulkReading

namespace StorageTelemetry

/-!
# Reading entities one by one

On a legacy system every entity that was found is asked about on its own.  A
retriever stands for a group of entities, which it reads in order; it passes
over those that do not answer, and gives no record only if there are entities
and none of them answered.  What differs between the kinds is how large the
groups are.
-/

/-! ## Statistics of entities -/

/-- What a legacy system counts for an entity of a kind. -/
def EntityKind.Counters : EntityKind → Type
  | sdc | volume => IoCounters
  | storagePool => PoolCounters

/-- The request for the statistics of an entity. -/
def statisticsRequest : Entity → Request
  | (.sdc, id) => .sdcStatistics id
  | (.volume, id) => .volumeStatistics id
  | (.storagePool, id) => .poolStatistics id

/-- What a gateway answers when it is asked for the statistics of an entity. -/
def Client.statistics (client : Client) : (entity : Entity) → Instant → Reply entity.1.Counters
  | (.sdc, id) => client.sdcStatistics id
  | (.volume, id) => client.volumeStatistics id
  | (.storagePool, id) => client.poolStatistics id

/-- Whether every request for the statistics of a pool succeeds or fails. -/
def Client.Calm (client : Client) : Prop :=
  ∀ id now panic, (client.poolStatistics id now).outcome ≠ .panicked panic

/-- An entity to be read on its own, and what recording it with its counters
says. -/
structure PolledEntity where
  entity : Entity
  observed : entity.1.Counters → Observation
  about : ∀ counters, (observed counters).entity = entity

def SdcMeta.polled (m : SdcMeta) : PolledEntity where
  entity := (.sdc, m.id)
  observed counters := SdcRecord.observation ⟨m, (IoStatistics.legacy counters).normalize⟩
  about _ := rfl

def VolumeMeta.polled (m : VolumeMeta) : PolledEntity where
  entity := (.volume, m.id)
  observed counters := VolumeRecord.observation ⟨m, (IoStatistics.legacy counters).normalize⟩
  about _ := rfl

def StoragePoolMeta.polled (storageClass : StorageClassMeta) (m : StoragePoolMeta) :
    PolledEntity where
  entity := (.storagePool, m.id)
  observed counters :=
    PoolCapacity.observation storageClass ⟨m, (CapacityStatistics.legacy counters).normalize⟩
  about _ := rfl

/-! ## Groups -/

namespace PolledEntity

def request (polled : PolledEntity) : Request := statisticsRequest polled.entity

/-- What is observed of an entity that is asked about at some moment, if it
answers. -/
def reading? (client : Client) (polled : PolledEntity) (now : Instant) : Option Observation :=
  (client.statistics polled.entity now).outcome.value?.map polled.observed

/-- What is observed of entities that are asked about one after another. -/
def readAll (client : Client) : List PolledEntity → Instant → List Observation
  | [], _ => []
  | polled :: rest, now =>
      (polled.reading? client now).toList ++
        readAll client rest (now + (client.statistics polled.entity now).delay)

/-- What reading a group gives: nothing at all if it has entities and none of
them answered. -/
def readGroup? (client : Client) (group : List PolledEntity) (now : Instant) :
    Option (List Observation) :=
  match group, readAll client group now with
  | _ :: _, [] => none
  | _, observations => some observations

theorem readGroup?_of_answer {client : Client} {group : List PolledEntity} {now : Instant}
    {o : Observation} {others : List Observation}
    (answered : readAll client group now = o :: others) :
    readGroup? client group now = some (o :: others) := by
  unfold readGroup?
  rw [answered]
  cases group <;> rfl

theorem readGroup?_of_silence {client : Client} {group : List PolledEntity} {now : Instant}
    (asked : group ≠ []) (silent : readAll client group now = []) :
    readGroup? client group now = none := by
  obtain ⟨first, rest, rfl⟩ := List.exists_cons_of_ne_nil asked
  unfold readGroup?
  rw [silent]

theorem entity_of_reading? {client : Client} {polled : PolledEntity} {now : Instant}
    {o : Observation} (read : polled.reading? client now = some o) : o.entity = polled.entity := by
  obtain ⟨counters, -, rfl⟩ := Option.map_eq_some_iff.mp read
  exact polled.about counters

/-- A group that gives nothing has observed nothing. -/
theorem flatten_readGroup? (client : Client) (group : List PolledEntity) (now : Instant) :
    (readGroup? client group now).toList.flatten = readAll client group now := by
  unfold readGroup?
  split
  · next silent => exact silent.symm
  · exact List.append_nil _

end PolledEntity

open PolledEntity Routine

/-- Whether a retriever for a group has read it: it asked once for each of the
entities, and gave a record of what was observed. -/
structure Completion.Polls {ρ : Type} (completion : Completion ρ) (client : Client)
    (observations : ρ → List Observation) (group : List PolledEntity) (now : Instant) :
    Prop where
  requests : completion.calls.map (·.2) = group.map (·.request)
  reading : completion.outcome.value?.map observations = readGroup? client group now

/-! ## Readers -/

/-- How the entities of a kind are found, and how they are read one by one. -/
structure PollReader (context : CollectionContext) (ε ι ρ : Type) extends
    BulkReader context ε ι ρ where
  polled : ε → List PolledEntity
  /-- What a retriever asks about. -/
  group : ι → List PolledEntity
  group_retriever : ∀ generation batch item, group (retriever generation batch item) = polled item
  passes : PassesGeneration context.client find
  polls : context.client.Calm → ∀ item now,
    (work (retriever .legacy .empty item) now).Polls context.client observations (polled item) now

namespace PollReader

variable {context : CollectionContext} {ε ι ρ : Type} (reader : PollReader context ε ι ρ)

/-- What is found: one group for each retriever. -/
def groups : Routine (List (List PolledEntity)) := do
  let (_, found) ← reader.find
  return found.map reader.polled

end PollReader

/-- A single request is the reading of a group of one. -/
theorem polls_of_call {ρ : Type} {client : Client} {observations : ρ → List Observation}
    (polled : PolledEntity) {toRecord : polled.entity.1.Counters → ρ}
    (tells : ∀ counters, observations (toRecord counters) = [polled.observed counters])
    (now : Instant) :
    ((call polled.request (client.statistics polled.entity) >>= fun counters =>
      done (toRecord counters)) now).Polls client observations [polled] now := by
  have asked : (call polled.request (client.statistics polled.entity) now).outcome =
      (client.statistics polled.entity now).outcome := rfl
  constructor
  · exact congrArg (List.map Prod.snd) (calls_bind_pure _ toRecord now)
  · cases ended : (client.statistics polled.entity now).outcome with
    | done counters =>
        rw [bind_of_done (asked.trans ended)]
        simp [readGroup?, readAll, reading?, ended, Outcome.value?, done, tells]
    | failed fault =>
        rw [bind_of_failed (asked.trans ended)]
        simp [readGroup?, readAll, reading?, ended, Outcome.value?]
    | panicked panic =>
        rw [bind_of_panicked (asked.trans ended)]
        simp [readGroup?, readAll, reading?, ended, Outcome.value?]

variable (context : CollectionContext)

theorem SdcRetriever.polls_record (client : Client) (entity : SdcMeta) (batch : BulkBatch)
    (now : Instant) :
    ((SdcRetriever.mk entity .legacy batch).record client now).Polls client
      (fun record => [record.observation]) [entity.polled] now := by
  have asks : (SdcRetriever.mk entity .legacy batch).record client =
      call entity.polled.request (client.statistics entity.polled.entity) >>= fun counters =>
        done ⟨entity, (IoStatistics.legacy counters).normalize⟩ := by
    simp only [SdcRetriever.record, SdcRetriever.statistics, bind_assoc, pure_bind]
    rfl
  rw [asks]
  exact polls_of_call entity.polled (fun _ => rfl) now

def sdcPolls : PollReader context SdcMeta SdcRetriever SdcRecord where
  toBulkReader := sdcReader context
  polled entity := [entity.polled]
  group retriever := [retriever.entity.polled]
  group_retriever _ _ _ := rfl
  passes := resolveSdcs_passes context
  polls _ entity now := SdcRetriever.polls_record context.client entity .empty now

theorem VolumeRetriever.polls_record (client : Client) (entity : VolumeMeta) (batch : BulkBatch)
    (now : Instant) :
    ((VolumeRetriever.mk entity .legacy batch).record client now).Polls client
      (fun record => [record.observation]) [entity.polled] now := by
  have asks : (VolumeRetriever.mk entity .legacy batch).record client =
      call entity.polled.request (client.statistics entity.polled.entity) >>= fun counters =>
        done ⟨entity, (IoStatistics.legacy counters).normalize⟩ := by
    simp only [VolumeRetriever.record, VolumeRetriever.statistics, bind_assoc, pure_bind]
    rfl
  rw [asks]
  exact polls_of_call entity.polled (fun _ => rfl) now

def volumePolls : PollReader context VolumeMeta VolumeRetriever VolumeRecord where
  toBulkReader := volumeReader context
  polled entity := [entity.polled]
  group retriever := [retriever.entity.polled]
  group_retriever _ _ _ := rfl
  passes := findVolumes_passes context
  polls _ entity now := VolumeRetriever.polls_record context.client entity .empty now

/-! ## Storage classes -/

namespace StorageClassRetriever

variable {client : Client}

/-- The retrievers of pools on a legacy system. -/
def legacyPools (pools : List StoragePoolMeta) : List PoolRetriever :=
  pools.map fun pool => ⟨pool, .legacy, .empty⟩

/-- Asking about a pool, on a gateway that does not break off. -/
theorem attempt_statistics (calm : client.Calm) (storageClass : StorageClassMeta)
    (pool : StoragePoolMeta) (now : Instant) :
    ∃ answer, ((PoolRetriever.mk pool .legacy .empty).statistics client).attempt now =
        ⟨.done answer, now + (client.poolStatistics pool.id now).delay,
          [(now, .poolStatistics pool.id)], []⟩ ∧
      (pool.polled storageClass).reading? client now = answer.toOption.map fun statistics =>
        PoolCapacity.observation storageClass ⟨pool, statistics.normalize⟩ := by
  have asks : (PoolRetriever.mk pool .legacy .empty).statistics client =
      client.askPoolStatistics pool.id >>= fun counters => done (.legacy counters) := rfl
  have asked : (client.askPoolStatistics pool.id now).outcome =
      (client.poolStatistics pool.id now).outcome := rfl
  have answered : (client.statistics (pool.polled storageClass).entity now).outcome =
      (client.poolStatistics pool.id now).outcome := rfl
  rw [asks]
  unfold attempt reading?
  cases ended : (client.poolStatistics pool.id now).outcome with
  | done counters =>
      refine ⟨.ok (.legacy counters), ?_, ?_⟩
      · rw [bind_of_done (asked.trans ended)]
        rfl
      · rw [answered, ended]
        rfl
  | failed fault =>
      refine ⟨.error fault, ?_, ?_⟩
      · rw [bind_of_failed (asked.trans ended)]
        rfl
      · rw [answered, ended]
        rfl
  | panicked panic => exact absurd ended (calm pool.id now panic)

/-- What the pools of a class come to when they are asked in order: all are
asked, what those that answered say is observed, and there is a last fault
unless all answered. -/
theorem answers_of_legacy (calm : client.Calm) (storageClass : StorageClassMeta)
    (pools : List StoragePoolMeta) (now : Instant) :
    ∃ found last, (answers storageClass client (legacyPools pools) now).outcome =
        .done (found, last) ∧
      (answers storageClass client (legacyPools pools) now).calls.map (·.2) =
        pools.map (fun pool => .poolStatistics pool.id) ∧
      found.map (·.observation storageClass) =
        readAll client (pools.map (·.polled storageClass)) now ∧
      found.length ≤ pools.length ∧ (last = none ↔ found.length = pools.length) := by
  induction pools generalizing now with
  | nil => exact ⟨[], none, rfl, rfl, rfl, Nat.le_refl 0, by simp⟩
  | cons pool rest ih =>
      obtain ⟨answer, attempted, read⟩ := attempt_statistics calm storageClass pool now
      obtain ⟨found, last, ended, asked, told, fewer, faultless⟩ :=
        ih (now + (client.poolStatistics pool.id now).delay)
      have began : (((PoolRetriever.mk pool .legacy .empty).statistics client).attempt now).outcome
          = .done answer := by rw [attempted]
      have pools : legacyPools (pool :: rest) =
          ⟨pool, .legacy, .empty⟩ :: legacyPools rest := rfl
      have told' : readAll client ((pool :: rest).map (·.polled storageClass)) now =
          ((pool.polled storageClass).reading? client now).toList ++
            readAll client (rest.map (·.polled storageClass))
              (now + (client.poolStatistics pool.id now).delay) := rfl
      rw [pools, answers, bind_of_done began, attempted, told', read, ← told]
      cases answer with
      | ok statistics =>
          refine ⟨⟨pool, statistics.normalize⟩ :: found, last, ?_, ?_, rfl,
            Nat.succ_le_succ fewer, ?_⟩
          · simp only [bind_of_done ended]
            rfl
          · simp only [bind_of_done ended, List.map_append, asked]
            simp [pure, done]
          · simpa using faultless
      | error fault =>
          refine ⟨found, last.orElse fun _ => some fault, ?_, ?_, rfl, Nat.le_succ_of_le fewer, ?_⟩
          · simp only [bind_report, bind_of_done ended]
            rfl
          · simp only [bind_report, bind_of_done ended, List.map_append, asked]
            simp [pure, done]
          · have missing : found.length ≠ rest.length + 1 := by omega
            cases last <;> simp [missing]

/-- On a gateway that does not break off, a class gives what its pools that
answered say, and nothing if none of them did. -/
theorem polls_record (calm : client.Calm) (storageClass : StorageClassMeta)
    (pools : List StoragePoolMeta) (now : Instant) :
    ((StorageClassRetriever.mk storageClass (legacyPools pools)).record client now).Polls client
      StorageClassRecord.observations (pools.map (·.polled storageClass)) now := by
  obtain ⟨found, last, ended, asked, told, fewer, faultless⟩ :=
    answers_of_legacy calm storageClass pools now
  unfold record
  rw [bind_of_done ended]
  have requests : (pools.map (·.polled storageClass)).map (·.request) =
      pools.map fun pool => .poolStatistics pool.id := List.map_map ..
  constructor
  · rw [requests, ← asked]
    cases last with
    | none => exact congrArg (List.map Prod.snd) (List.append_nil _)
    | some fault =>
        by_cases silent : found.isEmpty = true <;>
          simp [silent, fail, pure, done]
  · cases found with
    | cons first others =>
        rw [readGroup?_of_answer told.symm]
        cases last <;> rfl
    | nil =>
        cases last with
        | none =>
            obtain rfl := List.length_eq_zero_iff.mp (faultless.mp rfl).symm
            rfl
        | some fault =>
            have asked : pools.map (·.polled storageClass) ≠ [] := by
              intro none
              rw [List.map_eq_nil_iff.mp none] at faultless
              exact absurd (faultless.mpr rfl) (Option.some_ne_none fault)
            rw [readGroup?_of_silence asked told.symm]
            rfl

end StorageClassRetriever

/-- The pools of a class are read in order. -/
def classPolls : PollReader context (StorageClassMeta × List StoragePoolMeta)
    StorageClassRetriever StorageClassRecord where
  toBulkReader := classReader context
  polled := fun (storageClass, pools) => pools.map (·.polled storageClass)
  group retriever := retriever.pools.map fun pool => pool.entity.polled retriever.storageClass
  group_retriever := by
    rintro generation batch ⟨storageClass, pools⟩
    exact List.map_map ..
  passes := findClasses_passes context
  polls := by
    rintro calm ⟨storageClass, pools⟩ now
    exact StorageClassRetriever.polls_record calm storageClass pools now

end StorageTelemetry
