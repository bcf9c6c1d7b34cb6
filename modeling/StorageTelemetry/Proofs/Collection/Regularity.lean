import StorageTelemetry.Proofs.Collection.Routines

namespace StorageTelemetry

/-!
# Routines on a gateway with fixed answers

If the answer of the gateway to each request does not depend on when it is
asked, then neither does the end of any routine that is made of requests.  It
may take longer or shorter, but a routine never ends before it begins.
-/

/-- A gateway whose answer to each request of a pass is the same at any
moment.  How long it takes to answer may vary. -/
structure Client.Fixed (client : Client) : Prop where
  generation : ∀ now other, (client.generation now).outcome = (client.generation other).outcome
  sdcs : ∀ now other, (client.sdcs now).outcome = (client.sdcs other).outcome
  sdcVolumes : ∀ id now other,
    (client.sdcVolumes id now).outcome = (client.sdcVolumes id other).outcome
  sdcStatistics : ∀ id now other,
    (client.sdcStatistics id now).outcome = (client.sdcStatistics id other).outcome
  volumeStatistics : ∀ id now other,
    (client.volumeStatistics id now).outcome = (client.volumeStatistics id other).outcome
  pools : ∀ now other, (client.pools now).outcome = (client.pools other).outcome
  poolStatistics : ∀ id now other,
    (client.poolStatistics id now).outcome = (client.poolStatistics id other).outcome
  bulk : ∀ query now other, (client.bulk query now).outcome = (client.bulk query other).outcome

namespace Routine

variable {α β : Type}

/-- A routine that ends the same way whenever it begins, and not before it
begins. -/
structure Regular (routine : Routine α) : Prop where
  steady : ∀ now other, (routine now).outcome = (routine other).outcome
  forward : ∀ now, now ≤ (routine now).finish

theorem regular_pure (value : α) : Regular (pure value) := ⟨fun _ _ => rfl, Nat.le_refl⟩

theorem regular_done (value : α) : Regular (done value) := ⟨fun _ _ => rfl, Nat.le_refl⟩

theorem regular_fail (fault : Fault) : Regular (fail fault : Routine α) :=
  ⟨fun _ _ => rfl, Nat.le_refl⟩

theorem regular_report (entry : LogEntry) : Regular (report entry) :=
  ⟨fun _ _ => rfl, Nat.le_refl⟩

theorem regular_ofExcept (answer : Except Fault α) : Regular (ofExcept answer) := by
  cases answer with
  | ok value => exact regular_done value
  | error fault => exact regular_fail fault

theorem regular_call {request : Request} {ask : Instant → Reply α}
    (fixed : ∀ now other, (ask now).outcome = (ask other).outcome) :
    Regular (call request ask) :=
  ⟨fixed, forward_call request ask⟩

theorem Regular.bind {routine : Routine α} {next : α → Routine β} (regular : routine.Regular)
    (regulars : ∀ value, (next value).Regular) : Regular (routine >>= next) := by
  constructor
  · intro now other
    simp only [Bind.bind, andThen]
    rw [regular.steady now other]
    cases (routine other).outcome with
    | done value => exact (regulars value).steady _ _
    | failed fault => rfl
    | panicked panic => rfl
  · exact Forward.bind regular.forward fun value => (regulars value).forward

theorem Regular.attempt {routine : Routine α} (regular : routine.Regular) :
    Regular routine.attempt := by
  constructor
  · intro now other
    simp only [Routine.attempt]
    rw [regular.steady now other]
  · exact regular.forward

theorem regular_reports (entries : List LogEntry) : Regular (entries.forM report) := by
  induction entries with
  | nil => exact regular_pure ()
  | cons entry rest ih => exact (regular_report entry).bind fun _ => ih

end Routine

open Routine

/-! ## Enumeration -/

variable {context : CollectionContext}

theorem BulkBatch.regular_fetchFor {client : Client} (fixed : client.Fixed)
    (generation : Generation) (resourceType : String) (ids metrics : List String) :
    (fetchFor generation client resourceType ids metrics).Regular := by
  cases generation with
  | legacy => exact regular_done _
  | bulk =>
      unfold fetchFor fetch
      by_cases nothing : ids.isEmpty = true
      · simp only [nothing, if_true]
        exact regular_done _
      · simp only [nothing]
        refine (regular_call (fixed.bulk _)).bind fun response => ?_
        cases fault? resourceType ids response with
        | none => exact regular_pure _
        | some fault => exact regular_fail fault

theorem regular_resolveSdcs (fixed : context.client.Fixed) : (resolveSdcs context).Regular :=
  (regular_call fixed.generation).bind fun _ =>
    (regular_ofExcept _).bind fun _ =>
      (regular_call fixed.sdcs).bind fun _ => regular_pure _

theorem regular_enumerateSdcs (fixed : context.client.Fixed) : (enumerateSdcs context).Regular :=
  (regular_resolveSdcs fixed).bind fun _ =>
    (BulkBatch.regular_fetchFor fixed _ _ _ _).bind fun _ => regular_pure _

theorem regular_visitSdcs {client : Client} (fixed : client.Fixed)
    (managed : Table String VolumeEntry) (sdcs : List SdcMeta) (entities : List VolumeMeta) :
    (visitSdcs client managed sdcs entities).Regular := by
  induction sdcs generalizing entities with
  | nil => exact regular_done entities
  | cons sdc rest ih =>
      refine (regular_call (fixed.sdcVolumes sdc.id)).attempt.bind fun answer => ?_
      cases answer with
      | ok volumes => exact ih _
      | error fault => exact (regular_report _).bind fun _ => ih _

theorem regular_enumerateVolumes (fixed : context.client.Fixed) :
    (enumerateVolumes context).Regular :=
  (regular_resolveSdcs fixed).bind fun _ =>
    (regular_ofExcept _).bind fun _ =>
      (regular_visitSdcs fixed _ _ _).bind fun _ =>
        (BulkBatch.regular_fetchFor fixed _ _ _ _).bind fun _ => regular_pure _

theorem regular_enumerateStorageClasses (fixed : context.client.Fixed) :
    (enumerateStorageClasses context).Regular :=
  (regular_call fixed.generation).bind fun _ =>
    (regular_ofExcept _).bind fun _ =>
      (regular_call fixed.pools).bind fun _ =>
        (regular_reports _).bind fun _ =>
          (BulkBatch.regular_fetchFor fixed _ _ _ _).bind fun _ => regular_pure _

/-! ## Retrieval -/

variable {client : Client}

theorem SdcRetriever.regular_record (fixed : client.Fixed) (retriever : SdcRetriever) :
    (retriever.record client).Regular := by
  refine Regular.bind ?_ fun _ => regular_pure _
  unfold statistics
  cases retriever.generation with
  | legacy => exact (regular_call (fixed.sdcStatistics _)).bind fun _ => regular_pure _
  | bulk => exact (regular_ofExcept _).bind fun _ => regular_pure _

theorem VolumeRetriever.regular_record (fixed : client.Fixed) (retriever : VolumeRetriever) :
    (retriever.record client).Regular := by
  refine Regular.bind ?_ fun _ => regular_pure _
  unfold statistics
  cases retriever.generation with
  | legacy => exact (regular_call (fixed.volumeStatistics _)).bind fun _ => regular_pure _
  | bulk => exact (regular_ofExcept _).bind fun _ => regular_pure _

theorem PoolRetriever.regular_statistics (fixed : client.Fixed) (retriever : PoolRetriever) :
    (retriever.statistics client).Regular := by
  unfold statistics
  cases retriever.generation with
  | legacy => exact (regular_call (fixed.poolStatistics _)).bind fun _ => regular_pure _
  | bulk => exact (regular_ofExcept _).bind fun _ => regular_pure _

theorem StorageClassRetriever.regular_answers (fixed : client.Fixed)
    (storageClass : StorageClassMeta) (pools : List PoolRetriever) :
    (answers storageClass client pools).Regular := by
  induction pools with
  | nil => exact regular_done _
  | cons pool rest ih =>
      refine (pool.regular_statistics fixed).attempt.bind fun answer => ?_
      cases answer with
      | ok statistics => exact ih.bind fun _ => regular_pure _
      | error fault => exact (regular_report _).bind fun _ => ih.bind fun _ => regular_pure _

theorem StorageClassRetriever.regular_record (fixed : client.Fixed)
    (retriever : StorageClassRetriever) : (retriever.record client).Regular := by
  refine (regular_answers fixed _ _).bind fun answers => ?_
  obtain ⟨pools, last⟩ := answers
  cases last with
  | none => exact regular_pure _
  | some fault =>
      by_cases silent : pools.isEmpty = true
      · simp only [silent, if_true]
        exact regular_fail fault
      · simp only [silent]
        exact regular_pure _

end StorageTelemetry
