import StorageTelemetry.Proofs.Collection.PassRuns
import StorageTelemetry.Proofs.Statistics.Figures

namespace StorageTelemetry

/-!
# What a pass reports

The enumeration of a pass settles which entities it is about and under which
labels.  What the retrievers learn afterwards only adds figures, so whatever a
pass records is listed by its enumeration, with figures that were normalized.
-/

open Routine

/-! ## Listings -/

/-- An identifier and the labels that go with it. -/
abbrev Listing := List (String × LabelSet)

def SdcRetriever.listing (retriever : SdcRetriever) : Listing :=
  [(retriever.entity.id, retriever.entity.labels)]

def VolumeRetriever.listing (retriever : VolumeRetriever) : Listing :=
  [(retriever.entity.id, retriever.entity.labels)]

def StorageClassRetriever.listing (retriever : StorageClassRetriever) : Listing :=
  retriever.pools.map fun pool => (pool.entity.id, pool.entity.labels retriever.storageClass)

/-- What volumes are listed as.  Where there are none, the entity that stands
for them is listed. -/
def volumeListing (found : List VolumeRetriever) : Listing :=
  if found.isEmpty then [(VolumeMeta.blank.id, VolumeMeta.blank.labels)]
  else found.flatMap (·.listing)

/-- What a pass lists, if its enumeration ends well. -/
def CollectionContext.listing (context : CollectionContext) (now : Instant) :
    EntityKind → Outcome Fault Listing
  | .sdc => (enumerateSdcs context now).outcome.map (·.flatMap (·.listing))
  | .volume => (enumerateVolumes context now).outcome.map volumeListing
  | .storagePool => (enumerateStorageClasses context now).outcome.map (·.flatMap (·.listing))

/-! ## Reports -/

/-- Whether an observation is about a listed entity, under its labels and with
figures that may be published. -/
structure Observation.Reports (o : Observation) (kind : EntityKind) (listing : Listing) : Prop where
  kind_eq : o.kind = kind
  listed : (o.id, o.labels) ∈ listing
  figures : ∀ value ∈ o.values, value.IsFigure

variable {client : Client}

theorem Observation.Reports.mono {o : Observation} {kind : EntityKind} {listing larger : Listing}
    (reports : o.Reports kind listing) (subset : listing ⊆ larger) : o.Reports kind larger :=
  ⟨reports.kind_eq, subset reports.listed, reports.figures⟩

theorem SdcRetriever.record_reports (retriever : SdcRetriever) :
    (retriever.record client).Gives fun record =>
      ∀ o ∈ [record.observation], o.Reports .sdc retriever.listing := by
  refine (gives_any _).bind fun statistics _ => gives_pure ?_
  rw [List.forall_mem_singleton]
  exact ⟨rfl, List.mem_singleton_self _, statistics.isFigure_normalize⟩

theorem VolumeRetriever.record_reports (retriever : VolumeRetriever) :
    (retriever.record client).Gives fun record =>
      ∀ o ∈ [record.observation], o.Reports .volume retriever.listing := by
  refine (gives_any _).bind fun statistics _ => gives_pure ?_
  rw [List.forall_mem_singleton]
  exact ⟨rfl, List.mem_singleton_self _, statistics.isFigure_normalize⟩

/-- Of the pools of a class those that answered keep their descriptions. -/
theorem StorageClassRetriever.answers_reports (storageClass : StorageClassMeta)
    (pools : List PoolRetriever) :
    (answers storageClass client pools).Gives fun found =>
      ∀ pool ∈ found.1, pool.entity ∈ pools.map (·.entity) ∧
        ∀ value ∈ pool.metrics.values, value.IsFigure := by
  induction pools with
  | nil => exact gives_done nofun
  | cons pool rest ih =>
      have among : ∀ {found : List PoolCapacity}, (∀ pool ∈ found,
          pool.entity ∈ rest.map (·.entity) ∧ ∀ value ∈ pool.metrics.values, value.IsFigure) →
          ∀ answered ∈ found, answered.entity ∈ (pool :: rest).map (·.entity) ∧
            ∀ value ∈ answered.metrics.values, value.IsFigure :=
        fun holds answered member => (holds answered member).imp_left (List.mem_cons_of_mem _)
      refine (gives_any _).bind fun answer _ => ?_
      cases answer with
      | ok statistics =>
          refine ih.bind fun found holds => gives_pure ?_
          rw [List.forall_mem_cons]
          exact ⟨⟨List.mem_cons_self, statistics.isFigure_normalize⟩, among holds⟩
      | error fault =>
          exact (gives_any _).bind fun _ _ => ih.bind fun _ holds => gives_pure (among holds)

theorem StorageClassRetriever.record_reports (retriever : StorageClassRetriever) :
    (retriever.record client).Gives fun record =>
      ∀ o ∈ record.observations, o.Reports .storagePool retriever.listing := by
  refine (answers_reports retriever.storageClass retriever.pools).bind fun found holds => ?_
  have reports : ∀ o ∈ StorageClassRecord.observations ⟨retriever.storageClass, found.1⟩,
      o.Reports .storagePool retriever.listing := by
    intro o member
    rcases List.mem_map.mp member with ⟨pool, answered, rfl⟩
    rcases List.mem_map.mp (holds pool answered).1 with ⟨asked, listed, same⟩
    refine ⟨rfl, List.mem_map.mpr ⟨asked, listed, ?_⟩, (holds pool answered).2⟩
    rw [same]
    rfl
  rcases found with ⟨pools, none | fault⟩
  · exact gives_pure reports
  · by_cases silent : pools.isEmpty = true
    · simp only [silent, if_true]
      exact gives_fail fault _
    · simp only [silent]
      exact gives_pure reports

/-- What a pass without volumes records. -/
theorem VolumeRecord.keepAlive_reports :
    VolumeRecord.keepAlive.observation.Reports .volume (volumeListing []) :=
  ⟨rfl, List.mem_singleton_self _, IoMetrics.isFigure_zero⟩

/-! ## Passes -/

section

variable {μ η : Type} {ρ ι : Type}

theorem Outcome.eq_done_of_value? {ε α : Type} {outcome : Outcome ε α} {value : α}
    (given : outcome.value? = some value) : outcome = .done value := by
  cases outcome with
  | done other => exact congrArg Outcome.done (Option.some.inj given)
  | failed reason => cases given
  | panicked panic => cases given

/-- Each record that a run of the pipeline pushes was given by one of its
items. -/
theorem PipelineRun.exists_records {bound count : Nat} {work : ι → Routine ρ}
    {sink : Sink ρ (Exporter μ η)} {items : List ι} {exporter final : Exporter μ η}
    (run : PipelineRun bound work sink items exporter count final) {property : ι → ρ → Prop}
    (gives : ∀ item, (work item).Gives (property item)) :
    ∃ pushed, final = (Pipeline.pushAll sink pushed exporter).2 ∧
      ∀ record ∈ pushed, ∃ item ∈ items, property item record := by
  rcases run.exists_starts with ⟨starts, pushed, rfl, perm, -, rfl⟩
  refine ⟨pushed, rfl, ?_⟩
  intro record member
  rcases List.mem_filterMap.mp (perm.mem_iff.mp member) with ⟨⟨item, start⟩, listed, gave⟩
  have ended := Outcome.eq_done_of_value? gave
  exact ⟨item, List.mem_map_of_mem (f := Prod.fst) listed, gives item start record ended⟩

variable [Meter μ η]

/-- A run of the pipeline is a run of attempts, each to record something that
an item reports. -/
theorem PipelineRun.exists_reports {bound count : Nat} {work : ι → Routine ρ}
    {sink : Sink ρ (Exporter μ η)} {toCall : ρ → RecordCall} (calls : sink.Calls toCall)
    {kind : EntityKind} {listing : ι → Listing}
    (gives : ∀ item, (work item).Gives fun record =>
      ∀ o ∈ (toCall record).observations, o.Reports kind (listing item))
    {items : List ι} {exporter final : Exporter μ η}
    (run : PipelineRun bound work sink items exporter count final) :
    ∃ reports, final = (exporter.attemptAll reports).2 ∧
      ∀ o ∈ reports, o.Reports kind (items.flatMap listing) := by
  rcases run.exists_records gives with ⟨pushed, rfl, given⟩
  refine ⟨(pushed.map toCall).flatMap (·.observations), ?_, ?_⟩
  · rw [calls.pushAll, Exporter.callAll_eq]
  · intro o member
    rcases List.mem_flatMap.mp member with ⟨call, made, told⟩
    rcases List.mem_map.mp made with ⟨record, listed, rfl⟩
    rcases given record listed with ⟨item, among, reports⟩
    exact (reports o told).mono fun entry own => List.mem_flatMap.mpr ⟨item, among, own⟩

theorem RunAfter.exists_reports {enumerate : Routine (List ι)} {kind : EntityKind}
    {run : List ι → Exporter μ η → Nat → Exporter μ η → Prop} {listing : List ι → Listing}
    {now : Instant} {count : Nat} {exporter final : Exporter μ η}
    (ran : RunAfter enumerate run now exporter (.done count) final)
    (each : ∀ items, run items exporter count final →
      ∃ reports, final = (exporter.attemptAll reports).2 ∧
        ∀ o ∈ reports, o.Reports kind (listing items)) :
    ∃ listed reports, (enumerate now).outcome.map listing = .done listed ∧
      final = (exporter.attemptAll reports).2 ∧ ∀ o ∈ reports, o.Reports kind listed := by
  unfold RunAfter at ran
  cases ended : (enumerate now).outcome with
  | done items =>
      rw [ended] at ran
      rcases ran with ⟨pushed, same, ran⟩
      cases same
      rcases each items ran with ⟨reports, left, told⟩
      exact ⟨listing items, reports, rfl, left, told⟩
  | failed fault =>
      rw [ended] at ran
      cases ran.1
  | panicked panic =>
      rw [ended] at ran
      cases ran.1

variable {context : CollectionContext} {kind : EntityKind} {now : Instant} {count : Nat}
  {exporter final : Exporter μ η}

/-- A pass that gives a count is a run of attempts, each to record something
that its enumeration listed. -/
theorem PassRun.exists_reports (run : PassRun context kind now exporter (.done count) final) :
    ∃ listed reports, context.listing now kind = .done listed ∧
      final = (exporter.attemptAll reports).2 ∧ ∀ o ∈ reports, o.Reports kind listed := by
  cases kind with
  | sdc =>
      apply RunAfter.exists_reports run
      intro items ran
      exact ran.exists_reports sdcSink_calls fun retriever => retriever.record_reports
  | volume =>
      apply RunAfter.exists_reports run
      intro items ran
      by_cases none : items.isEmpty = true
      · rw [if_pos none] at ran
        refine ⟨[VolumeRecord.keepAlive.observation], ?_, ?_⟩
        · rw [ran.exists_pushed.2, volumeSink_calls.pushAll, Exporter.callAll_eq]
          rfl
        · rw [List.forall_mem_singleton, List.isEmpty_iff.mp none]
          exact VolumeRecord.keepAlive_reports
      · rw [if_neg none] at ran
        rw [volumeListing, if_neg none]
        exact ran.exists_reports volumeSink_calls fun retriever => retriever.record_reports
  | storagePool =>
      apply RunAfter.exists_reports run
      intro items ran
      exact ran.exists_reports storageClassSink_calls fun retriever => retriever.record_reports

end

end StorageTelemetry
