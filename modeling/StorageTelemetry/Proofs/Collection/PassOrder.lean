import StorageTelemetry.Proofs.Collection.Distinctness
import StorageTelemetry.Proofs.Collection.Regularity
import StorageTelemetry.Proofs.Pipeline.Timeline
import StorageTelemetry.Proofs.Recording.Agreement

namespace StorageTelemetry

/-!
# Passes in any order

A pass may be run in many ways: the workers of the gather stage take items
when they are free, and records are pushed by tasks in any order.  Here all of
these are compared with the plainest way, in which the entities that were
enumerated are handled one after another.

Whatever the order, the same records reach the exporter, because each item
gives the same record at any moment and the pipeline loses and doubles none.
That they arrive in another order does not matter, because they are about
different entities.
-/

open Routine

/-! ## Sinks -/

section

variable {μ η : Type} [Meter μ η] {ρ : Type}

/-- Whether a sink attempts to record what a record says, and gives an
identifier if nothing failed. -/
structure Sink.Records (sink : Sink ρ (Exporter μ η)) (observations : ρ → List Observation) :
    Prop where
  exporter : ∀ record exporter,
    (sink record exporter).2.1 = (exporter.attemptAll (observations record)).2
  done : ∀ record exporter, faultsOf (exporter.attemptAll (observations record)).1 = [] →
    ∃ id, (sink record exporter).1 = .done id

/-- Sinks are made from the calls that record. -/
theorem recordSink_records {id : ρ → String}
    {store : Exporter μ η → ρ → Except Fault Unit × Exporter μ η × List LogEntry}
    (toCall : ρ → RecordCall)
    (stores : ∀ exporter record, ((store exporter record).1, (store exporter record).2.1) =
      exporter.call (toCall record)) :
    Sink.Records (recordSink id store) fun record => (toCall record).observations := by
  constructor
  · intro record exporter
    have stored := (stores exporter record).trans (exporter.call_eq (toCall record))
    exact congrArg Prod.snd stored
  · intro record exporter faultless
    have stored := (stores exporter record).trans (exporter.call_eq (toCall record))
    have answer : (store exporter record).1 = .ok () := by
      have first := congrArg Prod.fst stored
      rw [faultless] at first
      exact first
    refine ⟨id record, ?_⟩
    simp only [recordSink, answer]
    rfl

theorem sdcSink_records :
    Sink.Records (sdcSink : Sink SdcRecord (Exporter μ η)) fun record => [record.observation] :=
  recordSink_records .sdc fun _ _ => rfl

theorem volumeSink_records :
    Sink.Records (volumeSink : Sink VolumeRecord (Exporter μ η))
      fun record => [record.observation] :=
  recordSink_records .volume fun _ _ => rfl

theorem storageClassSink_records :
    Sink.Records (storageClassSink : Sink StorageClassRecord (Exporter μ η))
      StorageClassRecord.observations :=
  recordSink_records .capacity fun _ _ => rfl

/-- On a meter that never refuses, every record that is pushed gives an
identifier, and the exporter realizes what all of them say. -/
theorem Sink.Records.pushAll {sink : Sink ρ (Exporter μ η)} {observations : ρ → List Observation}
    (records : sink.Records observations) {view : MeterView μ η} (lawful : view.Lawful)
    (willing : ¬view.refuses) {exporter : Exporter μ η} {earlier : List Observation}
    (realizes : exporter.Realizes view earlier) (pushed : List ρ) :
    (Pipeline.pushAll sink pushed exporter).1.length = pushed.length ∧
      (Pipeline.pushAll sink pushed exporter).2.Realizes view
        (earlier ++ pushed.flatMap observations) := by
  induction pushed generalizing exporter earlier with
  | nil => exact ⟨rfl, by simpa [Pipeline.pushAll] using realizes⟩
  | cons record rest ih =>
      obtain ⟨faultless, after⟩ := realizes.attemptAll_ok lawful willing (observations record)
      rcases records.done record exporter faultless with ⟨id, done⟩
      rw [← records.exporter record exporter] at after
      obtain ⟨length, others⟩ := ih after
      simp only [Pipeline.pushAll, done, List.flatMap_cons]
      refine ⟨?_, ?_⟩
      · simp [Outcome.value?, length]
      · rwa [← List.append_assoc]

end

/-! ## One after another -/

section

variable {μ η : Type} {ι ρ : Type}

/-- Handles items one after another: each is read, and its record is pushed
before the next is read.  The answer is the number of identifiers. -/
def handleInOrder (work : ι → Routine ρ) (sink : Sink ρ (Exporter μ η)) :
    List ι → Instant → Exporter μ η → Nat × Exporter μ η
  | [], _, exporter => (0, exporter)
  | item :: rest, now, exporter =>
      let completion := work item now
      match completion.outcome.value? with
      | some record =>
          let called := sink record exporter
          let others := handleInOrder work sink rest completion.finish called.2.1
          (called.1.value?.toList.length + others.1, others.2)
      | none => handleInOrder work sink rest completion.finish exporter

/-- Enumerates, and handles what was found one after another. -/
def inOrderAfter (enumerate : Routine (List ι))
    (handle : List ι → Instant → Exporter μ η → Nat × Exporter μ η) (now : Instant)
    (exporter : Exporter μ η) : Outcome Fault Nat × Exporter μ η :=
  let found := enumerate now
  match found.outcome with
  | .done items =>
      let handled := handle items found.finish exporter
      (.done handled.1, handled.2)
  | .failed fault => (.failed fault, exporter)
  | .panicked panic => (.panicked panic, exporter)

/-- The records that items give. -/
def recordsOf (work : ι → Routine ρ) (items : List ι) : List ρ :=
  items.filterMap fun item => (work item 0).outcome.value?

theorem recordsOf_cons (work : ι → Routine ρ) (item : ι) (rest : List ι) :
    recordsOf work (item :: rest) =
      (work item 0).outcome.value?.toList ++ recordsOf work rest := by
  cases gave : (work item 0).outcome.value? with
  | none => exact List.filterMap_cons_none gave
  | some record => exact List.filterMap_cons_some gave

/-- Handling items one after another pushes their records in order. -/
theorem handleInOrder_eq {work : ι → Routine ρ} (regular : ∀ item, (work item).Regular)
    (sink : Sink ρ (Exporter μ η)) (items : List ι) (now : Instant) (exporter : Exporter μ η) :
    handleInOrder work sink items now exporter =
      ((Pipeline.pushAll sink (recordsOf work items) exporter).1.length,
        (Pipeline.pushAll sink (recordsOf work items) exporter).2) := by
  induction items generalizing now exporter with
  | nil => rfl
  | cons item rest ih =>
      rw [recordsOf_cons, handleInOrder, (regular item).steady now 0]
      cases (work item 0).outcome.value? with
      | none => exact ih _ exporter
      | some record =>
          simp only [Option.toList_some, List.singleton_append, Pipeline.pushAll,
            List.length_append, ih]

/-! ## In any order -/

/-- A run of the pipeline over some items, each of which is read from some
moment on, in any order of moves up to the end: the number of identifiers that
were read and the exporter that is left. -/
def PipelineRun (bound : Nat) (work : ι → Routine ρ) (sink : Sink ρ (Exporter μ η))
    (items : List ι) (exporter : Exporter μ η) (count : Nat) (final : Exporter μ η) : Prop :=
  ∃ (jobs : List (GatherJob ι ρ)) (stages : Pipeline.Stages) (actions : List Pipeline.Action)
    (state : Pipeline (GatherJob ι ρ) ρ (Exporter μ η)),
    jobs.map (·.item) = items ∧ (∀ job ∈ jobs, job.result = work job.item job.start) ∧
      .dropReader ∉ actions ∧
      Pipeline.run? stages GatherJob.outcome sink (.start bound jobs exporter) actions =
        some state ∧
      state.finished = true ∧ state.drained.length = count ∧ state.shared = final

/-- A pipeline that holds the record of a pass without volumes. -/
def keepAliveStart (exporter : Exporter μ η) : Pipeline Unit VolumeRecord (Exporter μ η) :=
  let initial : Pipeline Unit VolumeRecord (Exporter μ η) := .start 1 [] exporter
  { initial with gather := { initial.gather with output := [.keepAlive] } }

/-- A pass that enumerates from some moment on and goes on with any run. -/
def RunAfter (enumerate : Routine (List ι))
    (run : List ι → Exporter μ η → Nat → Exporter μ η → Prop) (now : Instant)
    (exporter : Exporter μ η) (result : Outcome Fault Nat) (final : Exporter μ η) : Prop :=
  match (enumerate now).outcome with
  | .done items => ∃ count, result = .done count ∧ run items exporter count final
  | .failed fault => result = .failed fault ∧ final = exporter
  | .panicked panic => result = .panicked panic ∧ final = exporter

/-- A run after an enumeration that ends well. -/
theorem RunAfter.of_done {enumerate : Routine (List ι)} {now : Instant}
    {run : List ι → Exporter μ η → Nat → Exporter μ η → Prop} {exporter final : Exporter μ η}
    {result : Outcome Fault Nat} (ran : RunAfter enumerate run now exporter result final)
    {items : List ι} (ended : (enumerate now).outcome = .done items) :
    ∃ count, result = .done count ∧ run items exporter count final := by
  unfold RunAfter at ran
  rwa [ended] at ran

/-- The records that items give when each is read from a moment on. -/
def recordsFrom (work : ι → Routine ρ) (starts : List (ι × Instant)) : List ρ :=
  starts.filterMap fun (item, start) => (work item start).outcome.value?

/-- Every run of the pipeline reads each item from some moment on, and pushes
the records that this gives, in some order. -/
theorem PipelineRun.exists_starts {bound : Nat} {work : ι → Routine ρ} {items : List ι}
    {sink : Sink ρ (Exporter μ η)} {exporter final : Exporter μ η} {count : Nat}
    (run : PipelineRun bound work sink items exporter count final) :
    ∃ starts pushed, starts.map (·.1) = items ∧ pushed.Perm (recordsFrom work starts) ∧
      count = (Pipeline.pushAll sink pushed exporter).1.length ∧
      final = (Pipeline.pushAll sink pushed exporter).2 := by
  rcases run with ⟨jobs, stages, actions, state, rfl, results, kept, ran, finished, rfl, rfl⟩
  rcases Pipeline.exists_pushed_of_finished kept ran finished with ⟨pushed, perm, shared, drained⟩
  refine ⟨jobs.map fun job => (job.item, job.start), pushed, ?_, perm.trans (List.Perm.of_eq ?_),
    congrArg List.length drained, shared⟩
  · rw [List.map_map]
    rfl
  · rw [recordsFrom, List.filterMap_map]
    refine List.filterMap_congr fun job member => ?_
    simp only [Function.comp_apply, GatherJob.outcome, results job member]
    cases (work job.item job.start).outcome <;> rfl

/-- Every run of the pipeline pushes the records of the items, in some order. -/
theorem PipelineRun.exists_pushed {bound : Nat} {work : ι → Routine ρ} {items : List ι}
    (regular : ∀ item ∈ items, (work item).Regular) {sink : Sink ρ (Exporter μ η)}
    {exporter final : Exporter μ η} {count : Nat}
    (run : PipelineRun bound work sink items exporter count final) :
    ∃ pushed, pushed.Perm (recordsOf work items) ∧
      count = (Pipeline.pushAll sink pushed exporter).1.length ∧
      final = (Pipeline.pushAll sink pushed exporter).2 := by
  rcases run.exists_starts with ⟨starts, pushed, rfl, perm, counted, left⟩
  refine ⟨pushed, perm.trans (List.Perm.of_eq ?_), counted, left⟩
  rw [recordsOf, recordsFrom, List.filterMap_map]
  refine List.filterMap_congr fun entry member => ?_
  have steady := (regular entry.1 (List.mem_map_of_mem member)).steady entry.2 0
  exact congrArg Outcome.value? steady

end

/-! ## Passes -/

section

variable {μ η : Type} [Meter μ η]

/-- A pass in which the enumerated entities are handled one after another. -/
def passInOrder (context : CollectionContext) :
    EntityKind → Instant → Exporter μ η → Outcome Fault Nat × Exporter μ η
  | .sdc => inOrderAfter (enumerateSdcs context)
      (handleInOrder (·.record context.client) sdcSink)
  | .volume => inOrderAfter (enumerateVolumes context) fun retrievers =>
      if retrievers.isEmpty then
        handleInOrder (fun _ : Unit => .done VolumeRecord.keepAlive) volumeSink [()]
      else handleInOrder (·.record context.client) volumeSink retrievers
  | .storagePool => inOrderAfter (enumerateStorageClasses context)
      (handleInOrder (·.record context.client) storageClassSink)

/-- A run of the pipeline in a pass without volumes, in any order of moves. -/
def KeepAliveRun (exporter : Exporter μ η) (count : Nat) (final : Exporter μ η) : Prop :=
  ∃ (stages : Pipeline.Stages) (actions : List Pipeline.Action)
    (state : Pipeline Unit VolumeRecord (Exporter μ η)), .dropReader ∉ actions ∧
      Pipeline.run? stages (fun _ => .done .keepAlive) volumeSink (keepAliveStart exporter)
        actions = some state ∧
      state.finished = true ∧ state.drained.length = count ∧ state.shared = final

/-- The ways in which a pass over one kind of entities may run, with what it
answers and the exporter it leaves. -/
def PassRun (context : CollectionContext) : EntityKind → Instant → Exporter μ η →
    Outcome Fault Nat → Exporter μ η → Prop
  | .sdc => RunAfter (enumerateSdcs context)
      (PipelineRun context.bound (·.record context.client) sdcSink)
  | .volume => RunAfter (enumerateVolumes context) fun retrievers =>
      if retrievers.isEmpty then KeepAliveRun
      else PipelineRun context.bound (·.record context.client) volumeSink retrievers
  | .storagePool => RunAfter (enumerateStorageClasses context)
      (PipelineRun context.bound (·.record context.client) storageClassSink)

/-- A pass without volumes pushes its one record. -/
theorem KeepAliveRun.exists_pushed {exporter final : Exporter μ η} {count : Nat}
    (run : KeepAliveRun exporter count final) :
    count = (Pipeline.pushAll volumeSink [.keepAlive] exporter).1.length ∧
      final = (Pipeline.pushAll volumeSink [.keepAlive] exporter).2 := by
  rcases run with ⟨stages, actions, state, kept, ran, finished, rfl, rfl⟩
  -- The state it starts from is reached by taking and finishing a single item.
  have whole : Pipeline.run? stages (fun _ => .done .keepAlive) volumeSink
      (.start 1 [()] exporter) (.gather (.take 0) :: .gather (.finish 0) :: actions) =
        some state := ran
  have kept' : Pipeline.Action.dropReader ∉
      .gather (.take 0) :: .gather (.finish 0) :: actions := by
    simpa using kept
  rcases Pipeline.exists_pushed_of_finished kept' whole finished with
    ⟨pushed, perm, shared, drained⟩
  have only : pushed = [.keepAlive] := List.perm_singleton.mp perm
  rw [only] at shared drained
  exact ⟨congrArg List.length drained, shared⟩

end

end StorageTelemetry
