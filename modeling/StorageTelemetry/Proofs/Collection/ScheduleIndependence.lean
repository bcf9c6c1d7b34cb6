import StorageTelemetry.Proofs.Collection.PassOrder

namespace StorageTelemetry

/-!
# A pass does not depend on scheduling

Every run of a pass is compared with the pass in which the enumerated entities
are handled one after another: both answer the same, and the exporters they
leave cannot be told apart.  That a pass on the clock is one of the runs shows
that there are such runs, and that what the program does is among them.
-/

/-! ## The same records in another order -/

theorem Exporter.Alike.refl (exporter : Exporter Registry Handle) : exporter.Alike exporter :=
  ⟨fun _ _ => rfl, fun _ => rfl, rfl, rfl⟩

section

variable {ι ρ : Type}

/-- Records about different entities may be pushed in any order. -/
theorem Sink.Records.alike_of_perm {sink : Sink ρ (Exporter Registry Handle)}
    {observations : ρ → List Observation} (records : sink.Records observations)
    {exporter : Exporter Registry Handle} (reached : exporter.Reached) {pushed others : List ρ}
    (perm : pushed.Perm others)
    (distinct : ((others.flatMap observations).map (·.entity)).Nodup) :
    (Pipeline.pushAll sink pushed exporter).1.length =
        (Pipeline.pushAll sink others exporter).1.length ∧
      (Pipeline.pushAll sink pushed exporter).2.Alike
        (Pipeline.pushAll sink others exporter).2 := by
  rcases reached.realizes with ⟨earlier, realizes⟩
  have lawful := Registry.view_lawful exporter.meter.bare
  obtain ⟨length, after⟩ := records.pushAll lawful id realizes pushed
  obtain ⟨length', after'⟩ := records.pushAll lawful id realizes others
  refine ⟨length.trans (perm.length_eq.trans length'.symm), after.alike after' fun entity => ?_⟩
  rw [latest?_append, latest?_append,
    latest?_perm (perm.symm.flatMap_right observations) distinct entity]

/-- Items about different entities give records about different entities. -/
theorem nodup_recordsOf {work : ι → Routine ρ} {observations : ρ → List Observation}
    {entities : ι → List Entity}
    (gives : ∀ item, (work item).Gives fun record =>
      ((observations record).map (·.entity)).Sublist (entities item))
    {items : List ι} (distinct : (items.flatMap entities).Nodup) :
    (((recordsOf work items).flatMap observations).map (·.entity)).Nodup := by
  refine List.Nodup.sublist ?_ distinct
  induction items with
  | nil => exact List.Sublist.refl _
  | cons item rest ih =>
      have others := ih (List.nodup_append.mp distinct).2.1
      rw [recordsOf_cons, List.flatMap_append, List.map_append, List.flatMap_cons]
      refine List.Sublist.append ?_ others
      cases ended : (work item 0).outcome with
      | done record => simpa [Outcome.value?] using gives item 0 record ended
      | failed fault => simp [Outcome.value?]
      | panicked panic => simp [Outcome.value?]

/-- What a run of the pipeline answers and leaves is what handling the items
one after another does. -/
theorem PipelineRun.agrees {bound count : Nat} {work : ι → Routine ρ}
    (regular : ∀ item, (work item).Regular) {sink : Sink ρ (Exporter Registry Handle)}
    {observations : ρ → List Observation} (records : sink.Records observations)
    {entities : ι → List Entity}
    (gives : ∀ item, (work item).Gives fun record =>
      ((observations record).map (·.entity)).Sublist (entities item))
    {items : List ι} (distinct : (items.flatMap entities).Nodup)
    {exporter final : Exporter Registry Handle} (reached : exporter.Reached)
    (run : PipelineRun bound work sink items exporter count final) (moment : Instant) :
    count = (handleInOrder work sink items moment exporter).1 ∧
      final.Alike (handleInOrder work sink items moment exporter).2 := by
  rcases run.exists_pushed fun item _ => regular item with ⟨pushed, perm, rfl, rfl⟩
  rw [handleInOrder_eq regular]
  exact records.alike_of_perm reached perm (nodup_recordsOf gives distinct)

/-- A pass agrees with the one in order if what follows its enumeration does. -/
theorem RunAfter.agrees {enumerate : Routine (List ι)} (regular : enumerate.Regular)
    {property : List ι → Prop} (gives : enumerate.Gives property)
    {run : List ι → Exporter Registry Handle → Nat → Exporter Registry Handle → Prop}
    {handle : List ι → Instant → Exporter Registry Handle → Nat × Exporter Registry Handle}
    {exporter : Exporter Registry Handle}
    (each : ∀ items count final, property items → run items exporter count final →
      ∀ moment, count = (handle items moment exporter).1 ∧
        final.Alike (handle items moment exporter).2)
    {now : Instant} {result : Outcome Fault Nat} {final : Exporter Registry Handle}
    (ran : RunAfter enumerate run now exporter result final) (moment : Instant) :
    result = (inOrderAfter enumerate handle moment exporter).1 ∧
      final.Alike (inOrderAfter enumerate handle moment exporter).2 := by
  unfold RunAfter at ran
  simp only [inOrderAfter, regular.steady moment now]
  cases ended : (enumerate now).outcome with
  | done items =>
      rw [ended] at ran
      rcases ran with ⟨count, rfl, ran⟩
      obtain ⟨same, alike⟩ := each items count final (gives now items ended) ran
        (enumerate moment).finish
      exact ⟨congrArg Outcome.done same, alike⟩
  | failed fault =>
      rw [ended] at ran
      obtain ⟨rfl, rfl⟩ := ran
      exact ⟨rfl, Exporter.Alike.refl _⟩
  | panicked panic =>
      rw [ended] at ran
      obtain ⟨rfl, rfl⟩ := ran
      exact ⟨rfl, Exporter.Alike.refl _⟩

end

/-! ## Each kind -/

/-- Entities of one kind are told apart by their identifiers. -/
theorem nodup_entities {ι : Type} (kind : EntityKind) {ids : ι → List String} {items : List ι}
    (distinct : (items.flatMap ids).Nodup) :
    (items.flatMap fun item => (ids item).map fun id => (kind, id)).Nodup := by
  rw [← List.map_flatMap]
  exact distinct.map fun _ _ same => congrArg Prod.snd same

variable {context : CollectionContext} {exporter final : Exporter Registry Handle}
  {result : Outcome Fault Nat} {now : Instant}

theorem sdcRun_agrees (fixed : context.client.Fixed) (apart : context.NodesApart)
    (reached : exporter.Reached) (run : PassRun context .sdc now exporter result final)
    (moment : Instant) :
    result = (passInOrder context .sdc moment exporter).1 ∧
      final.Alike (passInOrder context .sdc moment exporter).2 := by
  refine RunAfter.agrees (regular_enumerateSdcs fixed) (enumerateSdcs_gives apart) ?_ run moment
  intro items count final distinct ran
  have single : (items.flatMap fun retriever => [retriever.entity.id]).Nodup := by
    rwa [← List.map_eq_flatMap]
  refine ran.agrees (fun retriever => retriever.regular_record fixed) sdcSink_records ?_
    (nodup_entities .sdc single) reached
  intro retriever now record ended
  have entity := retriever.record_gives context.client now record ended
  simp [Observation.entity, SdcRecord.observation, entity]

theorem volumeRun_agrees (fixed : context.client.Fixed) (reached : exporter.Reached)
    (run : PassRun context .volume now exporter result final) (moment : Instant) :
    result = (passInOrder context .volume moment exporter).1 ∧
      final.Alike (passInOrder context .volume moment exporter).2 := by
  refine RunAfter.agrees (regular_enumerateVolumes fixed) (enumerateVolumes_gives context) ?_ run
    moment
  intro items count final distinct ran moment
  by_cases none : items.isEmpty = true
  · rw [if_pos none] at ran
    simp only [if_pos none]
    obtain ⟨rfl, rfl⟩ := ran.exists_pushed
    rw [handleInOrder_eq fun _ => Routine.regular_done _]
    exact ⟨rfl, Exporter.Alike.refl _⟩
  · rw [if_neg none] at ran
    simp only [if_neg none]
    have single : (items.flatMap fun retriever => [retriever.entity.id]).Nodup := by
      rwa [← List.map_eq_flatMap]
    refine PipelineRun.agrees (fun retriever => retriever.regular_record fixed)
      volumeSink_records ?_ (nodup_entities .volume single) reached ran moment
    intro retriever now record ended
    have entity := retriever.record_gives context.client now record ended
    simp [Observation.entity, VolumeRecord.observation, entity]

theorem storageClassRun_agrees (fixed : context.client.Fixed) (reached : exporter.Reached)
    (run : PassRun context .storagePool now exporter result final) (moment : Instant) :
    result = (passInOrder context .storagePool moment exporter).1 ∧
      final.Alike (passInOrder context .storagePool moment exporter).2 := by
  refine RunAfter.agrees (regular_enumerateStorageClasses fixed)
    (enumerateStorageClasses_gives context) ?_ run moment
  intro items count final distinct ran
  refine ran.agrees (fun retriever => retriever.regular_record fixed) storageClassSink_records ?_
    (nodup_entities .storagePool distinct) reached
  intro retriever now record ended
  have among := (retriever.record_gives context.client now record ended).map fun entity =>
    ((.storagePool, entity.id) : Entity)
  rw [StorageClassRecord.observations]
  simp only [List.map_map] at among ⊢
  exact among

/-! ## The pass on the clock -/

section

variable {μ η ι ρ : Type}

/-- The pipeline on the clock is one of its runs. -/
theorem runPipeline_is_run (kind : EntityKind) (bound : Nat) {work : ι → Routine ρ}
    (forward : ∀ item now, now ≤ (work item now).finish) (sink : Sink ρ (Exporter μ η))
    (items : List ι) (now : Instant) (exporter : Exporter μ η) :
    ∃ count, (runPipeline kind bound work sink items now exporter).result = .done count ∧
      PipelineRun bound work sink items exporter count
        (runPipeline kind bound work sink items now exporter).exporter := by
  let timed : Instant → ι → Instant × Completion ρ := fun start item =>
    ((work item start).finish, work item start)
  let stages : Pipeline.Stages := ⟨kind.label, kind.label⟩
  let jobs : List (GatherJob ι ρ) := Job.schedule bound now timed items
  let initial : Pipeline (GatherJob ι ρ) ρ (Exporter μ η) := .start bound jobs exporter
  have listed : jobs.map (·.item) = items := Job.items_assign timed _ items
  have length : jobs.length = items.length := by rw [← listed, List.length_map]
  have fits : Gather.Fits initial.gather.workers ((Job.timeline jobs).map (·.2)) := by
    have scheduled := Job.fits_schedule timed (fun start item => forward item start) bound now
      items (GatherJob ι ρ)
    rwa [← length] at scheduled
  have resting : initial.Resting := ⟨rfl, rfl, rfl, rfl⟩
  rcases resting.follow stages GatherJob.outcome sink fits (Job.takes_timeline jobs) with
    ⟨made, kept, ran, rested, queue, free⟩
  rcases Pipeline.exists_stopping_run stages GatherJob.outcome sink rested queue free with
    ⟨stops, state, kept', stopped, finished, shared, drained⟩
  have last := Pipeline.lastState_statesAlong stages GatherJob.outcome sink initial
    (Job.timeline jobs)
  rw [← last] at ran stopped shared drained
  refine ⟨_, rfl, jobs, stages, made ++ stops, state, listed, ?_, ?_, ?_, finished, ?_, shared⟩
  · exact fun job member => Job.result_assign job member
  · exact fun member => (List.mem_append.mp member).elim kept kept'
  · rw [Pipeline.run?_append, ran]
    exact stopped
  · exact congrArg List.length drained

/-- A pass on the clock is a run if what follows its enumeration is. -/
theorem afterEnumeration_is_run {enumerate : Routine (List ι)}
    {run : List ι → Exporter μ η → Nat → Exporter μ η → Prop}
    {rest : List ι → Instant → Exporter μ η → Pass μ η} {now : Instant} {exporter : Exporter μ η}
    (each : ∀ items moment, ∃ count, (rest items moment exporter).result = .done count ∧
      run items exporter count (rest items moment exporter).exporter) :
    RunAfter enumerate run now exporter (afterEnumeration enumerate rest now exporter).result
      (afterEnumeration enumerate rest now exporter).exporter := by
  unfold RunAfter afterEnumeration
  cases ended : (enumerate now).outcome with
  | done items =>
      simp only [ended]
      exact each items (enumerate now).finish
  | failed fault => simp only [ended, and_self]
  | panicked panic => simp only [ended, and_self]

variable [Meter μ η]

/-- Pushing the record of a pass without volumes is one of its runs. -/
theorem pushKeepAlive_is_run (now : Instant) (exporter : Exporter μ η) :
    ∃ count, (pushKeepAlive now exporter).result = .done count ∧
      KeepAliveRun exporter count (pushKeepAlive now exporter).exporter := by
  let stages : Pipeline.Stages := ⟨EntityKind.volume.label, EntityKind.volume.label⟩
  let work : Unit → Outcome String VolumeRecord := fun _ => .done .keepAlive
  -- The state before the single item was finished: its follow-up is the pass.
  let taken : Pipeline Unit VolumeRecord (Exporter μ η) :=
    { keepAliveStart exporter with gather := ⟨[], [.busy ()], [], []⟩ }
  have resting : taken.Resting := ⟨rfl, rfl, rfl, rfl⟩
  have moved : taken.gather.step? stages.gather work (.finish 0) =
      some (keepAliveStart exporter).gather := rfl
  obtain ⟨rested, queue, workers⟩ := resting.followUp volumeSink moved
  rcases Pipeline.exists_run_of_perform stages work volumeSink (keepAliveStart exporter)
    [.receive, .push 0, .read] with ⟨made, among, ran⟩
  rcases Pipeline.exists_stopping_run stages work volumeSink rested queue
    (by rw [workers]; simp [keepAliveStart, Pipeline.start, Gather.start]) with
    ⟨stops, state, kept, stopped, finished, shared, drained⟩
  refine ⟨_, rfl, stages, made ++ stops, state, ?_, ?_, finished, congrArg List.length drained,
    shared⟩
  · intro member
    rcases List.mem_append.mp member with early | late
    · simpa using among.subset early
    · exact kept late
  · rw [Pipeline.run?_append, ran]
    exact stopped

/-- A pass on the clock is one of the runs of a pass, since no retriever gives
its record before it was asked. -/
theorem collect_is_run (context : CollectionContext) (kind : EntityKind) (now : Instant)
    (exporter : Exporter μ η) :
    PassRun context kind now exporter (collect context kind now exporter).result
      (collect context kind now exporter).exporter := by
  cases kind with
  | sdc =>
      refine afterEnumeration_is_run fun items moment => ?_
      exact runPipeline_is_run .sdc context.bound
        (fun retriever => retriever.forward_record context.client) sdcSink items moment exporter
  | volume =>
      refine afterEnumeration_is_run fun items moment => ?_
      by_cases none : items.isEmpty = true
      · simp only [if_pos none]
        exact pushKeepAlive_is_run moment exporter
      · simp only [if_neg none]
        exact runPipeline_is_run .volume context.bound
          (fun retriever => retriever.forward_record context.client) volumeSink items moment
          exporter
  | storagePool =>
      refine afterEnumeration_is_run fun items moment => ?_
      exact runPipeline_is_run .storagePool context.bound
        (fun retriever => retriever.forward_record context.client) storageClassSink items moment
        exporter

end

/-! ## Independence -/

/-- On a gateway with fixed answers and over a registry, a pass over any kind,
from any exporter that can come about and with any bound on its workers,
answers the same and leaves an exporter that is alike, whatever the order in
which workers and push tasks move: what comes of it is what handling the
enumerated entities one after another gives, from whatever moment on.  For data
clients this needs that no two nodes resolve to the same one.

The pass on the clock is one of these runs. -/
theorem pass_independent_of_schedule (context : CollectionContext) (kind : EntityKind)
    (exporter : Exporter Registry Handle) (fixed : context.client.Fixed)
    (apart : kind = .sdc → context.NodesApart) (reached : exporter.Reached) (now : Instant) :
    (∀ result final, PassRun context kind now exporter result final → ∀ moment,
      result = (passInOrder context kind moment exporter).1 ∧
        final.Alike (passInOrder context kind moment exporter).2) ∧
    PassRun context kind now exporter (collect context kind now exporter).result
      (collect context kind now exporter).exporter := by
  refine ⟨fun result final run moment => ?_, collect_is_run context kind now exporter⟩
  cases kind with
  | sdc => exact sdcRun_agrees fixed (apart rfl) reached run moment
  | volume => exact volumeRun_agrees fixed reached run moment
  | storagePool => exact storageClassRun_agrees fixed reached run moment

/-- Two nodes with a data client each, of which only the first has
statistics. -/
def twoClients : CollectionContext where
  client :=
    { authenticate := fun _ => ⟨0, .done ()⟩
      generation := fun _ => ⟨0, .done .legacy⟩
      sdcs := fun now => ⟨now, .done [⟨"a", none, "A", "", ""⟩, ⟨"b", none, "B", "", ""⟩]⟩
      sdcVolumes := fun _ _ => ⟨0, .done []⟩
      sdcStatistics := fun id now =>
        if id = "a" then ⟨now, .done ⟨.empty, .empty, .empty, .empty⟩⟩ else ⟨0, .failed .cancelled⟩
      volumeStatistics := fun _ _ => ⟨0, .failed .cancelled⟩
      pools := fun _ => ⟨0, .done []⟩
      poolStatistics := fun _ _ => ⟨0, .failed .cancelled⟩
      bulk := fun _ _ => ⟨0, .failed .cancelled⟩ }
  discovery :=
    { nodes := fun driver => .ok [⟨"first", "a", "", driver⟩, ⟨"second", "b", "", driver⟩]
      volumes := fun _ => .ok []
      storageClasses := fun _ => .ok [] }
  bound := 2
  drivers := ["driver"]

theorem twoClients_fixed : twoClients.client.Fixed := by
  refine ⟨fun _ _ => rfl, fun _ _ => rfl, fun _ _ _ => rfl, fun id now other => ?_,
    fun _ _ _ => rfl, fun _ _ => rfl, fun _ _ _ => rfl, fun _ _ _ => rfl⟩
  by_cases first : id = "a" <;> simp [twoClients, first]

theorem twoClients_apart : twoClients.NodesApart := by
  intro now resolved ended
  have steady := (regular_resolveSdcs twoClients_fixed).steady now 0
  rw [ended] at steady
  have value : resolved = (.legacy, [⟨"a", "", "", "first", ""⟩, ⟨"b", "", "", "second", ""⟩]) :=
    Outcome.done.inj (steady.trans rfl)
  rw [value]
  decide

/-- A pass over these data clients counts one. -/
theorem twoClients_count :
    (collect twoClients .sdc 0 (Exporter.start Registry.empty)).result = .done 1 := by
  have independent := pass_independent_of_schedule twoClients .sdc (.start .empty)
    twoClients_fixed (fun _ => twoClients_apart) .start 0
  exact (independent.1 _ _ independent.2 0).1.trans rfl

end StorageTelemetry
