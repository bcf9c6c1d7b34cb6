import StorageTelemetry.Proofs.Collection.PassOrder
import StorageTelemetry.Proofs.Pipeline.Orders
import StorageTelemetry.Proofs.Recording.EntityViews

namespace StorageTelemetry

/-!
# What a pass does to the exporter

A run of the pipeline is determined by the moments at which its items are read
and by the order in which the records are pushed, and any choice of these is
that of some run.  So to an exporter a pass is nothing but recording calls about
entities of its own kind, and whatever such calls leave alone a pass leaves
alone.
-/

/-! ## Runs of the pipeline -/

section

variable {μ η : Type} {ι ρ : Type} {bound count : Nat} {work : ι → Routine ρ}
  {sink : Sink ρ (Exporter μ η)} {items : List ι} {exporter final : Exporter μ η}

/-- What a run of the pipeline may come to: each item is read from some moment
on, and the records that this gives are pushed in some order. -/
theorem pipelineRun_iff :
    PipelineRun bound work sink items exporter count final ↔
      ∃ starts pushed, starts.map (·.1) = items ∧ pushed.Perm (recordsFrom work starts) ∧
        count = (Pipeline.pushAll sink pushed exporter).1.length ∧
        final = (Pipeline.pushAll sink pushed exporter).2 := by
  constructor
  · exact PipelineRun.exists_starts
  · rintro ⟨starts, pushed, rfl, perm, rfl, rfl⟩
    let jobs : List (GatherJob ι ρ) := starts.map fun entry =>
      ⟨entry.1, 0, entry.2, (work entry.1 entry.2).finish, work entry.1 entry.2⟩
    have outcomes : pushed.Perm (jobs.filterMap fun job => job.outcome.value?) := by
      refine perm.trans (List.Perm.of_eq ?_)
      rw [recordsFrom, List.filterMap_map]
      refine List.filterMap_congr fun entry _ => ?_
      simp only [Function.comp_apply, GatherJob.outcome]
      cases (work entry.1 entry.2).outcome <;> rfl
    obtain ⟨actions, last, kept, ran, finished, shared, drained⟩ :=
      Pipeline.exists_run_pushing ⟨"", ""⟩ GatherJob.outcome sink bound jobs exporter outcomes
    refine ⟨jobs, ⟨"", ""⟩, actions, last, ?_, ?_, kept, ran, finished,
      congrArg List.length drained, shared⟩
    · rw [List.map_map]
      rfl
    · intro job member
      rcases List.mem_map.mp member with ⟨entry, _, rfl⟩
      rfl

end

/-! ## Passes as calls -/

/-- The kind of the entities that a call is about. -/
def RecordCall.kind : RecordCall → EntityKind
  | sdc _ => .sdc
  | volume _ => .volume
  | capacity _ => .storagePool

theorem RecordCall.kind_of_mem {call : RecordCall} {o : Observation}
    (member : o ∈ call.observations) : o.kind = call.kind := by
  cases call with
  | sdc record => exact congrArg Observation.kind (List.mem_singleton.mp member)
  | volume record => exact congrArg Observation.kind (List.mem_singleton.mp member)
  | capacity record =>
      rcases List.mem_map.mp member with ⟨pool, _, rfl⟩
      rfl

section

variable {μ η : Type} [Meter μ η] {ρ : Type}

/-- Whether a sink makes one recording call for each record. -/
def Sink.Calls (sink : Sink ρ (Exporter μ η)) (toCall : ρ → RecordCall) : Prop :=
  ∀ record exporter, (sink record exporter).2.1 = (exporter.call (toCall record)).2

theorem sdcSink_calls : (sdcSink : Sink SdcRecord (Exporter μ η)).Calls .sdc := fun _ _ => rfl

theorem volumeSink_calls : (volumeSink : Sink VolumeRecord (Exporter μ η)).Calls .volume :=
  fun _ _ => rfl

theorem storageClassSink_calls :
    (storageClassSink : Sink StorageClassRecord (Exporter μ η)).Calls .capacity := fun _ _ => rfl

/-- Pushing records makes their calls one after another. -/
theorem Sink.Calls.pushAll {sink : Sink ρ (Exporter μ η)} {toCall : ρ → RecordCall}
    (calls : sink.Calls toCall) (pushed : List ρ) (exporter : Exporter μ η) :
    (Pipeline.pushAll sink pushed exporter).2 = (exporter.callAll (pushed.map toCall)).2 := by
  induction pushed generalizing exporter with
  | nil => rfl
  | cons record rest ih =>
      simp only [Pipeline.pushAll, List.map_cons, Exporter.callAll, ih, calls record exporter]

variable {context : CollectionContext} {kind : EntityKind} {now : Instant}
  {exporter final : Exporter μ η} {result : Outcome Fault Nat}

/-- What a pass does to the exporter: nothing if it gives no count, and
otherwise calls about entities of its kind. -/
def CallsOf (kind : EntityKind) (exporter : Exporter μ η) (result : Outcome Fault Nat)
    (final : Exporter μ η) : Prop :=
  (∀ count, result ≠ .done count) ∧ final = exporter ∨
    ∃ count calls, result = .done count ∧ final = (exporter.callAll calls).2 ∧
      ∀ call ∈ calls, call.kind = kind

theorem RunAfter.callsOf {ι : Type} {enumerate : Routine (List ι)}
    {run : List ι → Exporter μ η → Nat → Exporter μ η → Prop}
    (each : ∀ items count, run items exporter count final →
      ∃ calls, final = (exporter.callAll calls).2 ∧ ∀ call ∈ calls, call.kind = kind)
    (ran : RunAfter enumerate run now exporter result final) :
    CallsOf kind exporter result final := by
  unfold RunAfter at ran
  cases ended : (enumerate now).outcome with
  | done items =>
      rw [ended] at ran
      obtain ⟨count, rfl, ran⟩ := ran
      obtain ⟨calls, made, kinds⟩ := each items count ran
      exact Or.inr ⟨count, calls, rfl, made, kinds⟩
  | failed fault =>
      rw [ended] at ran
      obtain ⟨rfl, rfl⟩ := ran
      exact Or.inl ⟨fun _ => nofun, rfl⟩
  | panicked panic =>
      rw [ended] at ran
      obtain ⟨rfl, rfl⟩ := ran
      exact Or.inl ⟨fun _ => nofun, rfl⟩

theorem PipelineRun.exists_calls {ι : Type} {bound count : Nat} {work : ι → Routine ρ}
    {sink : Sink ρ (Exporter μ η)} {toCall : ρ → RecordCall} (calls : sink.Calls toCall)
    (kinds : ∀ record, (toCall record).kind = kind) {items : List ι}
    (run : PipelineRun bound work sink items exporter count final) :
    ∃ calls, final = (exporter.callAll calls).2 ∧ ∀ call ∈ calls, call.kind = kind := by
  obtain ⟨starts, pushed, -, -, -, rfl⟩ := run.exists_starts
  refine ⟨pushed.map toCall, calls.pushAll pushed exporter, ?_⟩
  rw [List.forall_mem_map]
  exact fun record _ => kinds record

/-- To an exporter a pass is recording calls about entities of its kind. -/
theorem PassRun.callsOf (run : PassRun context kind now exporter result final) :
    CallsOf kind exporter result final := by
  cases kind with
  | sdc =>
      exact RunAfter.callsOf (fun items count ran =>
        ran.exists_calls sdcSink_calls fun _ => rfl) run
  | volume =>
      refine RunAfter.callsOf (fun items count ran => ?_) run
      by_cases none : items.isEmpty = true
      · rw [if_pos none] at ran
        refine ⟨[.volume .keepAlive], ?_, by simp [RecordCall.kind]⟩
        rw [ran.exists_pushed.2]
        exact volumeSink_calls.pushAll [.keepAlive] exporter
      · rw [if_neg none] at ran
        exact ran.exists_calls volumeSink_calls fun _ => rfl
  | storagePool =>
      exact RunAfter.callsOf (fun items count ran =>
        ran.exists_calls storageClassSink_calls fun _ => rfl) run

end

/-! ## What calls leave alone -/

namespace Exporter

variable {exporter : Exporter Registry Handle}

theorem Reached.callAll (reached : exporter.Reached) (calls : List RecordCall) :
    (exporter.callAll calls).2.Reached := by
  induction calls generalizing exporter with
  | nil => exact reached
  | cons call rest ih => exact ih (reached.call call)

/-- Calls leave the exporter's own figures alone. -/
theorem bare_callAll (reached : exporter.Reached) (calls : List RecordCall) :
    (exporter.callAll calls).2.meter.bare = exporter.meter.bare := by
  obtain ⟨observations, realizes⟩ := reached.realizes
  have after := (realizes.callAll_ok (Registry.view_lawful exporter.meter.bare) id calls).2
  exact after.sound.2

/-- Calls about other entities leave what is seen of an entity alone. -/
theorem agreesOn_callAll (reached : exporter.Reached) {calls : List RecordCall} {entity : Entity}
    (others : ∀ call ∈ calls, ∀ o ∈ call.observations, o.entity ≠ entity) :
    (exporter.callAll calls).2.AgreesOn exporter entity := by
  obtain ⟨observations, realizes⟩ := reached.realizes
  have after := (realizes.callAll_ok (Registry.view_lawful exporter.meter.bare) id calls).2
  refine after.agreesOn realizes (latest?_append_of_others fun o member => ?_)
  obtain ⟨call, made, told⟩ := List.mem_flatMap.mp member
  exact others call made o told

/-- Calls about entities of one kind leave the numbers of the others alone. -/
theorem count_callAll (reached : exporter.Reached) {calls : List RecordCall}
    {kind other : EntityKind} (kinds : ∀ call ∈ calls, call.kind = kind)
    (different : other ≠ kind) :
    (exporter.callAll calls).2.cache.count other = exporter.cache.count other := by
  obtain ⟨observations, realizes⟩ := reached.realizes
  have after := (realizes.callAll_ok (Registry.view_lawful exporter.meter.bare) id calls).2
  have none : (calls.flatMap (·.observations)).filter (fun o => o.kind = other) = [] := by
    refine List.filter_eq_nil_iff.mpr fun o member => ?_
    obtain ⟨call, made, told⟩ := List.mem_flatMap.mp member
    have own := (RecordCall.kind_of_mem told).trans (kinds call made)
    simpa [own] using Ne.symm different
  rw [after.count_eq, realizes.count_eq, observedIds, List.filter_append, none, List.append_nil]
  rfl

end Exporter

/-! ## What a pass leaves alone -/

section

variable {context : CollectionContext} {kind : EntityKind} {now : Instant}
  {exporter final : Exporter Registry Handle} {result : Outcome Fault Nat}

theorem CallsOf.reached (calls : CallsOf kind exporter result final) (reached : exporter.Reached) :
    final.Reached := by
  rcases calls with ⟨-, rfl⟩ | ⟨_, calls, -, rfl, -⟩
  · exact reached
  · exact reached.callAll calls

/-- A pass leaves the exporter's own figures alone. -/
theorem CallsOf.bare (calls : CallsOf kind exporter result final) (reached : exporter.Reached) :
    final.meter.bare = exporter.meter.bare := by
  rcases calls with ⟨-, rfl⟩ | ⟨_, calls, -, rfl, -⟩
  · rfl
  · exact Exporter.bare_callAll reached calls

/-- A pass leaves the entities of other kinds alone. -/
theorem CallsOf.agreesOn (calls : CallsOf kind exporter result final) (reached : exporter.Reached)
    {entity : Entity} (other : entity.1 ≠ kind) : final.AgreesOn exporter entity := by
  rcases calls with ⟨-, rfl⟩ | ⟨_, calls, -, rfl, kinds⟩
  · exact Exporter.AgreesOn.refl _ _
  · refine Exporter.agreesOn_callAll reached fun call made o told same => other ?_
    rw [← same]
    exact (RecordCall.kind_of_mem told).trans (kinds call made)

theorem CallsOf.count (calls : CallsOf kind exporter result final) (reached : exporter.Reached)
    {other : EntityKind} (different : other ≠ kind) :
    final.cache.count other = exporter.cache.count other := by
  rcases calls with ⟨-, rfl⟩ | ⟨_, calls, -, rfl, kinds⟩
  · rfl
  · exact Exporter.count_callAll reached kinds different

end

end StorageTelemetry
