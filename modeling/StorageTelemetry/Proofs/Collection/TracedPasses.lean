import StorageTelemetry.Proofs.Collection.ScheduleIndependence
import StorageTelemetry.Proofs.Collection.PassRuns
import StorageTelemetry.Proofs.Recording.Trace

namespace StorageTelemetry

/-!
# Passes with a trace

A pass does not see the trace of its meter.  Its runs with the trace are its runs
without it, so that what the traces of all runs have in common holds of
everything that a pass does to a meter.
-/

/-! ## Sinks -/

variable {μ η : Type} {ρ ι : Type}

/-- Whether a sink does with the trace what another does without it. -/
def Sink.Forgets (traced : Sink ρ (Exporter (Traced μ η) η)) (plain : Sink ρ (Exporter μ η)) :
    Prop :=
  ∀ record exporter, ((traced record exporter).1, (traced record exporter).2.1.untraced) =
    ((plain record exporter.untraced).1, (plain record exporter.untraced).2.1)

theorem recordSink_forgets {id : ρ → String}
    {traced : Exporter (Traced μ η) η → ρ →
      Except Fault Unit × Exporter (Traced μ η) η × List LogEntry}
    {plain : Exporter μ η → ρ → Except Fault Unit × Exporter μ η × List LogEntry}
    (forgets : ∀ exporter record,
      ((traced exporter record).1, (traced exporter record).2.1.untraced) =
        ((plain exporter.untraced record).1, (plain exporter.untraced record).2.1)) :
    Sink.Forgets (recordSink id traced) (recordSink id plain) := by
  intro record exporter
  rcases Prod.mk.inj (forgets exporter record) with ⟨answer, left⟩
  simp only [recordSink, answer, left]

theorem Sink.Forgets.pushAll {traced : Sink ρ (Exporter (Traced μ η) η)}
    {plain : Sink ρ (Exporter μ η)} (forgets : traced.Forgets plain) (pushed : List ρ)
    (exporter : Exporter (Traced μ η) η) :
    ((Pipeline.pushAll traced pushed exporter).1,
        (Pipeline.pushAll traced pushed exporter).2.untraced) =
      Pipeline.pushAll plain pushed exporter.untraced := by
  induction pushed generalizing exporter with
  | nil => rfl
  | cons record rest ih =>
      rcases Prod.mk.inj (forgets record exporter) with ⟨answer, left⟩
      simp only [Pipeline.pushAll, ← answer, ← left, ← ih]

section

variable [Meter μ η]

theorem sdcSink_forgets : Sink.Forgets (μ := μ) sdcSink sdcSink :=
  recordSink_forgets fun exporter record => exporter.untraced_attempt record.observation

theorem volumeSink_forgets : Sink.Forgets (μ := μ) volumeSink volumeSink :=
  recordSink_forgets fun exporter record => exporter.untraced_attempt record.observation

theorem storageClassSink_forgets : Sink.Forgets (μ := μ) storageClassSink storageClassSink := by
  apply recordSink_forgets
  intro exporter record
  have recorded := exporter.untraced_recordCapacity record
  rw [← recorded]

end

/-! ## Runs -/

section

variable {exporter : Exporter (Traced μ η) η} {final : Exporter μ η}

theorem pipelineRun_untraced_iff {traced : Sink ρ (Exporter (Traced μ η) η)}
    {plain : Sink ρ (Exporter μ η)} (forgets : traced.Forgets plain) {bound count : Nat}
    {work : ι → Routine ρ} {items : List ι} :
    PipelineRun bound work plain items exporter.untraced count final ↔
      ∃ last, PipelineRun bound work traced items exporter count last ∧ last.untraced = final := by
  simp only [pipelineRun_iff, ← forgets.pushAll]
  constructor
  · rintro ⟨starts, pushed, listed, perm, counted, rfl⟩
    exact ⟨_, ⟨starts, pushed, listed, perm, counted, rfl⟩, rfl⟩
  · rintro ⟨last, ⟨starts, pushed, listed, perm, counted, rfl⟩, rfl⟩
    exact ⟨starts, pushed, listed, perm, counted, rfl⟩

theorem runAfter_untraced_iff {enumerate : Routine (List ι)}
    {plain : List ι → Exporter μ η → Nat → Exporter μ η → Prop}
    {traced : List ι → Exporter (Traced μ η) η → Nat → Exporter (Traced μ η) η → Prop}
    (each : ∀ items count final, plain items exporter.untraced count final ↔
      ∃ last, traced items exporter count last ∧ last.untraced = final)
    {now : Instant} {result : Outcome Fault Nat} :
    RunAfter enumerate plain now exporter.untraced result final ↔
      ∃ last, RunAfter enumerate traced now exporter result last ∧ last.untraced = final := by
  unfold RunAfter
  cases (enumerate now).outcome with
  | done items =>
      simp only [each]
      constructor
      · rintro ⟨count, counted, last, ran, forgotten⟩
        exact ⟨last, ⟨count, counted, ran⟩, forgotten⟩
      · rintro ⟨last, ⟨count, counted, ran⟩, forgotten⟩
        exact ⟨count, counted, last, ran, forgotten⟩
  | failed fault =>
      constructor
      · rintro ⟨failed, rfl⟩
        exact ⟨exporter, ⟨failed, rfl⟩, rfl⟩
      · rintro ⟨last, ⟨failed, rfl⟩, rfl⟩
        exact ⟨failed, rfl⟩
  | panicked panic =>
      constructor
      · rintro ⟨broken, rfl⟩
        exact ⟨exporter, ⟨broken, rfl⟩, rfl⟩
      · rintro ⟨last, ⟨broken, rfl⟩, rfl⟩
        exact ⟨broken, rfl⟩

end

section

variable [Meter μ η]

/-- What a pass without volumes comes to, whatever its moves. -/
theorem keepAliveRun_iff {exporter final : Exporter μ η} {count : Nat} :
    KeepAliveRun exporter count final ↔
      count = (Pipeline.pushAll volumeSink [.keepAlive] exporter).1.length ∧
        final = (Pipeline.pushAll volumeSink [.keepAlive] exporter).2 := by
  constructor
  · exact KeepAliveRun.exists_pushed
  · rintro ⟨rfl, rfl⟩
    rcases pushKeepAlive_is_run 0 exporter with ⟨count, -, run⟩
    rcases run.exists_pushed with ⟨counted, left⟩
    exact counted ▸ left ▸ run

/-- The runs of a pass are those with the trace, as soon as the trace is
forgotten. -/
theorem passRun_untraced_iff {context : CollectionContext} {kind : EntityKind} {now : Instant}
    {exporter : Exporter (Traced μ η) η} {result : Outcome Fault Nat} {final : Exporter μ η} :
    PassRun context kind now exporter.untraced result final ↔
      ∃ last, PassRun context kind now exporter result last ∧ last.untraced = final := by
  cases kind with
  | sdc => exact runAfter_untraced_iff fun _ _ _ => pipelineRun_untraced_iff sdcSink_forgets
  | volume =>
      apply runAfter_untraced_iff
      intro items count final
      by_cases none : items.isEmpty = true
      · simp only [if_pos none, keepAliveRun_iff, ← volumeSink_forgets.pushAll]
        constructor
        · rintro ⟨counted, rfl⟩
          exact ⟨_, ⟨counted, rfl⟩, rfl⟩
        · rintro ⟨last, ⟨counted, rfl⟩, rfl⟩
          exact ⟨counted, rfl⟩
      · simp only [if_neg none]
        exact pipelineRun_untraced_iff volumeSink_forgets
  | storagePool =>
      exact runAfter_untraced_iff fun _ _ _ => pipelineRun_untraced_iff storageClassSink_forgets

/-- A pass may keep a trace from its beginning on. -/
theorem passRun_iff_traced {context : CollectionContext} {kind : EntityKind} {now : Instant}
    {exporter final : Exporter μ η} {result : Outcome Fault Nat} :
    PassRun context kind now exporter result final ↔
      ∃ last, PassRun context kind now exporter.traced result last ∧ last.untraced = final := by
  have forgotten : PassRun context kind now exporter.traced.untraced result final ↔
      ∃ last, PassRun context kind now exporter.traced result last ∧ last.untraced = final :=
    passRun_untraced_iff
  rwa [Exporter.untraced_traced] at forgotten

end

end StorageTelemetry
