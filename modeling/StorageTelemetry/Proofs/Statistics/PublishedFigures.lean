import StorageTelemetry.Proofs.Collection.PassReports
import StorageTelemetry.Proofs.Collection.TracedPasses
import StorageTelemetry.Proofs.Scheduler.TickHistory

namespace StorageTelemetry

/-!
# Published figures

What is set on an instrument was observed, and what a pass observes was
normalized.  So no instrument of an entity is ever given an infinity, a NaN or a
value with its sign bit set, and none is exported, whatever a gateway answers.
-/

/-! ## What is set -/

section

variable {μ η : Type} [Meter μ η] {context : CollectionContext} {kind : EntityKind}
  {now : Instant} {exporter : Exporter μ η} {result : Outcome Fault Nat}
  {final : Exporter (Traced μ η) η}

/-- Whatever becomes of a pass, it is a run of attempts to record figures. -/
theorem PassRun.exists_figures {final : Exporter μ η}
    (run : PassRun context kind now exporter result final) :
    ∃ reports, final = (exporter.attemptAll reports).2 ∧
      ∀ o ∈ reports, ∀ value ∈ o.values, value.IsFigure := by
  by_cases counted : ∃ count, result = .done count
  · rcases counted with ⟨count, rfl⟩
    rcases run.exists_reports with ⟨listed, reports, -, left, told⟩
    exact ⟨reports, left, fun o member => (told o member).figures⟩
  · have broken : ∀ count, result ≠ .done count := fun count same => counted ⟨count, same⟩
    exact ⟨[], run.callsOf.unchanged broken, List.forall_mem_nil _⟩

/-- A pass sets figures only. -/
theorem PassRun.sets_figures (run : PassRun context kind now exporter.traced result final) :
    ∀ instrument value, .set instrument value ∈ final.meter.events → value.IsFigure := by
  intro instrument value put
  rcases run.exists_figures with ⟨reports, rfl, figures⟩
  have observed := Traced.Adds.of_start (Traced.adds_attemptAll exporter.traced reports)
  rcases observed _ put instrument value rfl with ⟨o, member, own⟩
  exact figures o member value own

end

/-! ## What is exported -/

/-- Whether all that was observed of entities are figures. -/
def Exporter.Publishes (exporter : MetricsExporter) : Prop :=
  ∃ observations, exporter.Realizes (Registry.view exporter.meter.bare) observations ∧
    ∀ o ∈ observations, ∀ value ∈ o.values, value.IsFigure

namespace Exporter.Publishes

variable {exporter final : MetricsExporter}

theorem start : (Exporter.start Registry.empty).Publishes :=
  ⟨[], Realizes.start_empty, nofun⟩

theorem withMeter (publishes : exporter.Publishes) {change : Registry → Registry}
    (own : Registry.OwnChange change) : (exporter.withMeter change).Publishes := by
  rcases publishes with ⟨observations, realizes, figures⟩
  exact ⟨observations, realizes.of_families (own.families exporter.meter), figures⟩

theorem attemptAll (publishes : exporter.Publishes) {attempts : List Observation}
    (told : ∀ o ∈ attempts, ∀ value ∈ o.values, value.IsFigure) :
    (exporter.attemptAll attempts).2.Publishes := by
  rcases publishes with ⟨observations, realizes, figures⟩
  have lawful := Registry.view_lawful exporter.meter.bare
  have after := (realizes.attemptAll_ok lawful id attempts).2
  have bare : (exporter.attemptAll attempts).2.meter.bare = exporter.meter.bare := after.sound.2
  exact ⟨observations ++ attempts, bare ▸ after, List.forall_mem_append.mpr ⟨figures, told⟩⟩

theorem pass (publishes : exporter.Publishes) {context : CollectionContext} {kind : EntityKind}
    {now : Instant} {result : Outcome Fault Nat}
    (run : PassRun context kind now exporter result final) : final.Publishes := by
  rcases run.exists_figures with ⟨reports, rfl, figures⟩
  exact publishes.attemptAll figures

/-- Whatever becomes of a tick, what was observed are figures afterwards. -/
theorem tick (publishes : exporter.Publishes) {scheduler : Scheduler} {leads : Bool}
    {kind : EntityKind} {now : Instant} {outcome : TickOutcome}
    (run : TickRun scheduler leads kind now exporter outcome final) : final.Publishes := by
  have began := publishes.withMeter (Registry.ownChange_setUp .one)
  cases run with
  | notLeader => exact publishes
  | disabled => exact publishes
  | authFailed => exact publishes.withMeter (Registry.ownChange_setUp .zero)
  | authBroken => exact publishes
  | collected _ _ _ pass => exact (began.pass pass).withMeter (ownChange_accountFor ..)
  | failed _ _ _ pass => exact (began.pass pass).withMeter (ownChange_accountFor ..)
  | passBroken _ _ _ pass => exact began.pass pass

/-- Where figures were observed, figures are exported. -/
theorem entitySeries (publishes : exporter.Publishes) :
    ∀ series ∈ exporter.meter.entitySeries, series.value.IsFigure := by
  rcases publishes with ⟨observations, realizes, figures⟩
  intro series shown
  rcases List.mem_flatMap.mp (realizes.entitySeries_perm.mem_iff.mp shown) with
    ⟨entity, -, exported⟩
  cases found : latest? observations entity with
  | none => simp [found] at exported
  | some o =>
      rw [found] at exported
      rcases List.mem_map.mp exported with ⟨⟨spec, value⟩, zipped, rfl⟩
      exact figures o (mem_of_latest? found) value (List.of_mem_zip zipped).2

end Exporter.Publishes

theorem TicksRun.publishes {history : TickHistory} {exporter : MetricsExporter}
    (run : TicksRun history exporter) : exporter.Publishes := by
  induction run with
  | start => exact .start
  | tick _ run _ ih => exact ih.tick run

/-- Whatever counters or samples a gateway reports, in either generation, each
of the six figures of a data client or volume and each of the four figures of a
pool is finite and has a clear sign bit.  What stands for a pass without volumes
is no exception.

Nothing else is ever set on an instrument, in any run of a pass and on any
meter; the trace of what is set does not change the run.  So after any run of
ticks all values that are exported for entities are of this sort. -/
theorem published_values_are_figures :
    (∀ statistics : IoStatistics, statistics.normalize.values.length = 6 ∧
      ∀ value ∈ statistics.normalize.values, value.IsFigure) ∧
    (∀ statistics : CapacityStatistics, statistics.normalize.values.length = 4 ∧
      ∀ value ∈ statistics.normalize.values, value.IsFigure) ∧
    (∀ (context : CollectionContext) (kind : EntityKind) (now : Instant)
        (exporter : MetricsExporter) (result : Outcome Fault Nat) (final : MetricsExporter),
      PassRun context kind now exporter result final →
        ∃ last, PassRun context kind now exporter.traced result last ∧ last.untraced = final) ∧
    (∀ {μ η : Type} [Meter μ η] (context : CollectionContext) (kind : EntityKind) (now : Instant)
        (exporter : Exporter μ η) (result : Outcome Fault Nat)
        (last : Exporter (Traced μ η) η),
      PassRun context kind now exporter.traced result last →
        ∀ instrument value, .set instrument value ∈ last.meter.events → value.IsFigure) ∧
    ∀ (history : TickHistory) (exporter : MetricsExporter), TicksRun history exporter →
      ∀ series ∈ exporter.meter.entitySeries, series.value.IsFigure := by
  refine ⟨fun statistics => ⟨rfl, statistics.isFigure_normalize⟩,
    fun statistics => ⟨rfl, statistics.isFigure_normalize⟩, ?_, ?_, ?_⟩
  · intro context kind now exporter result final run
    exact passRun_iff_traced.mp run
  · intro μ η meter context kind now exporter result last run
    exact run.sets_figures
  · intro history exporter run
    exact run.publishes.entitySeries

/-- All that a word can count in one second. -/
example :
    let window : Window := ⟨0, 1, .ofNat (twoPow 64 - 1)⟩
    (IoStatistics.legacy ⟨window, .empty, .empty, .empty⟩).normalize.readBandwidth =
      .ofNat (twoPow 54) := by
  decide +kernel

end StorageTelemetry
