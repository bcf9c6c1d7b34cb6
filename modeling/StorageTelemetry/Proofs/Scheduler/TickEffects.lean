import StorageTelemetry.Proofs.Collection.PassRuns
import StorageTelemetry.Proofs.Collection.ScheduleIndependence
import StorageTelemetry.Proofs.Recording.OwnFigures
import StorageTelemetry.Scheduler.Tick

namespace StorageTelemetry

/-!
# What a tick changes

A tick passes three gates before it collects: it must lead, its kind must be
enabled, and the gateway session must be usable.  What it may change is told by
its outcome, and is the same however far a collection that failed had come,
because nothing is recorded before the enumeration has ended well.

The pass of a tick may run in any order of moves here, and the tick on the clock
is one of these runs.
-/

/-! ## Runs -/

/-- The ways in which a tick may run, with its outcome and the exporter that it
leaves.  A collection that ends is entered into the account with some span. -/
inductive TickRun (scheduler : Scheduler) (leads : Bool) (kind : EntityKind) (now : Instant)
    (exporter : MetricsExporter) : TickOutcome → MetricsExporter → Prop
  | notLeader (follows : leads = false) :
      TickRun scheduler leads kind now exporter .notLeader exporter
  | disabled (leading : leads = true) (off : scheduler.settings.enabled kind = false) :
      TickRun scheduler leads kind now exporter .disabled exporter
  | authFailed (leading : leads = true) (enabled : scheduler.settings.enabled kind = true)
      {fault : Fault}
      (session : (scheduler.context.client.askAuthenticate now).outcome = .failed fault) :
      TickRun scheduler leads kind now exporter .authFailed (exporter.withMeter (·.setUp .zero))
  | authBroken (leading : leads = true) (enabled : scheduler.settings.enabled kind = true)
      {panic : Panic}
      (session : (scheduler.context.client.askAuthenticate now).outcome = .panicked panic) :
      TickRun scheduler leads kind now exporter (.brokenOff panic) exporter
  | collected (leading : leads = true) (enabled : scheduler.settings.enabled kind = true)
      (session : (scheduler.context.client.askAuthenticate now).outcome = .done ())
      {count span : Nat} {passed : MetricsExporter}
      (pass : PassRun scheduler.context kind (scheduler.context.client.askAuthenticate now).finish
        (exporter.withMeter (·.setUp .one)) (.done count) passed) :
      TickRun scheduler leads kind now exporter (.collected count)
        (passed.withMeter (accountFor kind span (.ok count)))
  | failed (leading : leads = true) (enabled : scheduler.settings.enabled kind = true)
      (session : (scheduler.context.client.askAuthenticate now).outcome = .done ())
      {fault : Fault} {span : Nat} {passed : MetricsExporter}
      (pass : PassRun scheduler.context kind (scheduler.context.client.askAuthenticate now).finish
        (exporter.withMeter (·.setUp .one)) (.failed fault) passed) :
      TickRun scheduler leads kind now exporter .failed
        (passed.withMeter (accountFor kind span (.error fault)))
  | passBroken (leading : leads = true) (enabled : scheduler.settings.enabled kind = true)
      (session : (scheduler.context.client.askAuthenticate now).outcome = .done ())
      {panic : Panic} {passed : MetricsExporter}
      (pass : PassRun scheduler.context kind (scheduler.context.client.askAuthenticate now).finish
        (exporter.withMeter (·.setUp .one)) (.panicked panic) passed) :
      TickRun scheduler leads kind now exporter (.brokenOff panic) passed

/-- A tick on the clock is one of the runs of a tick. -/
theorem tick_is_run (scheduler : Scheduler) (leads : Bool) (kind : EntityKind) (now : Instant)
    (exporter : MetricsExporter) :
    TickRun scheduler leads kind now exporter (scheduler.tick leads kind now exporter).outcome
      (scheduler.tick leads kind now exporter).exporter := by
  unfold Scheduler.tick
  cases leads with
  | false => exact .notLeader rfl
  | true =>
      cases enabled : scheduler.settings.enabled kind with
      | false => exact .disabled rfl enabled
      | true =>
          simp only [Bool.not_true, Bool.false_eq_true, if_false]
          cases session : (scheduler.context.client.askAuthenticate now).outcome with
          | failed fault => exact .authFailed rfl enabled session
          | panicked panic => exact .authBroken rfl enabled session
          | done value =>
              have pass := collect_is_run scheduler.context kind
                (scheduler.context.client.askAuthenticate now).finish
                (exporter.withMeter (·.setUp .one))
              simp only [Scheduler.collectNow]
              generalize collect scheduler.context kind
                (scheduler.context.client.askAuthenticate now).finish
                (exporter.withMeter (·.setUp .one)) = made at pass ⊢
              obtain ⟨result, finish, calls, log, states, passed⟩ := made
              cases result with
              | done count => exact .collected rfl enabled session pass
              | failed fault => exact .failed rfl enabled session pass
              | panicked panic => exact .passBroken rfl enabled session pass

/-- A tick that does not lead is not looked at any further, and no other is put
down as one that does not lead. -/
theorem TickRun.notLeader_iff {scheduler : Scheduler} {leads : Bool} {kind : EntityKind}
    {now : Instant} {exporter final : MetricsExporter} {outcome : TickOutcome}
    (run : TickRun scheduler leads kind now exporter outcome final) :
    outcome = .notLeader ↔ leads = false := by
  cases run <;> simp_all

/-! ## Effects -/

/-- Whether the cache and the exported series of all entities are as before. -/
structure KeepsEntities (before after : MetricsExporter) : Prop where
  cache : after.cache = before.cache
  series : after.meter.entitySeries.Perm before.meter.entitySeries

/-- What a tick of a kind may do, by its outcome.  Beside the entities all that
can change is the exporter's own figures, of which those are named that do. -/
def TickEffects (kind : EntityKind) (before : MetricsExporter) :
    TickOutcome → MetricsExporter → Prop
  | .notLeader, after => after = before
  | .disabled, after => after = before
  | .authFailed, after =>
      KeepsEntities before after ∧ after.meter.bare = { before.meter.bare with up := .zero }
  | .failed, after =>
      KeepsEntities before after ∧ ∃ span, after.meter.bare = { before.meter.bare with
        up := .one
        durations := before.meter.durations.put kind (seconds span)
        failures :=
          before.meter.failures.put kind ((before.meter.failures.get? kind).getD 0 + 1) }
  | .collected count, after =>
      ∃ span, after.meter.bare = { before.meter.bare with
        up := .one
        durations := before.meter.durations.put kind (seconds span)
        collected := before.meter.collected.put kind (.ofNat count) }
  | .brokenOff _, after =>
      KeepsEntities before after ∧
        (after.meter.bare = before.meter.bare ∨
          after.meter.bare = { before.meter.bare with up := .one })

/-- What no tick of a kind changes, whatever its outcome: the entities of other
kinds, and what is shown of the figures of other kinds. -/
structure TickFrame (kind : EntityKind) (before after : MetricsExporter) : Prop where
  entities : ∀ entity : Entity, entity.1 ≠ kind → after.AgreesOn before entity
  counts : ∀ other, other ≠ kind → after.cache.count other = before.cache.count other
  figures : ∀ other, other ≠ kind → ∀ name ∈ ownNames,
    (after.meter.figures name other.figureLabels).Perm
      (before.meter.figures name other.figureLabels)

/-- The requests of a tick, by its outcome: none before the gates, and only the
one for the session if that is not usable. -/
def TickRequests (now : Instant) : TickOutcome → List (Instant × Request) → Prop
  | .notLeader, calls => calls = []
  | .disabled, calls => calls = []
  | .authFailed, calls => calls = [(now, .authenticate)]
  | .failed, calls => ∃ others, calls = (now, .authenticate) :: others
  | .collected _, calls => ∃ others, calls = (now, .authenticate) :: others
  | .brokenOff _, calls => ∃ others, calls = (now, .authenticate) :: others

theorem tick_requests (scheduler : Scheduler) (leads : Bool) (kind : EntityKind) (now : Instant)
    (exporter : MetricsExporter) :
    TickRequests now (scheduler.tick leads kind now exporter).outcome
      (scheduler.tick leads kind now exporter).calls := by
  unfold Scheduler.tick
  cases leads with
  | false => exact rfl
  | true =>
      cases scheduler.settings.enabled kind with
      | false => exact rfl
      | true =>
          simp only [Bool.not_true, Bool.false_eq_true, if_false]
          cases (scheduler.context.client.askAuthenticate now).outcome with
          | failed fault => exact rfl
          | panicked panic => exact ⟨[], rfl⟩
          | done value =>
              simp only [Scheduler.collectNow]
              cases (collect scheduler.context kind
                  (scheduler.context.client.askAuthenticate now).finish
                  (exporter.withMeter (·.setUp .one))).result with
              | done count => exact ⟨_, rfl⟩
              | failed fault => exact ⟨_, rfl⟩
              | panicked panic => exact ⟨_, rfl⟩

/-! ## Changing the figures -/

/-- A change of the exporter's own figures only, which may be looked at without
the families. -/
structure Registry.OwnChange (change : Registry → Registry) : Prop where
  families : ∀ registry, (change registry).families = registry.families
  nextId : ∀ registry, (change registry).nextId = registry.nextId
  bare : ∀ registry, (change registry).bare = (change registry.bare).bare

theorem Registry.ownChange_setUp (value : Double) : OwnChange (·.setUp value) :=
  ⟨fun _ => rfl, fun _ => rfl, fun _ => rfl⟩

theorem ownChange_accountFor (kind : EntityKind) (span : Nat) (result : Except Fault Nat) :
    Registry.OwnChange (accountFor kind span result) := by
  cases result <;> exact ⟨fun _ => rfl, fun _ => rfl, fun _ => rfl⟩

section

variable {change : Registry → Registry} {exporter : MetricsExporter}

theorem Exporter.Reached.withMeter (reached : exporter.Reached)
    (own : Registry.OwnChange change) : (exporter.withMeter change).Reached :=
  .figures (change exporter.meter) (own.families _) (own.nextId _) reached

/-- Entities are kept where only the figures change. -/
theorem keepsEntities_withMeter (reached : exporter.Reached) (own : Registry.OwnChange change) :
    KeepsEntities exporter (exporter.withMeter change) := by
  obtain ⟨observations, realizes⟩ := reached.realizes
  have after := realizes.of_families (own.families exporter.meter)
  exact ⟨rfl, after.entitySeries_perm.trans realizes.entitySeries_perm.symm⟩

theorem agreesOn_withMeter (reached : exporter.Reached) (own : Registry.OwnChange change)
    (entity : Entity) : (exporter.withMeter change).AgreesOn exporter entity := by
  obtain ⟨observations, realizes⟩ := reached.realizes
  exact (realizes.of_families (own.families exporter.meter)).agreesOn realizes rfl

end

theorem KeepsEntities.trans {before middle after : MetricsExporter}
    (keeps : KeepsEntities before middle) (keeps' : KeepsEntities middle after) :
    KeepsEntities before after :=
  ⟨keeps'.cache.trans keeps.cache, keeps'.series.trans keeps.series⟩

/-! ## The frame -/

/-- Whether the figures of a kind are listed alike. -/
structure Registry.SameFigures (registry other : Registry) (kind : EntityKind) : Prop where
  durations : registry.durations.valuesAt kind = other.durations.valuesAt kind
  collected : registry.collected.valuesAt kind = other.collected.valuesAt kind
  failures : registry.failures.valuesAt kind = other.failures.valuesAt kind

theorem sameFigures_of_bare {registry other : Registry} (bare : registry.bare = other.bare)
    (kind : EntityKind) : registry.SameFigures other kind := by
  obtain ⟨_, _, _, durations, collected, failures⟩ := Registry.mk.inj bare
  exact ⟨congrArg (·.valuesAt kind) durations, congrArg (·.valuesAt kind) collected,
    congrArg (·.valuesAt kind) failures⟩

/-- The account of one kind is not that of another. -/
theorem sameFigures_accountFor {kind other : EntityKind} (different : other ≠ kind) (span : Nat)
    (result : Except Fault Nat) (registry : Registry) :
    (accountFor kind span result registry).SameFigures registry other := by
  have apart : kind ≠ other := Ne.symm different
  cases result with
  | ok count =>
      exact ⟨Table.valuesAt_put_of_ne _ _ apart, Table.valuesAt_put_of_ne _ _ apart, rfl⟩
  | error fault =>
      exact ⟨Table.valuesAt_put_of_ne _ _ apart, rfl, Table.valuesAt_put_of_ne _ _ apart⟩

section

variable {kind : EntityKind} {before middle after : MetricsExporter}

theorem TickFrame.refl (kind : EntityKind) (exporter : MetricsExporter) :
    TickFrame kind exporter exporter :=
  ⟨fun entity _ => Exporter.AgreesOn.refl exporter entity, fun _ _ => rfl,
    fun _ _ _ _ => List.Perm.refl _⟩

theorem TickFrame.trans (frame : TickFrame kind before middle)
    (frame' : TickFrame kind middle after) : TickFrame kind before after where
  entities entity other := (frame'.entities entity other).trans (frame.entities entity other)
  counts other different := (frame'.counts other different).trans (frame.counts other different)
  figures other different name own :=
    (frame'.figures other different name own).trans (frame.figures other different name own)

/-- Figures that are listed alike are shown alike. -/
theorem figures_perm_of_sameFigures (reached : before.Reached) (reached' : after.Reached)
    (same : after.meter.SameFigures before.meter kind) {name : String} (own : name ∈ ownNames) :
    (after.meter.figures name kind.figureLabels).Perm
      (before.meter.figures name kind.figureLabels) := by
  obtain ⟨_, realizes⟩ := reached.realizes
  obtain ⟨_, realizes'⟩ := reached'.realizes
  exact realizes'.sound.1.figures_perm_of_valuesAt realizes.sound.1 same.durations same.collected
    same.failures own

theorem tickFrame_withMeter (reached : before.Reached) {change : Registry → Registry}
    (own : Registry.OwnChange change)
    (others : ∀ other, other ≠ kind → (change before.meter).SameFigures before.meter other) :
    TickFrame kind before (before.withMeter change) where
  entities entity _ := agreesOn_withMeter reached own entity
  counts _ _ := rfl
  figures other different _ listed :=
    figures_perm_of_sameFigures reached (reached.withMeter own) (others other different) listed

theorem CallsOf.tickFrame {result : Outcome Fault Nat} (calls : CallsOf kind before result after)
    (reached : before.Reached) : TickFrame kind before after where
  entities _ other := calls.agreesOn reached other
  counts _ different := calls.count reached different
  figures other _ _ listed :=
    figures_perm_of_sameFigures reached (calls.reached reached)
      (sameFigures_of_bare (calls.bare reached) other) listed

end

/-! ## Ticks -/

section

variable {scheduler : Scheduler} {leads : Bool} {kind : EntityKind} {now : Instant}
  {exporter final : MetricsExporter} {outcome : TickOutcome}

theorem TickRun.reached (run : TickRun scheduler leads kind now exporter outcome final)
    (reached : exporter.Reached) : final.Reached := by
  have began := reached.withMeter (Registry.ownChange_setUp .one)
  cases run with
  | notLeader => exact reached
  | disabled => exact reached
  | authFailed => exact reached.withMeter (Registry.ownChange_setUp .zero)
  | authBroken => exact reached
  | collected _ _ _ pass =>
      exact (pass.callsOf.reached began).withMeter (ownChange_accountFor ..)
  | failed _ _ _ pass =>
      exact (pass.callsOf.reached began).withMeter (ownChange_accountFor ..)
  | passBroken _ _ _ pass => exact pass.callsOf.reached began

/-- Whatever a tick of a kind comes to, it leaves the other kinds alone. -/
theorem TickRun.frame (run : TickRun scheduler leads kind now exporter outcome final)
    (reached : exporter.Reached) : TickFrame kind exporter final := by
  have up : ∀ value, TickFrame kind exporter (exporter.withMeter (·.setUp value)) := fun value =>
    tickFrame_withMeter reached (Registry.ownChange_setUp value) fun _ _ => ⟨rfl, rfl, rfl⟩
  have began := reached.withMeter (Registry.ownChange_setUp .one)
  have closes : ∀ {result passed} (span : Nat) (answer : Except Fault Nat),
      CallsOf kind (exporter.withMeter (·.setUp .one)) result passed →
        TickFrame kind exporter (passed.withMeter (accountFor kind span answer)) := by
    intro result passed span answer calls
    refine ((up .one).trans (calls.tickFrame began)).trans ?_
    exact tickFrame_withMeter (calls.reached began) (ownChange_accountFor ..)
      fun other different => sameFigures_accountFor different span answer passed.meter
  cases run with
  | notLeader => exact .refl kind exporter
  | disabled => exact .refl kind exporter
  | authFailed => exact up .zero
  | authBroken => exact .refl kind exporter
  | collected _ _ _ pass => exact closes _ _ pass.callsOf
  | failed _ _ _ pass => exact closes _ _ pass.callsOf
  | passBroken _ _ _ pass => exact (up .one).trans (pass.callsOf.tickFrame began)

/-- A pass without a count leaves the exporter as it was. -/
theorem CallsOf.unchanged {μ η : Type} [Meter μ η] {before after : Exporter μ η}
    {result : Outcome Fault Nat} (calls : CallsOf kind before result after)
    (broken : ∀ count, result ≠ .done count) : after = before := by
  rcases calls with ⟨-, same⟩ | ⟨count, _, done, -⟩
  · exact same
  · exact absurd done (broken count)

theorem TickRun.effects (run : TickRun scheduler leads kind now exporter outcome final)
    (reached : exporter.Reached) : TickEffects kind exporter outcome final := by
  have up := keepsEntities_withMeter reached (Registry.ownChange_setUp .one)
  have began := reached.withMeter (Registry.ownChange_setUp .one)
  cases run with
  | notLeader => exact rfl
  | disabled => exact rfl
  | authFailed =>
      exact ⟨keepsEntities_withMeter reached (Registry.ownChange_setUp .zero), rfl⟩
  | authBroken => exact ⟨⟨rfl, List.Perm.refl _⟩, Or.inl rfl⟩
  | @collected _ _ _ count span passed pass =>
      have own := ownChange_accountFor kind span (.ok count)
      refine ⟨span, (own.bare passed.meter).trans ?_⟩
      rw [pass.callsOf.bare began]
      simp only [accountFor, Exporter.withMeter, Registry.setUp, Registry.setDuration,
        Registry.setCollected, Registry.bare]
  | @failed _ _ _ fault span passed pass =>
      rw [pass.callsOf.unchanged (by simp)]
      refine ⟨up.trans (keepsEntities_withMeter began (ownChange_accountFor ..)), span, ?_⟩
      simp only [accountFor, Exporter.withMeter, Registry.setUp, Registry.setDuration,
        Registry.countFailure, Registry.bare]
  | passBroken _ _ _ pass =>
      rw [pass.callsOf.unchanged (by simp)]
      refine ⟨up, Or.inr ?_⟩
      simp only [Exporter.withMeter, Registry.setUp, Registry.bare]

end

/-- Every tick of every kind has exactly the effects of its outcome, from any
exporter that can come about, whatever the settings, the gateway and the
inventory do, and in whatever order its pass moves.  A tick that does not lead
is told as such even if its kind is disabled.  The other kinds are left alone
in every case.

The tick on the clock is one of these runs, and it asks the gateway for nothing
before its gates are passed, and for no more than a session if that fails. -/
theorem tick_has_effects_of_outcome (scheduler : Scheduler) (leads : Bool) (kind : EntityKind)
    (now : Instant) (exporter : MetricsExporter) (reached : exporter.Reached) :
    (∀ outcome final, TickRun scheduler leads kind now exporter outcome final →
      TickEffects kind exporter outcome final ∧ TickFrame kind exporter final ∧
        (outcome = .notLeader ↔ leads = false)) ∧
    TickRun scheduler leads kind now exporter (scheduler.tick leads kind now exporter).outcome
      (scheduler.tick leads kind now exporter).exporter ∧
    TickRequests now (scheduler.tick leads kind now exporter).outcome
      (scheduler.tick leads kind now exporter).calls := by
  refine ⟨fun outcome final run => ⟨run.effects reached, run.frame reached, run.notLeader_iff⟩,
    tick_is_run scheduler leads kind now exporter, tick_requests scheduler leads kind now exporter⟩

/-- A scheduler whose gateway refuses to list its data clients. -/
def unlistedClients : Scheduler where
  context :=
    { twoClients with
      client := { twoClients.client with sdcs := fun _ => ⟨2, .failed .cancelled⟩ } }
  settings := ⟨30, 30, 30, true, true, true, 10, 60, 5, ["driver"]⟩

/-- A tick over these data clients fails, which is counted, and caches
nothing. -/
theorem unlistedClients_failure :
    let tick := unlistedClients.tick true .sdc 0 (.start .empty)
    tick.outcome = .failed ∧ tick.exporter.cache = (Exporter.start Registry.empty).cache ∧
      tick.exporter.meter.failures.get? .sdc = some 1 ∧
      ∃ others, tick.calls = (0, .authenticate) :: others := by
  intro tick
  obtain ⟨sound, runs, asked⟩ :=
    tick_has_effects_of_outcome unlistedClients true .sdc 0 (.start .empty) .start
  have failed : tick.outcome = .failed := rfl
  change TickRun unlistedClients true .sdc 0 (.start .empty) tick.outcome tick.exporter at runs
  change TickRequests 0 tick.outcome tick.calls at asked
  -- What is known of the tick suffices, so it need not be computed again.
  clear_value tick
  rw [failed] at runs asked
  obtain ⟨⟨keeps, span, bare⟩, -, -⟩ := sound _ _ runs
  refine ⟨failed, keeps.cache, ?_, asked⟩
  exact (congrArg (fun registry => registry.failures.get? .sdc) bare).trans rfl

end StorageTelemetry
