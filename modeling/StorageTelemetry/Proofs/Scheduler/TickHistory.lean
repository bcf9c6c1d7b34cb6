import StorageTelemetry.Exposition.Http
import StorageTelemetry.Proofs.Scheduler.TickEffects

namespace StorageTelemetry

/-!
# The account of a run of ticks

The exporter's own figures keep the account of all ticks so far: how often the
collection of a kind failed, what its latest collection pushed, whether one was
timed, and whether the latest session was usable.  The invariant ties each of
these to the history of the run.  A tick that was skipped leaves no trace in it,
and a failed collection leaves the size of the latest one that ended well.
-/

/-! ## Histories -/

/-- The ticks of a run in order, each with its kind and what it came to. -/
abbrev TickHistory := List (EntityKind × TickOutcome)

namespace TickOutcome

/-- Whether a tick found a usable session, if it came as far as asking for
one. -/
def session? : TickOutcome → Option Bool
  | .notLeader | .disabled | .brokenOff _ => none
  | .authFailed => some false
  | .failed | .collected _ => some true

/-- How many records a collection pushed, if it ended well. -/
def count? : TickOutcome → Option Nat
  | .collected count => some count
  | .notLeader | .disabled | .authFailed | .failed | .brokenOff _ => none

end TickOutcome

namespace TickHistory

/-- How many ticks of a kind ended in a failed collection. -/
def failures (history : TickHistory) (kind : EntityKind) : Nat := history.count (kind, .failed)

/-- What the latest collection of a kind that ended well pushed. -/
def latestCount? (history : TickHistory) (kind : EntityKind) : Option Nat :=
  history.reverse.findSome? fun (ticked, outcome) => if ticked = kind then outcome.count? else none

/-- Whether a tick of a kind got past authentication. -/
def Timed (history : TickHistory) (kind : EntityKind) : Prop :=
  ∃ outcome, (kind, outcome) ∈ history ∧ outcome.session? = some true

/-- Whether the latest tick that asked for a session found a usable one. -/
def usable (history : TickHistory) : Bool :=
  (history.reverse.findSome? fun tick => tick.2.session?).getD false

variable (history : TickHistory) (ticked kind : EntityKind) (outcome : TickOutcome)

theorem failures_concat :
    failures (history ++ [(ticked, outcome)]) kind =
      failures history kind + if (ticked, outcome) = (kind, .failed) then 1 else 0 := by
  rw [failures, List.count_append, List.count_singleton, failures]
  simp only [beq_iff_eq]

theorem latestCount?_concat :
    latestCount? (history ++ [(ticked, outcome)]) kind =
      (if ticked = kind then outcome.count? else none).or (latestCount? history kind) := by
  rw [latestCount?, List.reverse_append, List.findSome?_append]
  simp [latestCount?]

theorem timed_concat :
    Timed (history ++ [(ticked, outcome)]) kind ↔
      Timed history kind ∨ ticked = kind ∧ outcome.session? = some true := by
  constructor
  · rintro ⟨other, member, past⟩
    rcases List.mem_append.mp member with earlier | last
    · exact Or.inl ⟨other, earlier, past⟩
    · cases List.mem_singleton.mp last
      exact Or.inr ⟨rfl, past⟩
  · rintro (⟨other, member, past⟩ | ⟨rfl, past⟩)
    · exact ⟨other, List.mem_append_left _ member, past⟩
    · exact ⟨outcome, List.mem_append_right _ (List.mem_singleton_self _), past⟩

theorem usable_concat :
    usable (history ++ [(ticked, outcome)]) = outcome.session?.getD (usable history) := by
  rw [usable, List.reverse_append, List.findSome?_append]
  cases outcome <;> simp [usable, TickOutcome.session?]

end TickHistory

/-! ## Runs -/

/-- The runs of ticks, each tick by any scheduler and at any moment, with the
exporters that they leave.  A tick that breaks off takes the loop with it, so no
other follows. -/
inductive TicksRun : TickHistory → MetricsExporter → Prop
  | start : TicksRun [] (.start .empty)
  | tick {history : TickHistory} {exporter : MetricsExporter} (before : TicksRun history exporter)
      {scheduler : Scheduler} {leads : Bool} {kind : EntityKind} {now : Instant}
      {outcome : TickOutcome} {final : MetricsExporter}
      (run : TickRun scheduler leads kind now exporter outcome final)
      (ends : ∀ panic, outcome ≠ .brokenOff panic) :
      TicksRun (history ++ [(kind, outcome)]) final

theorem TicksRun.reached {history : TickHistory} {exporter : MetricsExporter}
    (run : TicksRun history exporter) : exporter.Reached := by
  induction run with
  | start => exact .start
  | tick _ run _ ih => exact run.reached ih

/-! ## The account -/

/-- How the figures of a registry are tied to the history of its ticks. -/
structure Registry.Accounts (registry : Registry) (history : TickHistory) : Prop where
  up : registry.up = if history.usable then .one else .zero
  timed : ∀ kind, history.Timed kind → ∃ span, registry.durations.get? kind = some (seconds span)
  untimed : ∀ kind, ¬history.Timed kind → registry.durations.get? kind = none
  collected : ∀ kind, registry.collected.get? kind = (history.latestCount? kind).map .ofNat
  failures : ∀ kind, registry.failures.get? kind =
    if history.failures kind = 0 then none else some (history.failures kind)
  durations_distinct : registry.durations.Distinct
  collected_distinct : registry.collected.Distinct
  failures_distinct : registry.failures.Distinct

namespace Registry.Accounts

variable {registry other : Registry} {history : TickHistory}

theorem start : empty.Accounts [] where
  up := rfl
  timed := by
    rintro kind ⟨outcome, member, _⟩
    cases member
  untimed _ _ := rfl
  collected _ := rfl
  failures _ := rfl
  durations_distinct := Table.distinct_empty
  collected_distinct := Table.distinct_empty
  failures_distinct := Table.distinct_empty

/-- The account is about the figures only. -/
theorem of_bare (accounts : registry.Accounts history) (bare : other.bare = registry.bare) :
    other.Accounts history := by
  obtain ⟨-, -, up, durations, collected, failures⟩ := Registry.mk.inj bare
  cases registry
  cases other
  simp only at up durations collected failures
  subst up durations collected failures
  exact ⟨accounts.up, accounts.timed, accounts.untimed, accounts.collected, accounts.failures,
    accounts.durations_distinct, accounts.collected_distinct, accounts.failures_distinct⟩

variable {kind : EntityKind} {outcome : TickOutcome}

/-- A tick that asked for no session leaves no trace. -/
theorem skip (accounts : registry.Accounts history) (asked : outcome.session? = none) :
    registry.Accounts (history ++ [(kind, outcome)]) := by
  have timed : ∀ other, (history ++ [(kind, outcome)]).Timed other ↔ history.Timed other := by
    intro other
    rw [TickHistory.timed_concat, asked]
    simp
  have other : outcome ≠ .failed := fun same => nomatch same ▸ asked
  have count : outcome.count? = none := by
    cases outcome <;> first | rfl | cases asked
  refine { accounts with up := ?_, timed := ?_, untimed := ?_, collected := ?_, failures := ?_ }
  · rw [TickHistory.usable_concat, asked]
    exact accounts.up
  · exact fun other past => accounts.timed other ((timed other).mp past)
  · exact fun other past => accounts.untimed other fun earlier => past ((timed other).mpr earlier)
  · intro other
    rw [TickHistory.latestCount?_concat, count, ite_self, Option.none_or]
    exact accounts.collected other
  · intro kind'
    rw [TickHistory.failures_concat, if_neg fun same => other (congrArg Prod.snd same)]
    exact accounts.failures kind'

/-- A tick without a usable session is told by the one figure for it. -/
theorem authFailed (accounts : registry.Accounts history) (kind : EntityKind) :
    Accounts { registry with up := .zero } (history ++ [(kind, .authFailed)]) := by
  have timed : ∀ other, TickHistory.Timed (history ++ [(kind, .authFailed)]) other ↔
      history.Timed other := by
    intro other
    rw [TickHistory.timed_concat]
    simp [TickOutcome.session?]
  refine { accounts with up := ?_, timed := ?_, untimed := ?_, collected := ?_, failures := ?_ }
  · rw [TickHistory.usable_concat]
    rfl
  · exact fun other past => accounts.timed other ((timed other).mp past)
  · exact fun other past => accounts.untimed other fun earlier => past ((timed other).mpr earlier)
  · intro other
    rw [TickHistory.latestCount?_concat]
    simpa [TickOutcome.count?] using accounts.collected other
  · intro other
    rw [TickHistory.failures_concat]
    simpa using accounts.failures other

/-- A tick with a usable session times its kind and no other. -/
theorem timed_put (accounts : registry.Accounts history) (kind : EntityKind)
    (past : outcome.session? = some true) (span : Nat) (other : EntityKind) :
    ((history ++ [(kind, outcome)]).Timed other →
      ∃ span', (registry.durations.put kind (seconds span)).get? other = some (seconds span')) ∧
    (¬(history ++ [(kind, outcome)]).Timed other →
      (registry.durations.put kind (seconds span)).get? other = none) := by
  rw [TickHistory.timed_concat, Table.get?_put]
  by_cases own : kind = other
  · simp only [own, past, and_self, or_true, not_true_eq_false, if_true, forall_const,
      false_implies, and_true]
    exact ⟨span, rfl⟩
  · simp only [own, false_and, or_false, if_false]
    exact ⟨accounts.timed other, accounts.untimed other⟩

theorem failed (accounts : registry.Accounts history) (kind : EntityKind) (span : Nat) :
    Accounts { registry with
      up := .one
      durations := registry.durations.put kind (seconds span)
      failures := registry.failures.put kind ((registry.failures.get? kind).getD 0 + 1) }
      (history ++ [(kind, .failed)]) := by
  have timed := accounts.timed_put kind (rfl : TickOutcome.failed.session? = some true) span
  refine ⟨?_, fun other => (timed other).1, fun other => (timed other).2, ?_, ?_,
    accounts.durations_distinct.put _ _, accounts.collected_distinct,
    accounts.failures_distinct.put _ _⟩
  · rw [TickHistory.usable_concat]
    simp only [TickOutcome.session?, Option.getD_some, if_true]
  · intro other
    rw [TickHistory.latestCount?_concat]
    simpa [TickOutcome.count?] using accounts.collected other
  · intro other
    rw [TickHistory.failures_concat, Table.get?_put]
    by_cases own : kind = other
    · subst own
      have counted : (registry.failures.get? kind).getD 0 = history.failures kind := by
        rw [accounts.failures]
        by_cases none : history.failures kind = 0 <;> simp [none]
      simp [counted]
    · simpa [own] using accounts.failures other

theorem collectedTick (accounts : registry.Accounts history) (kind : EntityKind)
    (count span : Nat) :
    Accounts { registry with
      up := .one
      durations := registry.durations.put kind (seconds span)
      collected := registry.collected.put kind (.ofNat count) }
      (history ++ [(kind, .collected count)]) := by
  have timed := accounts.timed_put kind
    (rfl : (TickOutcome.collected count).session? = some true) span
  refine ⟨?_, fun other => (timed other).1, fun other => (timed other).2, ?_, ?_,
    accounts.durations_distinct.put _ _, accounts.collected_distinct.put _ _,
    accounts.failures_distinct⟩
  · rw [TickHistory.usable_concat]
    simp only [TickOutcome.session?, Option.getD_some, if_true]
  · intro other
    rw [TickHistory.latestCount?_concat, Table.get?_put]
    by_cases own : kind = other
    · simp [own, TickOutcome.count?]
    · simpa [own] using accounts.collected other
  · intro other
    rw [TickHistory.failures_concat]
    simpa using accounts.failures other

/-- Every tick keeps the account. -/
theorem tick {before after : MetricsExporter} (accounts : before.meter.Accounts history)
    (ends : ∀ panic, outcome ≠ .brokenOff panic)
    (effects : TickEffects kind before outcome after) :
    after.meter.Accounts (history ++ [(kind, outcome)]) := by
  have bare : before.meter.bare.Accounts history := accounts.of_bare rfl
  cases outcome with
  | notLeader =>
      have same : after = before := effects
      exact same ▸ accounts.skip rfl
  | disabled =>
      have same : after = before := effects
      exact same ▸ accounts.skip rfl
  | authFailed => exact (bare.authFailed kind).of_bare effects.2
  | failed =>
      obtain ⟨-, span, figures⟩ := effects
      refine (bare.failed kind span).of_bare (figures.trans ?_)
      simp only [Registry.bare]
  | collected count =>
      obtain ⟨span, figures⟩ := effects
      refine (bare.collectedTick kind count span).of_bare (figures.trans ?_)
      simp only [Registry.bare]
  | brokenOff panic => exact absurd rfl (ends panic)

end Registry.Accounts

/-- Every run of ticks keeps the account. -/
theorem TicksRun.accounts {history : TickHistory} {exporter : MetricsExporter}
    (run : TicksRun history exporter) : exporter.meter.Accounts history := by
  induction run with
  | start => exact .start
  | tick before run ends ih => exact ih.tick ends (run.effects before.reached)

/-! ## What is shown -/

/-- What a registry shows and answers about the ticks so far: the failures of
each kind, with no series while there are none; the size of its latest
collection that ended well, with no series before the first; one duration if and
only if one of its ticks got past authentication; and whether the latest session
was usable, as a figure and as the answer to a look at the health page. -/
structure Registry.TellsOf (registry : Registry) (history : TickHistory) : Prop where
  failures : ∀ kind, registry.figures "powerflex_collection_failures_total" kind.figureLabels =
    if history.failures kind = 0 then [] else [.ofNat (history.failures kind)]
  collected : ∀ kind, registry.figures "powerflex_collection_entities" kind.figureLabels =
    ((history.latestCount? kind).map Double.ofNat).toList
  timed : ∀ kind, history.Timed kind → ∃ span,
    registry.figures "powerflex_collection_duration_seconds" kind.figureLabels = [seconds span]
  untimed : ∀ kind, ¬history.Timed kind →
    registry.figures "powerflex_collection_duration_seconds" kind.figureLabels = []
  up : registry.figures "powerflex_up" [] = [if history.usable then .one else .zero]
  health : ∀ target, Registry.pathOf target = "/health" → registry.respond "GET" target =
    if history.usable then .text 200 "OK" else .text 503 "PowerFlex gateway unreachable"

theorem eq_toList_of_perm {α : Type} {entries : List α} {value : Option α}
    (perm : entries.Perm value.toList) : entries = value.toList := by
  cases value with
  | none => exact List.perm_nil.mp perm
  | some value => exact List.perm_singleton.mp perm

theorem one_isPositive : Double.one.isPositive = true := by decide +kernel

/-- A sound registry whose figures keep the account shows it. -/
theorem Registry.Accounts.tellsOf {registry : Registry} {history : TickHistory}
    (accounts : registry.Accounts history) (sound : registry.Sound) :
    registry.TellsOf history where
  failures kind := by
    have shown := sound.figures_failures kind
    rw [accounts.failures_distinct.valuesAt_eq, ← Option.toList_map, accounts.failures] at shown
    rw [eq_toList_of_perm shown]
    by_cases none : history.failures kind = 0 <;> simp [none]
  collected kind := by
    have shown := sound.figures_collected kind
    rw [accounts.collected_distinct.valuesAt_eq, accounts.collected] at shown
    exact eq_toList_of_perm shown
  timed kind past := by
    obtain ⟨span, kept⟩ := accounts.timed kind past
    have shown := sound.figures_durations kind
    rw [accounts.durations_distinct.valuesAt_eq, kept] at shown
    exact ⟨span, eq_toList_of_perm shown⟩
  untimed kind past := by
    have shown := sound.figures_durations kind
    rw [accounts.durations_distinct.valuesAt_eq, accounts.untimed kind past] at shown
    exact eq_toList_of_perm shown
  up := by rw [sound.figures_up, accounts.up]
  health target path := by
    have page : registry.page? "/health" =
        some (if registry.up.isPositive then .text 200 "OK"
          else .text 503 "PowerFlex gateway unreachable") := rfl
    rw [respond, path, page, accounts.up]
    cases history.usable with
    | true => simp only [if_true, one_isPositive]
    | false => rfl

/-- After every run of ticks, of any kinds and by any schedulers, whatever
became of leadership, sessions and collections, what is shown and answered tells
of exactly the ticks so far.

A run goes on with any tick on the clock that does not break off. -/
theorem ticks_are_accounted_for {history : TickHistory} {exporter : MetricsExporter}
    (run : TicksRun history exporter) :
    exporter.meter.TellsOf history ∧
    ∀ (scheduler : Scheduler) (leads : Bool) (kind : EntityKind) (now : Instant),
      let tick := scheduler.tick leads kind now exporter
      (∀ panic, tick.outcome ≠ .brokenOff panic) →
        TicksRun (history ++ [(kind, tick.outcome)]) tick.exporter := by
  obtain ⟨observations, realizes⟩ := run.reached.realizes
  refine ⟨run.accounts.tellsOf realizes.sound.1, ?_⟩
  intro scheduler leads kind now tick ends
  exact run.tick (tick_is_run scheduler leads kind now exporter) ends

/-- After a tick that did not lead and one whose collection failed, one failure
is counted and the gateway is found healthy. -/
theorem unlistedClients_account :
    let tick := unlistedClients.tick true .sdc 5 (.start .empty)
    TicksRun [(.volume, .notLeader), (.sdc, .failed)] tick.exporter ∧
      tick.exporter.meter.figures "powerflex_collection_failures_total"
        EntityKind.sdc.figureLabels = [.ofNat 1] ∧
      tick.exporter.meter.respond "GET" "/health" = .text 200 "OK" := by
  intro tick
  have waited : TicksRun [(.volume, .notLeader)] (.start .empty) :=
    .tick .start (TickRun.notLeader rfl : TickRun unlistedClients false .volume 0 _ _ _) (by simp)
  have failed : tick.outcome = .failed := rfl
  have further := (ticks_are_accounted_for waited).2 unlistedClients true .sdc 5
  change (∀ panic, tick.outcome ≠ .brokenOff panic) →
    TicksRun [(.volume, .notLeader), (.sdc, tick.outcome)] tick.exporter at further
  clear_value tick
  rw [failed] at further
  have run := further (by simp)
  have tells := (ticks_are_accounted_for run).1
  exact ⟨run, tells.failures .sdc, tells.health "/health" (by decide)⟩

end StorageTelemetry
