import StorageTelemetry.Proofs.Recording.EventOwners

namespace StorageTelemetry

/-!
# Relabelling

The cache compares the labels of a recording with those that it holds for the
entity.  If they are the same, nothing happens but that values are set.  If they
differ, or nothing is held, the series are made under the new labels before the
old ones are retired, and the values are set last.

What is held for an entity are the labels of the last recording of it that
succeeded.  None of this depends on the meter.
-/

variable {μ η : Type} [Meter μ η]

/-! ## What is put down in order -/

section

variable (traced : Traced μ η)

theorem events_setAll (instruments : List η) (values : List Double) :
    (setAll traced instruments values).events =
      traced.events ++ (instruments.zip values).map fun (instrument, value) =>
        .set instrument value := by
  induction instruments generalizing traced values with
  | nil => exact (List.append_nil _).symm
  | cons instrument rest ih =>
      cases values with
      | nil => exact (List.append_nil _).symm
      | cons value values =>
          have others := ih (Meter.set traced instrument value) values
          exact others.trans (List.append_assoc _ _ _)

theorem events_retireAll (instruments : List η) :
    (retireAll traced instruments).events = traced.events ++ instruments.map .retire := by
  induction instruments generalizing traced with
  | nil => exact (List.append_nil _).symm
  | cons instrument rest ih =>
      have others := ih (Meter.retire traced instrument)
      exact others.trans (List.append_assoc _ _ _)

/-- That a series was asked for is put down, whatever the meter answers. -/
theorem events_of_asked {name help : String} {labels : LabelSet} {answer : Except Fault η}
    {next : Traced μ η} (asked : Meter.create traced name help labels = (answer, next)) :
    next.events = traced.events ++ [.create name labels] :=
  congrArg (·.2.events) asked.symm

/-- If no series is refused, all of them are made in order. -/
theorem events_createAll_of_ok (kind : EntityKind) (labels : LabelSet) (specs : List SeriesSpec)
    (made : List η) {instruments : List η}
    (all : (createAll kind labels specs made traced).1 = .ok instruments) :
    (createAll kind labels specs made traced).2.events =
      traced.events ++ specs.map fun spec => .create (kind.seriesName spec) labels := by
  induction specs generalizing traced made with
  | nil => exact (List.append_nil _).symm
  | cons spec rest ih =>
      simp only [createAll] at all ⊢
      cases attempt : (Meter.create traced (kind.seriesName spec) spec.help labels :
          Except Fault η × Traced μ η) with
      | mk answer next =>
          have grown := events_of_asked traced attempt
          rw [attempt] at all
          cases answer with
          | error fault => cases all
          | ok instrument =>
              dsimp only at all ⊢
              rw [ih next _ all, grown, List.append_assoc, List.map_cons, List.singleton_append]

/-- What was put down before stays. -/
theorem mem_events_createAll (kind : EntityKind) (labels : LabelSet) (specs : List SeriesSpec)
    (made : List η) {event : MeterEvent η} (earlier : event ∈ traced.events) :
    event ∈ (createAll kind labels specs made traced).2.events := by
  induction specs generalizing traced made with
  | nil => exact earlier
  | cons spec rest ih =>
      simp only [createAll]
      cases attempt : (Meter.create traced (kind.seriesName spec) spec.help labels :
          Except Fault η × Traced μ η) with
      | mk answer next =>
          have grown := events_of_asked traced attempt
          have stays : event ∈ next.events := grown ▸ List.mem_append_left _ earlier
          cases answer with
          | ok instrument => exact ih next _ stays
          | error fault =>
              rw [events_retireAll]
              exact List.mem_append_left _ stays

/-- The first series is asked for, whatever the meter answers. -/
theorem create_mem_createAll (kind : EntityKind) (labels : LabelSet) (spec : SeriesSpec)
    (rest : List SeriesSpec) (made : List η) :
    .create (kind.seriesName spec) labels ∈
      (createAll kind labels (spec :: rest) made traced).2.events := by
  simp only [createAll]
  cases attempt : (Meter.create traced (kind.seriesName spec) spec.help labels :
      Except Fault η × Traced μ η) with
  | mk answer next =>
      have grown := events_of_asked traced attempt
      have asked : .create (kind.seriesName spec) labels ∈ next.events := by
        rw [grown]
        exact List.mem_append_right _ (List.mem_singleton_self _)
      cases answer with
      | ok instrument => exact mem_events_createAll next kind labels rest _ asked
      | error fault =>
          rw [events_retireAll]
          exact List.mem_append_left _ asked

end

namespace Exporter

/-! ## One recording -/

/-- What recording an observation does to the meter, in order. -/
def eventsOf (exporter : Exporter μ η) (o : Observation) : List (MeterEvent η) :=
  (exporter.traced.attempt o).2.meter.events

/-- Whether recording an observation asks for series under its labels. -/
def Relabels (exporter : Exporter μ η) (o : Observation) : Prop :=
  ∃ name, .create name o.labels ∈ exporter.eventsOf o

/-- Whether recording an observation relabels its entity in one case, and in this
case only.  Then all series are made before those of before are retired, unless
one is refused.  Otherwise values are set and nothing else is done. -/
structure RelabelsExactlyIf (exporter : Exporter μ η) (o : Observation)
    (changed : Prop) : Prop where
  relabels_iff : exporter.Relabels o ↔ changed
  kept : ¬changed → (exporter.attempt o).1 = .ok () ∧
    (exporter.attempt o).2.cache = exporter.cache ∧
      ∀ event ∈ exporter.eventsOf o, event.SetsValue
  renewed : changed → (exporter.attempt o).1 = .ok () → ∃ instruments,
    (exporter.attempt o).2.cache.sets.get? o.entity = some ⟨o.labels, instruments⟩ ∧
      exporter.eventsOf o =
        o.kind.series.map (fun spec => .create (o.kind.seriesName spec) o.labels) ++
          (exporter.instrumentsOf o.entity).map .retire ++
            (instruments.zip o.values).map fun (instrument, value) => .set instrument value

section

variable {exporter : Exporter μ η} {o : Observation}

/-- Under the labels that are held, values are set and nothing else is done. -/
theorem events_of_same {set : InstrumentSet η}
    (stored : exporter.cache.sets.get? o.entity = some set) (same : set.labels = o.labels) :
    exporter.eventsOf o = (set.instruments.zip o.values).map fun (instrument, value) =>
      .set instrument value := by
  have traced : exporter.traced.cache.sets.get? o.entity = some set := stored
  rw [eventsOf, attempt_of_same traced same]
  exact events_setAll _ _ _

/-- Under other labels, series are asked for. -/
theorem relabels_of_new
    (different : ∀ set, exporter.cache.sets.get? o.entity = some set → set.labels ≠ o.labels) :
    exporter.Relabels o := by
  have traced : ∀ set, exporter.traced.cache.sets.get? o.entity = some set →
      set.labels ≠ o.labels := different
  have first : ∃ spec rest, o.kind.series = spec :: rest := by
    cases o.kind <;> exact ⟨_, _, rfl⟩
  rcases first with ⟨spec, rest, series⟩
  have asked := create_mem_createAll exporter.traced.meter o.kind o.labels spec rest []
  rw [← series] at asked
  refine ⟨o.kind.seriesName spec, ?_⟩
  rw [eventsOf, attempt_of_new traced]
  rcases ended : createAll o.kind o.labels o.kind.series [] exporter.traced.meter with
    ⟨fault | instruments, meter⟩
  all_goals rw [ended] at asked
  · exact asked
  · rw [events_setAll, events_retireAll]
    exact List.mem_append_left _ (List.mem_append_left _ asked)

/-- If no series is refused under other labels, all were made before those of
before were retired. -/
theorem attempt_of_renewed
    (different : ∀ set, exporter.cache.sets.get? o.entity = some set → set.labels ≠ o.labels)
    (succeeds : (exporter.attempt o).1 = .ok ()) :
    ∃ instruments,
      (exporter.attempt o).2.cache.sets.get? o.entity = some ⟨o.labels, instruments⟩ ∧
      exporter.eventsOf o =
        o.kind.series.map (fun spec => .create (o.kind.seriesName spec) o.labels) ++
          (exporter.instrumentsOf o.entity).map .retire ++
            (instruments.zip o.values).map fun (instrument, value) => .set instrument value := by
  have traced : ∀ set, exporter.traced.cache.sets.get? o.entity = some set →
      set.labels ≠ o.labels := different
  have forgotten := exporter.traced.untraced_attempt o
  rw [untraced_traced] at forgotten
  rw [← forgotten] at succeeds ⊢
  unfold eventsOf
  rw [attempt_of_new traced] at succeeds ⊢
  rcases ended : createAll o.kind o.labels o.kind.series [] exporter.traced.meter with
    ⟨fault | instruments, meter⟩
  · rw [ended] at succeeds
    cases succeeds
  · have made := events_createAll_of_ok exporter.traced.meter o.kind o.labels o.kind.series []
      (congrArg Prod.fst ended)
    rw [ended] at made
    refine ⟨instruments, (Table.get?_put _ _ _ _).trans (if_pos rfl), ?_⟩
    rw [events_setAll, events_retireAll, made]
    rfl

theorem setsValue_of_same {set : InstrumentSet η}
    (stored : exporter.cache.sets.get? o.entity = some set) (same : set.labels = o.labels) :
    ∀ event ∈ exporter.eventsOf o, event.SetsValue := by
  rw [events_of_same stored same]
  intro event member
  rcases List.mem_map.mp member with ⟨⟨instrument, value⟩, -, rfl⟩
  exact ⟨instrument, value, rfl⟩

theorem not_relabels_of_setsValue (sets : ∀ event ∈ exporter.eventsOf o, event.SetsValue) :
    ¬exporter.Relabels o := by
  rintro ⟨name, asked⟩
  rcases sets _ asked with ⟨instrument, value, set⟩
  cases set

/-- The cache relabels an entity exactly if the labels that it holds are
others. -/
theorem relabelsExactlyIf_of_held {labels : LabelSet} {changed : Prop}
    (held : exporter.cache.labels? o.kind o.id = some labels) (told : changed ↔ o.labels ≠ labels) :
    exporter.RelabelsExactlyIf o changed := by
  rcases Option.map_eq_some_iff.mp held with ⟨set, stored, rfl⟩
  by_cases same : set.labels = o.labels
  · have unchanged : ¬changed := fun other => told.mp other same.symm
    have sets := setsValue_of_same stored same
    have answer := attempt_of_same stored same
    constructor
    · exact iff_of_false (not_relabels_of_setsValue sets) unchanged
    · exact fun _ => ⟨congrArg Prod.fst answer, congrArg (·.2.cache) answer, sets⟩
    · exact fun other => absurd other unchanged
  · have other : changed := told.mpr (Ne.symm same)
    have different : ∀ set, exporter.cache.sets.get? o.entity = some set →
        set.labels ≠ o.labels := by
      intro set' stored'
      cases stored.symm.trans stored'
      exact same
    constructor
    · exact iff_of_true (relabels_of_new different) other
    · exact fun unchanged => absurd other unchanged
    · exact fun _ => attempt_of_renewed different

/-! ## Runs of recordings -/

/-- A recording that succeeds is what the cache holds afterwards. -/
theorem labels?_attempt_of_ok (succeeds : (exporter.attempt o).1 = .ok ()) :
    (exporter.attempt o).2.cache.labels? o.kind o.id = some o.labels := by
  rcases exporter.same_or_new o with ⟨set, stored, same⟩ | different
  · rw [attempt_of_same stored same]
    exact Option.map_eq_some_iff.mpr ⟨set, stored, same⟩
  · rcases attempt_of_renewed different succeeds with ⟨instruments, stored, -⟩
    exact Option.map_eq_some_iff.mpr ⟨_, stored, rfl⟩

/-- A recording that fails leaves the cache as it was. -/
theorem cache_attempt_of_error {fault : Fault} (fails : (exporter.attempt o).1 = .error fault) :
    (exporter.attempt o).2.cache = exporter.cache := by
  rcases exporter.same_or_new o with ⟨set, stored, same⟩ | different
  · rw [attempt_of_same stored same]
  · rw [attempt_of_new different] at fails ⊢
    rcases ended : createAll o.kind o.labels o.kind.series [] exporter.meter with
      ⟨fault' | instruments, meter⟩
    · rfl
    · rw [ended] at fails
      cases fails

/-- What the cache holds after an attempt: the labels of the entity that was
recorded, if the attempt succeeded, and those from before otherwise. -/
theorem labels?_attempt (exporter : Exporter μ η) (o : Observation) (entity : Entity) :
    (exporter.attempt o).2.cache.labels? entity.1 entity.2 =
      ((latest? (recorded [(o, (exporter.attempt o).1)]) entity).map (·.labels)).or
        (exporter.cache.labels? entity.1 entity.2) := by
  cases answer : (exporter.attempt o).1 with
  | error fault =>
      rw [cache_attempt_of_error answer]
      rfl
  | ok done =>
      rw [recorded_cons_ok, recorded_nil]
      by_cases own : o.entity = entity
      · subst own
        have latest : latest? [o] o.entity = some o := by simp [latest?]
        rw [latest]
        exact labels?_attempt_of_ok answer
      · have latest : latest? [o] entity = none := by simp [latest?, own]
        rw [latest]
        exact congrArg (Option.map InstrumentSet.labels) (exporter.get?_attempt_of_ne own)

theorem recorded_append (earlier later : Outcomes) :
    recorded (earlier ++ later) = recorded earlier ++ recorded later :=
  List.filterMap_append

/-- Without faults, everything that was attempted was recorded. -/
theorem recorded_of_faultless {outcomes : Outcomes} (faultless : faultsOf outcomes = []) :
    recorded outcomes = outcomes.map (·.1) := by
  induction outcomes with
  | nil => rfl
  | cons outcome rest ih =>
      rcases outcome with ⟨o, fault | ⟨⟨⟩⟩⟩
      · cases faultless
      · exact congrArg (o :: ·) (ih faultless)

/-- What the cache holds after a run of attempts: the labels of the latest
recording of the entity that succeeded, or those from before if none did. -/
theorem labels?_attemptAll (exporter : Exporter μ η) (attempts : List Observation)
    (entity : Entity) :
    (exporter.attemptAll attempts).2.cache.labels? entity.1 entity.2 =
      ((latest? (recorded (exporter.attemptAll attempts).1) entity).map (·.labels)).or
        (exporter.cache.labels? entity.1 entity.2) := by
  induction attempts generalizing exporter with
  | nil => rfl
  | cons o rest ih =>
      have split : recorded (exporter.attemptAll (o :: rest)).1 =
          recorded [(o, (exporter.attempt o).1)] ++
            recorded ((exporter.attempt o).2.attemptAll rest).1 := recorded_append [_] _
      rw [split, latest?_append, Option.map_or, Option.or_assoc, ← labels?_attempt]
      exact ih (exporter.attempt o).2

end
end Exporter
end StorageTelemetry
