import StorageTelemetry.Proofs.Recording.EntityViews
import StorageTelemetry.Proofs.Recording.Trace

namespace StorageTelemetry

/-!
# Whose series are touched

Everything that is done to a registry is done to a series, and a series belongs
to one entity.  An attempt to record an observation touches the series of the
observed entity only, and if the labels are those that are cached, it only sets
values there.  So as long as what is observed of an entity goes by its cached
labels, no series of the entity is made or retired, whatever else is recorded.
-/

/-- The series that is touched. -/
def MeterEvent.place : MeterEvent Handle → Target
  | create name labels => (name, labels.values)
  | set handle _ => (handle.family, handle.values)
  | retire handle => (handle.family, handle.values)

/-- Whether a value is set, as opposed to a series being made or retired. -/
def MeterEvent.SetsValue {η : Type} (event : MeterEvent η) : Prop :=
  ∃ instrument value, event = .set instrument value

/-- A registry gives handles to the series that was asked for. -/
theorem Registry.place_of_create {registry next : Registry} {name help : String}
    {labels : LabelSet} {handle : Handle}
    (created : Meter.create registry name help labels = (.ok handle, next)) :
    (handle.family, handle.values) = (name, labels.values) := by
  have attached : ∀ (registry : Registry) (family : Family) (values : List String),
      ((registry.attach family values).1.family, (registry.attach family values).1.values) =
        (family.name, values) := by
    intro registry family values
    unfold attach
    cases family.series.find? (·.values = values) <;> rfl
  simp only [Meter.create] at created
  cases answer : registry.create name help labels with
  | error fault =>
      rw [answer] at created
      cases created
  | ok made =>
      rw [answer] at created
      cases created
      unfold create at answer
      cases known : registry.family? name with
      | some family =>
          have named : family.name = name := (mem_of_family? known).2
          simp only [known] at answer
          by_cases keys : family.keys = labels.keys
          · rw [if_pos keys] at answer
            cases answer
            rw [attached, named]
          · rw [if_neg keys] at answer
            cases answer
      | none =>
          simp only [known] at answer
          cases fault : registrationFault? name help labels.keys with
          | some fault' =>
              rw [fault] at answer
              cases answer
          | none =>
              simp only [fault] at answer
              cases answer
              rw [attached]

variable {figures : Registry} {exporter : Exporter (Traced Registry Handle) Handle}
  {observations : List Observation}

/-- An attempt may do anything to the series of the observed entity. -/
theorem Observation.allows_own (o : Observation) :
    Traced.Allows Registry o (fun handle => Owns o.entity (handle.family, handle.values))
      fun event => Owns o.entity event.place := by
  have listed : ∀ spec ∈ o.kind.series, Owns o.entity (o.kind.seriesName spec, o.labels.values) :=
    fun spec member => Observation.owns
      (EntityKind.mem_targets.mpr ⟨List.mem_map_of_mem member, rfl⟩)
  constructor
  · intro meter next spec handle member created
    rw [Registry.place_of_create created]
    exact listed spec member
  · exact listed
  · exact fun _ own _ _ => own
  · exact fun _ own => own

namespace Exporter

/-- An attempt touches the series of the observed entity only. -/
theorem Realizes.owns_attempt
    (realizes : exporter.untraced.Realizes (Registry.view figures) observations) (o : Observation) :
    Traced.Adds (fun event => Owns o.entity event.place) exporter.meter
      (exporter.attempt o).2.meter := by
  apply o.allows_own.attempt
  intro handle held
  have placed := (realizes.instrumentsOf_spec o.entity).2.2 (handle.family, handle.values)
  rcases placed.mp (List.mem_map_of_mem held) with ⟨p, found, member⟩
  exact entity_of_latest? found ▸ Observation.owns member

/-- An attempt to record an observation is realized on a registry with a trace as
well. -/
theorem Realizes.attempt_traced
    (realizes : exporter.untraced.Realizes (Registry.view figures) observations) (o : Observation) :
    (exporter.attempt o).2.untraced.Realizes (Registry.view figures) (observations ++ [o]) := by
  rcases realizes.attempt_ok (Registry.view_lawful figures) id o with ⟨next, ran, after⟩
  have left : (exporter.attempt o).2.untraced = next :=
    congrArg Prod.snd ((exporter.untraced_attempt o).trans ran)
  rwa [left]

theorem Realizes.attemptAll_traced
    (realizes : exporter.untraced.Realizes (Registry.view figures) observations)
    (attempts : List Observation) :
    (exporter.attemptAll attempts).2.untraced.Realizes (Registry.view figures)
      (observations ++ attempts) := by
  induction attempts generalizing exporter observations with
  | nil => rwa [List.append_nil]
  | cons o rest ih =>
      have others := ih (realizes.attempt_traced o)
      rwa [List.append_assoc] at others

/-- What is touched belongs to what was attempted. -/
theorem Realizes.owns_attemptAll
    (realizes : exporter.untraced.Realizes (Registry.view figures) observations)
    (attempts : List Observation) :
    Traced.Adds (fun event => ∃ o ∈ attempts, Owns o.entity event.place) exporter.meter
      (exporter.attemptAll attempts).2.meter := by
  induction attempts generalizing exporter observations with
  | nil => exact .refl _ _
  | cons o rest ih =>
      have others := ih (realizes.attempt_traced o)
      apply Traced.Adds.trans ((realizes.owns_attempt o).mono _) (others.mono _)
      · exact fun event own => ⟨o, List.mem_cons_self, own⟩
      · exact fun event later => later.imp fun _ own => own.imp_left (List.mem_cons_of_mem _)

/-! ## Cached labels -/

/-- An attempt about another entity leaves the cached set of an entity alone. -/
theorem get?_attempt_of_ne {μ η : Type} [Meter μ η] (exporter : Exporter μ η) {o : Observation}
    {entity : Entity} (other : o.entity ≠ entity) :
    (exporter.attempt o).2.cache.sets.get? entity = exporter.cache.sets.get? entity := by
  rcases exporter.same_or_new o with ⟨set, stored, same⟩ | different
  · rw [attempt_of_same stored same]
  · rw [attempt_of_new different]
    rcases createAll o.kind o.labels o.kind.series [] exporter.meter with
      ⟨fault | instruments, next⟩
    · rfl
    · exact (Table.get?_put _ _ _ _).trans (if_neg other)

/-- Whether all that is done to the series of an entity is to set their values,
while the cache keeps its instruments. -/
structure OnlySets (entity : Entity) (set : InstrumentSet Handle)
    (before after : Exporter (Traced Registry Handle) Handle) : Prop where
  stored : after.cache.sets.get? entity = some set
  adds : Traced.Adds (fun event => Owns entity event.place → event.SetsValue) before.meter
    after.meter

variable {entity : Entity} {set : InstrumentSet Handle}

theorem Realizes.onlySets_attempt
    (realizes : exporter.untraced.Realizes (Registry.view figures) observations)
    (stored : exporter.cache.sets.get? entity = some set) {o : Observation}
    (same : o.entity = entity → o.labels = set.labels) :
    OnlySets entity set exporter (exporter.attempt o).2 := by
  by_cases own : o.entity = entity
  · subst own
    rw [attempt_of_same stored (same rfl).symm]
    refine ⟨stored, Traced.adds_setAll _ _ _ ?_⟩
    exact fun instrument _ value _ _ => ⟨instrument, value, rfl⟩
  · refine ⟨(exporter.get?_attempt_of_ne own).trans stored, (realizes.owns_attempt o).mono ?_⟩
    exact fun event other touched => absurd (other.unique touched) own

/-- As long as an entity is observed under its cached labels only, all that is
done to its series is to set their values. -/
theorem Realizes.onlySets_attemptAll
    (realizes : exporter.untraced.Realizes (Registry.view figures) observations)
    (stored : exporter.cache.sets.get? entity = some set) {attempts : List Observation}
    (same : ∀ o ∈ attempts, o.entity = entity → o.labels = set.labels) :
    OnlySets entity set exporter (exporter.attemptAll attempts).2 := by
  induction attempts generalizing exporter observations with
  | nil => exact ⟨stored, .refl _ _⟩
  | cons o rest ih =>
      have first := realizes.onlySets_attempt stored (same o List.mem_cons_self)
      have others := ih (realizes.attempt_traced o) first.stored
        fun p member => same p (List.mem_cons_of_mem _ member)
      exact ⟨others.stored, first.adds.trans others.adds⟩

end Exporter
end StorageTelemetry
