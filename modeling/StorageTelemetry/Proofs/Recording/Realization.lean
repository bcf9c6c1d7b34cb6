import StorageTelemetry.Proofs.Recording.MeterView

namespace StorageTelemetry

/-!
# What an exporter realizes

An exporter realizes a list of observations if its cache holds, for every
entity, the labels of the latest observation with one instrument for each of
its series, if the instruments in use are exactly the held ones, and if
exactly the latest values are shown.

Recording one more observation keeps this, in each of its three courses: the
labels are as before, the labels changed, or the entity is new.  The last two
are one course, in which there is possibly nothing to retire.  A recording
that fails leaves the exporter as it was seen.
-/

variable {μ η : Type}

namespace Exporter

/-- An instrument of some cached set. -/
def Holds (exporter : Exporter μ η) (instrument : η) : Prop :=
  ∃ entity set, exporter.cache.sets.get? entity = some set ∧ instrument ∈ set.instruments

/-- The instruments that are cached for an entity. -/
def instrumentsOf (exporter : Exporter μ η) (entity : Entity) : List η :=
  ((exporter.cache.sets.get? entity).map (·.instruments)).getD []

/-- The exporter shows and holds what the latest observations say. -/
structure Realizes (view : MeterView μ η) (exporter : Exporter μ η)
    (observations : List Observation) : Prop where
  sound : view.Sound exporter.meter
  distinct : exporter.cache.sets.Distinct
  held : ∀ entity, (exporter.cache.sets.get? entity).map
      (fun set => (set.labels, set.instruments.map view.target)) =
    (latest? observations entity).map fun o => (o.labels, o.targets)
  live_iff : ∀ instrument, view.Live exporter.meter instrument ↔ exporter.Holds instrument
  shown_iff : ∀ target value, view.shown exporter.meter target = some value ↔
    ∃ entity o, latest? observations entity = some o ∧ (target, value) ∈ o.samples

namespace Realizes

variable {view : MeterView μ η} {exporter : Exporter μ η} {observations : List Observation}

/-- An exporter that has recorded nothing, over a meter in which nothing is in
use and nothing is shown. -/
theorem start {meter : μ} (sound : view.Sound meter)
    (idle : ∀ instrument, ¬view.Live meter instrument)
    (blank : ∀ target, view.shown meter target = none) :
    (Exporter.start meter : Exporter μ η).Realizes view [] := by
  refine ⟨sound, Table.distinct_empty, fun _ => rfl, fun instrument => ?_, fun target value => ?_⟩
  · refine ⟨fun live => absurd live (idle instrument), ?_⟩
    rintro ⟨entity, set, stored, _⟩
    cases stored
  · refine ⟨fun shown => absurd ((blank target).symm.trans shown) (by simp), ?_⟩
    rintro ⟨entity, o, found, _⟩
    cases found

/-- A cached set is that of the latest observation of its entity. -/
theorem observed_of_set (realizes : exporter.Realizes view observations) {entity : Entity}
    {set : InstrumentSet η} (stored : exporter.cache.sets.get? entity = some set) :
    ∃ o, latest? observations entity = some o ∧ set.labels = o.labels ∧
      set.instruments.map view.target = o.targets := by
  have held := realizes.held entity
  rw [stored, Option.map_some] at held
  rcases Option.map_eq_some_iff.mp held.symm with ⟨o, found, same⟩
  exact ⟨o, found, (congrArg Prod.fst same).symm, (congrArg Prod.snd same).symm⟩

/-- The latest observation of an entity has a cached set. -/
theorem set_of_observed (realizes : exporter.Realizes view observations) {entity : Entity}
    {o : Observation} (found : latest? observations entity = some o) :
    ∃ set, exporter.cache.sets.get? entity = some set ∧ set.labels = o.labels ∧
      set.instruments.map view.target = o.targets := by
  have held := realizes.held entity
  rw [found, Option.map_some] at held
  rcases Option.map_eq_some_iff.mp held with ⟨set, stored, same⟩
  exact ⟨set, stored, congrArg Prod.fst same, congrArg Prod.snd same⟩

/-- The labels of an entity are those of its latest observation. -/
theorem labels?_eq (realizes : exporter.Realizes view observations) (kind : EntityKind)
    (id : String) :
    exporter.cache.labels? kind id = (latest? observations (kind, id)).map (·.labels) := by
  have held := congrArg (Option.map Prod.fst) (realizes.held (kind, id))
  rw [Option.map_map, Option.map_map] at held
  exact held

/-- Instruments held for an entity are found where its latest observation
puts them. -/
theorem target_mem (realizes : exporter.Realizes view observations) {entity : Entity}
    {set : InstrumentSet η} (stored : exporter.cache.sets.get? entity = some set)
    {instrument : η} (member : instrument ∈ set.instruments) :
    ∃ o, latest? observations entity = some o ∧ set.labels = o.labels ∧
      view.target instrument ∈ o.targets := by
  rcases realizes.observed_of_set stored with ⟨o, found, labels, placed⟩
  exact ⟨o, found, labels, placed ▸ List.mem_map_of_mem member⟩

/-- An instrument in use under a target of an observation is held for the
entity of that observation, under the same labels. -/
theorem entity_of_target (realizes : exporter.Realizes view observations) {entity : Entity}
    {set : InstrumentSet η} (stored : exporter.cache.sets.get? entity = some set)
    {instrument : η} (member : instrument ∈ set.instruments) {o : Observation}
    (placed : view.target instrument ∈ o.targets) :
    entity = o.entity ∧ set.labels = o.labels := by
  rcases realizes.target_mem stored member with ⟨p, found, labels, placed'⟩
  have same := Observation.eq_of_mem_targets placed' placed
  exact ⟨(entity_of_latest? found).symm.trans same.1, labels.trans same.2⟩

/-- The instruments of an entity are held, are all different, and are found
where its latest observation puts them. -/
theorem instrumentsOf_spec (realizes : exporter.Realizes view observations) (entity : Entity) :
    (exporter.instrumentsOf entity).Nodup ∧
      (∀ instrument ∈ exporter.instrumentsOf entity,
        ∃ set, exporter.cache.sets.get? entity = some set ∧ instrument ∈ set.instruments) ∧
      ∀ target, target ∈ (exporter.instrumentsOf entity).map view.target ↔
        ∃ p, latest? observations entity = some p ∧ target ∈ p.targets := by
  unfold instrumentsOf
  cases stored : exporter.cache.sets.get? entity with
  | none =>
      refine ⟨List.nodup_nil, by simp, fun target => ⟨by simp, ?_⟩⟩
      rintro ⟨p, found, _⟩
      rcases realizes.set_of_observed found with ⟨set, stored', _⟩
      exact absurd (stored.symm.trans stored') (by simp)
  | some set =>
      rcases realizes.observed_of_set stored with ⟨o, found, _, placed⟩
      refine ⟨?_, fun instrument member => ⟨set, rfl, member⟩, fun target => ?_⟩
      · have apart := o.kind.targets_nodup o.labels.values
        exact (placed ▸ apart : (set.instruments.map view.target).Nodup).of_map
      · simp only [Option.map_some, Option.getD_some, placed, found, Option.some.injEq,
          exists_eq_left']

/-- Filling in the samples of one more observation gives what the latest
observations say, if under other targets the values that the observation
leaves behind are hidden and all else is as before. -/
theorem shown_after (realizes : exporter.Realizes view observations) (o : Observation)
    {before : Target → Option Double}
    (left : ∀ target p, target ∉ o.targets → latest? observations o.entity = some p →
      target ∈ p.targets → before target = none)
    (kept : ∀ target, target ∉ o.targets →
      (∀ p, latest? observations o.entity = some p → target ∉ p.targets) →
      before target = view.shown exporter.meter target)
    (target : Target) (value : Double) :
    (o.samples.lookup target).or (before target) = some value ↔
      ∃ entity p, latest? (observations ++ [o]) entity = some p ∧ (target, value) ∈ p.samples := by
  simp only [latest?_concat]
  by_cases own : target ∈ o.targets
  · rcases Observation.exists_lookup_samples own with ⟨shown, found⟩
    rw [found, Option.some_or, ← found, o.lookup_samples_iff]
    constructor
    · intro listed
      exact ⟨o.entity, o, if_pos rfl, listed⟩
    · rintro ⟨entity, p, found, listed⟩
      have entities : p.entity = o.entity :=
        (Observation.eq_of_mem_targets (Observation.mem_targets_of_mem_samples listed) own).1
      by_cases here : o.entity = entity
      · rw [if_pos here, Option.some.injEq] at found
        exact found ▸ listed
      · rw [if_neg here] at found
        exact absurd (entities.symm.trans (entity_of_latest? found)) here
  · -- Under a foreign target only the latest observations of other entities count.
    have others : (∃ entity p, (if o.entity = entity then some o
          else latest? observations entity) = some p ∧ (target, value) ∈ p.samples) ↔
        ∃ entity p, o.entity ≠ entity ∧ latest? observations entity = some p ∧
          (target, value) ∈ p.samples := by
      constructor
      · rintro ⟨entity, p, found, listed⟩
        by_cases here : o.entity = entity
        · rw [if_pos here, Option.some.injEq] at found
          exact absurd (found ▸ Observation.mem_targets_of_mem_samples listed) own
        · rw [if_neg here] at found
          exact ⟨entity, p, here, found, listed⟩
      · rintro ⟨entity, p, here, found, listed⟩
        exact ⟨entity, p, (if_neg here).trans found, listed⟩
    rw [others, Observation.lookup_samples_eq_none own, Option.none_or]
    by_cases replaced : ∃ p, latest? observations o.entity = some p ∧ target ∈ p.targets
    · rcases replaced with ⟨p, found, member⟩
      rw [left target p own found member]
      constructor
      · intro impossible
        cases impossible
      · rintro ⟨entity, q, here, found', listed⟩
        have entities : p.entity = q.entity := (Observation.eq_of_mem_targets member
          (Observation.mem_targets_of_mem_samples listed)).1
        rw [entity_of_latest? found, entity_of_latest? found'] at entities
        exact absurd entities here
    · have unseen : ∀ p, latest? observations o.entity = some p → target ∉ p.targets :=
        fun p found member => replaced ⟨p, found, member⟩
      rw [kept target own unseen, realizes.shown_iff]
      constructor
      · rintro ⟨entity, p, found, listed⟩
        refine ⟨entity, p, fun here => ?_, found, listed⟩
        exact unseen p (here ▸ found) (Observation.mem_targets_of_mem_samples listed)
      · rintro ⟨entity, p, _, found, listed⟩
        exact ⟨entity, p, found, listed⟩

/-- Under a target what is shown is the sample of its owner. -/
theorem shown_owned (realizes : exporter.Realizes view observations) {entity : Entity}
    {target : Target} (owns : Owns entity target) :
    view.shown exporter.meter target =
      (latest? observations entity).bind fun o => o.samples.lookup target := by
  refine Option.ext fun value => ?_
  rw [realizes.shown_iff, Option.bind_eq_some_iff]
  constructor
  · rintro ⟨other, o, found, listed⟩
    have there := Observation.owns (Observation.mem_targets_of_mem_samples listed)
    rw [entity_of_latest? found] at there
    exact ⟨o, there.unique owns ▸ found, (o.lookup_samples_iff target value).mpr listed⟩
  · rintro ⟨o, found, shown⟩
    exact ⟨entity, o, found, (o.lookup_samples_iff target value).mp shown⟩

/-- No instrument in use stands under the targets of an observation whose
labels are not cached. -/
theorem targets_free (realizes : exporter.Realizes view observations) {o : Observation}
    (different : ∀ set, exporter.cache.sets.get? o.entity = some set → set.labels ≠ o.labels) :
    ∀ target ∈ o.targets, ∀ other, view.Live exporter.meter other → view.target other ≠ target := by
  intro target own other live same
  rcases (realizes.live_iff other).mp live with ⟨entity, set, stored, member⟩
  have there := realizes.entity_of_target stored member (same ▸ own)
  exact different set (there.1 ▸ stored) there.2

/-- What is held after a set was put into the cache. -/
theorem holds_put {o : Observation} {set : InstrumentSet η} {meter : μ} {instrument : η} :
    (Exporter.mk ⟨exporter.cache.sets.put o.entity set⟩ meter).Holds instrument ↔
      instrument ∈ set.instruments ∨ ∃ entity other, o.entity ≠ entity ∧
        exporter.cache.sets.get? entity = some other ∧ instrument ∈ other.instruments := by
  simp only [Holds, Table.get?_put]
  constructor
  · rintro ⟨entity, other, stored, member⟩
    by_cases here : o.entity = entity
    · rw [if_pos here, Option.some.injEq] at stored
      exact Or.inl (stored ▸ member)
    · rw [if_neg here] at stored
      exact Or.inr ⟨entity, other, here, stored, member⟩
  · rintro (member | ⟨entity, other, here, stored, member⟩)
    · exact ⟨o.entity, set, if_pos rfl, member⟩
    · exact ⟨entity, other, (if_neg here).trans stored, member⟩

/-- What looks the same realizes the same. -/
theorem of_looks {meter : μ} (realizes : exporter.Realizes view observations)
    (looks : view.Looks meter (view.Live exporter.meter) (view.shown exporter.meter)) :
    Realizes view { exporter with meter } observations := by
  refine ⟨looks.sound, realizes.distinct, realizes.held, fun instrument => ?_, ?_⟩
  · exact (looks.live_iff instrument).trans (realizes.live_iff instrument)
  · intro target value
    rw [looks.shown_eq]
    exact realizes.shown_iff target value

end Realizes

/-! ## Recording one more observation -/

variable [Meter μ η]

/-- Records what an observation says. -/
def attempt (exporter : Exporter μ η) (o : Observation) : Except Fault Unit × Exporter μ η :=
  exporter.record o.kind o.id o.labels o.values

/-- Under the labels that are cached, only values are set. -/
theorem attempt_of_same {exporter : Exporter μ η} {o : Observation} {set : InstrumentSet η}
    (stored : exporter.cache.sets.get? o.entity = some set) (same : set.labels = o.labels) :
    exporter.attempt o =
      (.ok (), { exporter with meter := setAll exporter.meter set.instruments o.values }) := by
  have lookup : exporter.cache.sets.get? (o.kind, o.id) = some set := stored
  simp only [attempt, record, lookup, if_pos same]

omit [Meter μ η] in
/-- The labels of an observation are those that are cached, or they are new. -/
theorem same_or_new (exporter : Exporter μ η) (o : Observation) :
    (∃ set, exporter.cache.sets.get? o.entity = some set ∧ set.labels = o.labels) ∨
      ∀ set, exporter.cache.sets.get? o.entity = some set → set.labels ≠ o.labels := by
  by_cases same : ∃ set, exporter.cache.sets.get? o.entity = some set ∧ set.labels = o.labels
  · exact Or.inl same
  · exact Or.inr fun set stored equal => same ⟨set, stored, equal⟩

/-- Under labels that are not cached, an instrument set is created, what was
held before is retired, and the new set is filled. -/
theorem attempt_of_new {exporter : Exporter μ η} {o : Observation}
    (different : ∀ set, exporter.cache.sets.get? o.entity = some set → set.labels ≠ o.labels) :
    exporter.attempt o =
      match createAll o.kind o.labels o.kind.series [] exporter.meter with
      | (.ok instruments, meter) =>
          (.ok (), ⟨⟨exporter.cache.sets.put o.entity ⟨o.labels, instruments⟩⟩,
            setAll (retireAll meter (exporter.instrumentsOf o.entity)) instruments o.values⟩)
      | (.error fault, meter) => (.error fault, { exporter with meter }) := by
  unfold attempt record instrumentsOf
  cases stored : exporter.cache.sets.get? o.entity with
  | none =>
      have lookup : exporter.cache.sets.get? (o.kind, o.id) = none := stored
      simp only [lookup, InstrumentSet.create_eq]
      rcases createAll o.kind o.labels o.kind.series [] exporter.meter with
        ⟨fault | instruments, meter⟩ <;> rfl
  | some set =>
      have lookup : exporter.cache.sets.get? (o.kind, o.id) = some set := stored
      simp only [lookup, if_neg (different set stored), InstrumentSet.create_eq]
      rcases createAll o.kind o.labels o.kind.series [] exporter.meter with
        ⟨fault | instruments, meter⟩ <;> rfl

namespace Realizes

variable {view : MeterView μ η} {exporter : Exporter μ η} {observations : List Observation}

/-- Recording under the cached labels. -/
theorem attempt_same (lawful : view.Lawful) (realizes : exporter.Realizes view observations)
    {o : Observation} {set : InstrumentSet η}
    (stored : exporter.cache.sets.get? o.entity = some set) (same : set.labels = o.labels) :
    Realizes view { exporter with meter := setAll exporter.meter set.instruments o.values }
      (observations ++ [o]) := by
  rcases realizes.observed_of_set stored with ⟨p, found, labels, placed⟩
  have kinds : p.kind = o.kind := congrArg Prod.fst (entity_of_latest? found)
  have targets : p.targets = o.targets := Observation.targets_eq kinds (labels.symm.trans same)
  rw [targets] at placed
  have apart : (set.instruments.map view.target).Nodup :=
    placed ▸ o.kind.targets_nodup o.labels.values
  have looks := lawful.setAll o.values realizes.sound
    (fun instrument member => (realizes.live_iff instrument).mpr ⟨o.entity, set, stored, member⟩)
    apart
  refine ⟨looks.sound, realizes.distinct, fun entity => ?_, fun instrument => ?_, ?_⟩
  · rw [latest?_concat]
    by_cases here : o.entity = entity
    · subst here
      rw [if_pos rfl, stored, Option.map_some, Option.map_some, same, placed]
    · rw [if_neg here]
      exact realizes.held entity
  · exact (looks.live_iff instrument).trans (realizes.live_iff instrument)
  · intro target value
    rw [looks.shown_eq, placed]
    refine realizes.shown_after o (fun target q foreign found' member => ?_)
      (fun _ _ _ => rfl) target value
    rw [← Option.some.inj (found.symm.trans found'), targets] at member
    exact absurd member foreign

/-- Recording under new labels, once the new instruments were made. -/
theorem attempt_renewed (lawful : view.Lawful) (realizes : exporter.Realizes view observations)
    {o : Observation} {instruments : List η} {meter : μ}
    (different : ∀ set, exporter.cache.sets.get? o.entity = some set → set.labels ≠ o.labels)
    (created : view.AddsAll exporter.meter o.targets (.ok instruments, meter)) :
    Realizes view ⟨⟨exporter.cache.sets.put o.entity ⟨o.labels, instruments⟩⟩,
        setAll (retireAll meter (exporter.instrumentsOf o.entity)) instruments o.values⟩
      (observations ++ [o]) := by
  obtain ⟨placed, drafted⟩ := created
  obtain ⟨nodup, held, there⟩ := realizes.instrumentsOf_spec o.entity
  have apart : (instruments.map view.target).Nodup :=
    placed ▸ o.kind.targets_nodup o.labels.values
  have kept : ∀ instrument ∈ instruments, instrument ∉ exporter.instrumentsOf o.entity := by
    intro instrument new old
    rcases held instrument old with ⟨set, stored, member⟩
    have own : view.target instrument ∈ o.targets := placed ▸ List.mem_map_of_mem new
    exact different set stored (realizes.entity_of_target stored member own).2
  have cleared := lawful.retireAll drafted.sound nodup (fun instrument old => by
    rcases held instrument old with ⟨set, stored, member⟩
    exact (drafted.live_iff instrument).mpr
      (Or.inl ((realizes.live_iff instrument).mpr ⟨o.entity, set, stored, member⟩)))
  have filled := lawful.setAll o.values cleared.sound
    (fun instrument new => (cleared.live_iff instrument).mpr
      ⟨(drafted.live_iff instrument).mpr (Or.inr new), kept instrument new⟩) apart
  refine ⟨filled.sound, realizes.distinct.put _ _, fun entity => ?_, fun instrument => ?_, ?_⟩
  · rw [latest?_concat, Table.get?_put]
    by_cases here : o.entity = entity
    · rw [if_pos here, if_pos here, Option.map_some, Option.map_some, placed]
    · rw [if_neg here, if_neg here]
      exact realizes.held entity
  · rw [filled.live_iff, cleared.live_iff, drafted.live_iff, realizes.live_iff, holds_put]
    constructor
    · rintro ⟨⟨entity, set, stored, member⟩ | new, gone⟩
      · refine Or.inr ⟨entity, set, fun here => gone ?_, stored, member⟩
        rw [here, instrumentsOf, stored]
        exact member
      · exact Or.inl new
    · rintro (new | ⟨entity, set, here, stored, member⟩)
      · exact ⟨Or.inr new, kept instrument new⟩
      · refine ⟨Or.inl ⟨entity, set, stored, member⟩, fun old => ?_⟩
        rcases (there _).mp (List.mem_map_of_mem old) with ⟨p, found, own⟩
        have entities := (realizes.entity_of_target stored member own).1
        exact here ((entity_of_latest? found).symm.trans entities.symm)
  · intro target value
    rw [filled.shown_eq, placed]
    refine realizes.shown_after o (fun target p foreign found member => ?_)
      (fun target foreign unseen => ?_) target value
    · rw [cleared.shown_eq, if_pos ((there target).mpr ⟨p, found, member⟩)]
    · have absent : target ∉ (exporter.instrumentsOf o.entity).map view.target := by
        intro old
        rcases (there target).mp old with ⟨p, found, member⟩
        exact unseen p found member
      rw [cleared.shown_eq, if_neg absent, drafted.shown_eq, if_neg foreign]

/-- Recording an observation either succeeds, and the exporter realizes it
after all earlier ones, or fails without a trace. -/
theorem attempt (lawful : view.Lawful) (realizes : exporter.Realizes view observations)
    (o : Observation) :
    (∃ next, exporter.attempt o = (.ok (), next) ∧ next.Realizes view (observations ++ [o])) ∨
    view.refuses ∧ ∃ fault meter, exporter.attempt o = (.error fault, { exporter with meter }) ∧
      view.Looks meter (view.Live exporter.meter) (view.shown exporter.meter) := by
  rcases exporter.same_or_new o with ⟨set, stored, same⟩ | different
  · exact Or.inl ⟨_, attempt_of_same stored same, realizes.attempt_same lawful stored same⟩
  · have created := lawful.createAll realizes.sound o.keys_eq (realizes.targets_free different)
    rw [attempt_of_new different]
    rcases attempted : createAll o.kind o.labels o.kind.series [] exporter.meter with
      ⟨fault | instruments, meter⟩
    · rw [attempted] at created
      exact Or.inr ⟨created.1, fault, meter, rfl, created.2⟩
    · rw [attempted] at created
      exact Or.inl ⟨_, rfl, realizes.attempt_renewed lawful different created⟩

end Realizes
end Exporter
end StorageTelemetry
