import StorageTelemetry.Proofs.Recording.Runs

namespace StorageTelemetry

/-!
# The trace of a meter

Beside any meter a trace can be kept, in which everything that the cache does to
the meter is put down in order.  The cache does not see the trace, so a run with
the trace is the run without it as soon as the trace is forgotten.

What an attempt to record an observation may put down is told by the
instruments that it comes across: those that the entity had before, and those
that the meter gave it under the observed labels.
-/

/-- What the cache does to a meter. -/
inductive MeterEvent (η : Type)
  | create (name : String) (labels : LabelSet)
  | set (instrument : η) (value : Double)
  | retire (instrument : η)
deriving DecidableEq

/-- A meter and what was done to it, oldest first. -/
structure Traced (μ η : Type) where
  meter : μ
  events : List (MeterEvent η)

variable {μ η : Type}

instance [Meter μ η] : Meter (Traced μ η) η where
  create traced name help labels :=
    let made := Meter.create traced.meter name help labels
    (made.1, ⟨made.2, traced.events ++ [.create name labels]⟩)
  set traced instrument value :=
    ⟨Meter.set traced.meter instrument value, traced.events ++ [.set instrument value]⟩
  retire traced instrument :=
    ⟨Meter.retire traced.meter instrument, traced.events ++ [.retire instrument]⟩

namespace Exporter

/-- An exporter whose meter keeps a trace from now on. -/
def traced (exporter : Exporter μ η) : Exporter (Traced μ η) η :=
  ⟨exporter.cache, ⟨exporter.meter, []⟩⟩

def untraced (exporter : Exporter (Traced μ η) η) : Exporter μ η :=
  ⟨exporter.cache, exporter.meter.meter⟩

@[simp] theorem untraced_traced (exporter : Exporter μ η) : exporter.traced.untraced = exporter :=
  rfl

end Exporter

/-! ## What is put down -/

namespace Traced

/-- Whether all that was put down between two moments has a property. -/
def Adds (property : MeterEvent η → Prop) (before after : Traced μ η) : Prop :=
  ∃ added, after.events = before.events ++ added ∧ ∀ event ∈ added, property event

variable {property : MeterEvent η → Prop} {before middle after : Traced μ η}

theorem Adds.refl (property : MeterEvent η → Prop) (traced : Traced μ η) :
    Adds property traced traced :=
  ⟨[], (List.append_nil _).symm, nofun⟩

theorem Adds.trans (first : Adds property before middle) (second : Adds property middle after) :
    Adds property before after := by
  rcases first with ⟨added, grown, holds⟩
  rcases second with ⟨more, further, holds'⟩
  refine ⟨added ++ more, ?_, List.forall_mem_append.mpr ⟨holds, holds'⟩⟩
  rw [further, grown, List.append_assoc]

theorem Adds.mono {weaker : MeterEvent η → Prop} (adds : Adds property before after)
    (implies : ∀ event, property event → weaker event) : Adds weaker before after :=
  adds.imp fun _ grown => grown.imp_right fun holds event member =>
    implies event (holds event member)

/-- After a trace without events all that was put down has the property. -/
theorem Adds.of_start {exporter : Exporter μ η} (adds : Adds property exporter.traced.meter after) :
    ∀ event ∈ after.events, property event := by
  rcases adds with ⟨added, grown, holds⟩
  rw [grown]
  exact holds

end Traced

variable [Meter μ η]

/-! ## Forgetting the trace -/

section

variable (traced : Traced μ η)

theorem meter_setAll (instruments : List η) (values : List Double) :
    (setAll traced instruments values).meter = setAll traced.meter instruments values := by
  induction instruments generalizing traced values with
  | nil => rfl
  | cons instrument rest ih =>
      cases values with
      | nil => rfl
      | cons value values => exact ih _ values

theorem meter_retireAll (instruments : List η) :
    (retireAll traced instruments).meter = retireAll traced.meter instruments := by
  induction instruments generalizing traced with
  | nil => rfl
  | cons instrument rest ih => exact ih _

/-- A creation goes as it does without the trace. -/
theorem meter_createAll (kind : EntityKind) (labels : LabelSet) (specs : List SeriesSpec)
    (made : List η) :
    ((createAll kind labels specs made traced).1,
        (createAll kind labels specs made traced).2.meter) =
      createAll kind labels specs made traced.meter := by
  induction specs generalizing traced made with
  | nil => rfl
  | cons spec rest ih =>
      simp only [createAll]
      have asked : (Meter.create traced (kind.seriesName spec) spec.help labels :
          Except Fault η × Traced μ η) =
        ((Meter.create traced.meter (kind.seriesName spec) spec.help labels).1,
          ⟨(Meter.create traced.meter (kind.seriesName spec) spec.help labels).2,
            traced.events ++ [.create (kind.seriesName spec) labels]⟩) := rfl
      rw [asked]
      rcases Meter.create traced.meter (kind.seriesName spec) spec.help labels with
        ⟨fault | instrument, next⟩
      · exact Prod.ext rfl (meter_retireAll _ made)
      · exact ih _ _

end

namespace Exporter

/-- An attempt goes as it does without the trace. -/
theorem untraced_attempt (exporter : Exporter (Traced μ η) η) (o : Observation) :
    ((exporter.attempt o).1, (exporter.attempt o).2.untraced) = exporter.untraced.attempt o := by
  rcases exporter.same_or_new o with ⟨set, stored, same⟩ | different
  · have cached : exporter.untraced.cache.sets.get? o.entity = some set := stored
    rw [attempt_of_same stored same, attempt_of_same cached same]
    simp only [untraced, meter_setAll]
  · have created := meter_createAll exporter.meter o.kind o.labels o.kind.series []
    have held : exporter.untraced.instrumentsOf o.entity = exporter.instrumentsOf o.entity := rfl
    have meter : exporter.untraced.meter = exporter.meter.meter := rfl
    have uncached : ∀ set, exporter.untraced.cache.sets.get? o.entity = some set →
        set.labels ≠ o.labels := different
    rw [attempt_of_new different, attempt_of_new uncached, meter, ← created, held]
    rcases createAll o.kind o.labels o.kind.series [] exporter.meter with
      ⟨fault | instruments, next⟩
    · rfl
    · simp only [untraced, meter_setAll, meter_retireAll]

theorem untraced_recordPools (exporter : Exporter (Traced μ η) η) (storageClass : StorageClassMeta)
    (pools : List PoolCapacity) :
    ((recordPools storageClass pools exporter).1,
        (recordPools storageClass pools exporter).2.untraced) =
      recordPools storageClass pools exporter.untraced := by
  induction pools generalizing exporter with
  | nil => rfl
  | cons pool rest ih =>
      have first := exporter.untraced_attempt (pool.observation storageClass)
      have attempted : ∀ {ν : Type} [Meter ν η] (other : Exporter ν η),
          other.recordPool storageClass pool = other.attempt (pool.observation storageClass) :=
        fun _ => rfl
      simp only [recordPools, attempted, ← first]
      rcases exporter.attempt (pool.observation storageClass) with ⟨fault | ⟨⟨⟩⟩, next⟩
      · simp only [← ih]
      · exact ih next

theorem untraced_recordCapacity (exporter : Exporter (Traced μ η) η) (record : StorageClassRecord) :
    ((exporter.recordCapacity record).1, (exporter.recordCapacity record).2.1.untraced,
        (exporter.recordCapacity record).2.2) =
      exporter.untraced.recordCapacity record := by
  simp only [recordCapacity, ← exporter.untraced_recordPools]
  rcases recordPools record.storageClass record.pools exporter with
    ⟨_ | ⟨⟨pool, fault⟩, rest⟩, next⟩ <;> rfl

end Exporter

/-! ## What the cache puts down -/

namespace Traced

variable {property : MeterEvent η → Prop}

theorem adds_setAll (instruments : List η) (values : List Double) (traced : Traced μ η)
    (sets : ∀ instrument ∈ instruments, ∀ value ∈ values, property (.set instrument value)) :
    Adds property traced (setAll traced instruments values) := by
  induction instruments generalizing values traced with
  | nil => exact .refl property traced
  | cons instrument rest ih =>
      cases values with
      | nil => exact .refl property traced
      | cons value values =>
          have first : Adds property traced (Meter.set traced instrument value) :=
            ⟨[.set instrument value], rfl, by
              simpa using sets instrument List.mem_cons_self value List.mem_cons_self⟩
          apply first.trans
          apply ih values
          intro other listed shown given
          exact sets other (List.mem_cons_of_mem _ listed) shown (List.mem_cons_of_mem _ given)

theorem adds_retireAll (instruments : List η) (traced : Traced μ η)
    (retires : ∀ instrument ∈ instruments, property (.retire instrument)) :
    Adds property traced (retireAll traced instruments) := by
  induction instruments generalizing traced with
  | nil => exact .refl property traced
  | cons instrument rest ih =>
      have first : Adds property traced (Meter.retire traced instrument) :=
        ⟨[.retire instrument], rfl, by simpa using retires instrument List.mem_cons_self⟩
      apply first.trans
      exact ih _ fun other listed => retires other (List.mem_cons_of_mem _ listed)

/-- What an attempt may do, as far as it only comes across instruments of some
sort: the meter gives instruments of this sort under the observed labels, and
whatever is done with one of them has the property. -/
structure Allows (μ : Type) [Meter μ η] (o : Observation) (sort : η → Prop)
    (property : MeterEvent η → Prop) : Prop where
  given : ∀ (meter next : μ) (spec : SeriesSpec) (instrument : η), spec ∈ o.kind.series →
    Meter.create meter (o.kind.seriesName spec) spec.help o.labels = (.ok instrument, next) →
      sort instrument
  create : ∀ spec ∈ o.kind.series, property (.create (o.kind.seriesName spec) o.labels)
  set : ∀ instrument, sort instrument → ∀ value ∈ o.values, property (.set instrument value)
  retire : ∀ instrument, sort instrument → property (.retire instrument)

variable {o : Observation} {sort : η → Prop}

/-- Creating the series of an observation, some of which were made already. -/
theorem Allows.createAll (allows : Allows μ o sort property) {specs : List SeriesSpec}
    (known : ∀ spec ∈ specs, spec ∈ o.kind.series) (made : List η)
    (sorted : ∀ instrument ∈ made, sort instrument) (traced : Traced μ η) :
    Adds property traced (createAll o.kind o.labels specs made traced).2 ∧
      ∀ instruments, (createAll o.kind o.labels specs made traced).1 = .ok instruments →
        ∀ instrument ∈ instruments, sort instrument := by
  induction specs generalizing made traced with
  | nil =>
      refine ⟨.refl property traced, ?_⟩
      intro instruments all
      cases all
      exact sorted
  | cons spec rest ih =>
      have listed := known spec List.mem_cons_self
      have others : ∀ spec ∈ rest, spec ∈ o.kind.series :=
        fun spec member => known spec (List.mem_cons_of_mem _ member)
      simp only [StorageTelemetry.createAll]
      cases attempt : (Meter.create traced (o.kind.seriesName spec) spec.help o.labels :
          Except Fault η × Traced μ η) with
      | mk answer next =>
          have grown : next.events = traced.events ++ [.create (o.kind.seriesName spec) o.labels] :=
            congrArg (·.2.events) attempt.symm
          have first : Adds property traced next :=
            ⟨_, grown, by simpa using allows.create spec listed⟩
          cases answer with
          | ok instrument =>
              have answer := congrArg Prod.fst attempt
              have meter := congrArg (·.2.meter) attempt
              have fresh := allows.given traced.meter next.meter spec instrument listed
                (Prod.ext answer meter)
              have extended : ∀ other ∈ made ++ [instrument], sort other :=
                List.forall_mem_append.mpr ⟨sorted, by simpa using fresh⟩
              have after := ih others _ extended next
              exact ⟨first.trans after.1, after.2⟩
          | error fault =>
              refine ⟨first.trans (adds_retireAll made next fun other listed =>
                allows.retire other (sorted other listed)), ?_⟩
              intro instruments all
              cases all

/-- What an attempt puts down, if the instruments that are cached for the entity
are of the sort as well. -/
theorem Allows.attempt (allows : Allows μ o sort property) {exporter : Exporter (Traced μ η) η}
    (held : ∀ instrument ∈ exporter.instrumentsOf o.entity, sort instrument) :
    Adds property exporter.meter (exporter.attempt o).2.meter := by
  rcases exporter.same_or_new o with ⟨set, stored, same⟩ | different
  · have cached : exporter.instrumentsOf o.entity = set.instruments := by
      rw [Exporter.instrumentsOf, stored]
      rfl
    rw [Exporter.attempt_of_same stored same]
    apply adds_setAll
    intro instrument member
    exact allows.set instrument (held instrument (cached ▸ member))
  · have created := allows.createAll (fun _ member => member) [] (List.forall_mem_nil _)
      exporter.meter
    rw [Exporter.attempt_of_new different]
    rcases ended : StorageTelemetry.createAll o.kind o.labels o.kind.series [] exporter.meter with
      ⟨fault | instruments, next⟩
    all_goals rw [ended] at created
    · exact created.1
    · have fresh := created.2 instruments rfl
      apply created.1.trans
      apply Adds.trans (adds_retireAll _ next fun instrument member =>
        allows.retire instrument (held instrument member))
      apply adds_setAll
      intro instrument member
      exact allows.set instrument (fresh instrument member)

/-! ## Values -/

/-- The values that an attempt sets are observed ones. -/
theorem adds_attempt (exporter : Exporter (Traced μ η) η) (o : Observation) :
    Adds (fun event => ∀ instrument value, event = .set instrument value → value ∈ o.values)
      exporter.meter (exporter.attempt o).2.meter := by
  have allows : Allows μ o (fun _ : η => True) fun event =>
      ∀ instrument value, event = .set instrument value → value ∈ o.values := by
    constructor
    · exact fun _ _ _ _ _ _ => trivial
    · exact fun _ _ _ _ => nofun
    · intro instrument _ value observed other shown same
      cases same
      exact observed
    · exact fun _ _ _ _ => nofun
  exact allows.attempt fun _ _ => trivial

theorem adds_attemptAll (exporter : Exporter (Traced μ η) η) (observations : List Observation) :
    Adds (fun event => ∀ instrument value, event = .set instrument value →
        ∃ o ∈ observations, value ∈ o.values)
      exporter.meter (exporter.attemptAll observations).2.meter := by
  induction observations generalizing exporter with
  | nil => exact .refl _ _
  | cons o rest ih =>
      apply Adds.trans ((adds_attempt exporter o).mono _) ((ih (exporter.attempt o).2).mono _)
      · intro event own instrument value set
        exact ⟨o, List.mem_cons_self, own instrument value set⟩
      · intro event later instrument value set
        exact (later instrument value set).imp fun _ told => told.imp_left (List.mem_cons_of_mem _)

end Traced
end StorageTelemetry
