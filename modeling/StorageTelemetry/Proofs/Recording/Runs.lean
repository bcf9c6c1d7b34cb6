import Mathlib.Data.List.Dedup
import StorageTelemetry.Proofs.Recording.Realization

namespace StorageTelemetry

/-!
# Runs of recordings

The cache is used through three calls, of which one records several entities.
A run of calls is therefore a run of attempts to record one observation each,
and what a run leaves behind is told by the observations whose attempts
succeeded: an exporter that starts empty realizes exactly these.
-/

/-- A call that records something. -/
inductive RecordCall
  | sdc (record : SdcRecord)
  | volume (record : VolumeRecord)
  | capacity (record : StorageClassRecord)
deriving DecidableEq

/-- What a call says, entity by entity. -/
def RecordCall.observations : RecordCall → List Observation
  | sdc record => [record.observation]
  | volume record => [record.observation]
  | capacity record => record.observations

/-- The identifiers of a kind that were observed, each once. -/
def observedIds (observations : List Observation) (kind : EntityKind) : List String :=
  ((observations.filter fun o => o.kind = kind).map (·.id)).dedup

/-- How attempts ended, each with what it was to record. -/
abbrev Outcomes := List (Observation × Except Fault Unit)

/-- The observations whose attempts succeeded. -/
def recorded (outcomes : Outcomes) : List Observation :=
  outcomes.filterMap fun (o, answer) => match answer with
    | .ok () => some o
    | .error _ => none

@[simp] theorem recorded_nil : recorded [] = [] := rfl

@[simp] theorem recorded_cons_ok (o : Observation) (rest : Outcomes) :
    recorded ((o, .ok ()) :: rest) = o :: recorded rest := rfl

@[simp] theorem recorded_cons_error (o : Observation) (fault : Fault) (rest : Outcomes) :
    recorded ((o, .error fault) :: rest) = recorded rest := rfl

/-- The faults of the attempts that failed. -/
def faultsOf (outcomes : Outcomes) : List Fault :=
  outcomes.filterMap fun (_, answer) => match answer with
    | .ok () => none
    | .error fault => some fault

/-- The first of some faults as an answer. -/
def firstFault : List Fault → Except Fault Unit
  | [] => .ok ()
  | fault :: _ => .error fault

variable {μ η : Type}

/-- The entities of the cache are the observed ones. -/
theorem Exporter.Realizes.mem_keys_iff {view : MeterView μ η} {exporter : Exporter μ η}
    {observations : List Observation} (realizes : exporter.Realizes view observations)
    (entity : Entity) :
    entity ∈ exporter.cache.sets.keys ↔ entity ∈ observations.map (·.entity) := by
  rw [Table.mem_keys_iff, ← exists_latest?_iff]
  constructor
  · rintro ⟨set, stored⟩
    rcases realizes.observed_of_set stored with ⟨o, found, _⟩
    exact ⟨o, found⟩
  · rintro ⟨o, found⟩
    rcases realizes.set_of_observed found with ⟨set, stored, _⟩
    exact ⟨set, stored⟩

theorem nodup_observedIds (observations : List Observation) (kind : EntityKind) :
    (observedIds observations kind).Nodup :=
  List.nodup_dedup _

theorem mem_observedIds {observations : List Observation} {kind : EntityKind} {id : String} :
    id ∈ observedIds observations kind ↔ (kind, id) ∈ observations.map (·.entity) := by
  rw [observedIds, List.mem_dedup]
  simp only [List.mem_map, List.mem_filter, decide_eq_true_eq]
  constructor
  · rintro ⟨o, ⟨member, kinds⟩, same⟩
    exact ⟨o, member, Prod.ext kinds same⟩
  · rintro ⟨o, member, same⟩
    exact ⟨o, ⟨member, congrArg Prod.fst same⟩, congrArg Prod.snd same⟩

/-- The cache counts every observed identifier of a kind once. -/
theorem Exporter.Realizes.count_eq {view : MeterView μ η} {exporter : Exporter μ η}
    {observations : List Observation} (realizes : exporter.Realizes view observations)
    (kind : EntityKind) :
    exporter.cache.count kind = (observedIds observations kind).length := by
  have ids : ((exporter.cache.sets.keys.filter fun entity => entity.1 = kind).map (·.2)).Perm
      (observedIds observations kind) := by
    rw [List.perm_ext_iff_of_nodup _ (nodup_observedIds observations kind)]
    · intro id
      rw [mem_observedIds, ← realizes.mem_keys_iff]
      simp only [List.mem_map, List.mem_filter, decide_eq_true_eq]
      constructor
      · rintro ⟨⟨kind', id'⟩, ⟨listed, rfl⟩, rfl⟩
        exact listed
      · intro listed
        exact ⟨(kind, id), ⟨listed, rfl⟩, rfl⟩
    · refine List.Nodup.map_on ?_ (realizes.distinct.filter _)
      intro first inFirst second inSecond same
      have kinds := of_decide_eq_true (List.mem_filter.mp inFirst).2
      have kinds' := of_decide_eq_true (List.mem_filter.mp inSecond).2
      exact Prod.ext (kinds.trans kinds'.symm) same
  rw [← ids.length_eq, List.length_map, Table.keys, List.filter_map, List.length_map]
  rfl

namespace Exporter

variable [Meter μ η]

/-- Attempts to record observations one after another, whatever becomes of the
ones before. -/
def attemptAll (exporter : Exporter μ η) : List Observation → Outcomes × Exporter μ η
  | [] => ([], exporter)
  | o :: rest =>
      let first := exporter.attempt o
      let others := first.2.attemptAll rest
      ((o, first.1) :: others.1, others.2)

/-- Makes a call. -/
def call (exporter : Exporter μ η) : RecordCall → Except Fault Unit × Exporter μ η
  | .sdc record => exporter.recordSdc record
  | .volume record => exporter.recordVolume record
  | .capacity record =>
      let done := exporter.recordCapacity record
      (done.1, done.2.1)

/-- Makes calls one after another. -/
def callAll (exporter : Exporter μ η) : List RecordCall →
    List (Except Fault Unit) × Exporter μ η
  | [] => ([], exporter)
  | call :: rest =>
      let first := exporter.call call
      let others := first.2.callAll rest
      (first.1 :: others.1, others.2)

theorem attemptAll_append (exporter : Exporter μ η) (first second : List Observation) :
    exporter.attemptAll (first ++ second) =
      ((exporter.attemptAll first).1 ++ ((exporter.attemptAll first).2.attemptAll second).1,
        ((exporter.attemptAll first).2.attemptAll second).2) := by
  induction first generalizing exporter with
  | nil => rfl
  | cons o rest ih => simp only [attemptAll, List.cons_append, ih]

/-- Every observation is attempted, in order. -/
theorem attemptAll_observations (exporter : Exporter μ η) (observations : List Observation) :
    (exporter.attemptAll observations).1.map (·.1) = observations := by
  induction observations generalizing exporter with
  | nil => rfl
  | cons o rest ih => exact congrArg (o :: ·) (ih _)

/-- Recording the pools of a storage class attempts one observation for each
pool. -/
theorem recordPools_eq (exporter : Exporter μ η) (storageClass : StorageClassMeta)
    (pools : List PoolCapacity) :
    (recordPools storageClass pools exporter).1.map (·.2) =
        faultsOf (exporter.attemptAll (pools.map (·.observation storageClass))).1 ∧
      (recordPools storageClass pools exporter).2 =
        (exporter.attemptAll (pools.map (·.observation storageClass))).2 := by
  induction pools generalizing exporter with
  | nil => exact ⟨rfl, rfl⟩
  | cons pool rest ih =>
      have same : exporter.attempt (pool.observation storageClass) =
          exporter.recordPool storageClass pool := rfl
      simp only [recordPools, List.map_cons, attemptAll, same]
      rcases exporter.recordPool storageClass pool with ⟨fault | ⟨⟨⟩⟩, next⟩
      · exact ⟨congrArg (fault :: ·) (ih next).1, (ih next).2⟩
      · exact ih next

/-- A call attempts what it says, entity by entity, and answers with the first
fault. -/
theorem call_eq (exporter : Exporter μ η) (call : RecordCall) :
    exporter.call call =
      (firstFault (faultsOf (exporter.attemptAll call.observations).1),
        (exporter.attemptAll call.observations).2) := by
  have single : ∀ o : Observation, exporter.attempt o =
      (firstFault (faultsOf (exporter.attemptAll [o]).1), (exporter.attemptAll [o]).2) := by
    intro o
    simp only [attemptAll]
    rcases exporter.attempt o with ⟨fault | ⟨⟨⟩⟩, next⟩ <;> rfl
  cases call with
  | sdc record => exact single record.observation
  | volume record => exact single record.observation
  | capacity record =>
      have pools := exporter.recordPools_eq record.storageClass record.pools
      simp only [Exporter.call, RecordCall.observations, StorageClassRecord.observations,
        recordCapacity, ← pools.1, ← pools.2]
      rcases recordPools record.storageClass record.pools exporter with
        ⟨_ | ⟨⟨pool, fault⟩, rest⟩, next⟩ <;> rfl

/-- A run of calls is a run of attempts. -/
theorem callAll_eq (exporter : Exporter μ η) (calls : List RecordCall) :
    (exporter.callAll calls).2 = (exporter.attemptAll (calls.flatMap (·.observations))).2 := by
  induction calls generalizing exporter with
  | nil => rfl
  | cons call rest ih =>
      simp only [callAll, List.flatMap_cons, attemptAll_append, ih, call_eq]

variable {view : MeterView μ η} {exporter : Exporter μ η} {observations : List Observation}

/-- After a run of attempts the exporter realizes what was recorded. -/
theorem Realizes.attemptAll (lawful : view.Lawful) (realizes : exporter.Realizes view observations)
    (attempts : List Observation) :
    (exporter.attemptAll attempts).2.Realizes view
      (observations ++ recorded (exporter.attemptAll attempts).1) := by
  induction attempts generalizing exporter observations with
  | nil => simpa only [Exporter.attemptAll, recorded_nil, List.append_nil]
  | cons o rest ih =>
      rcases realizes.attempt lawful o with ⟨next, ran, after⟩ | ⟨_, fault, meter, ran, looks⟩
      · have others := ih after
        rw [List.append_assoc, List.singleton_append] at others
        simpa only [Exporter.attemptAll, ran, recorded_cons_ok] using others
      · simpa only [Exporter.attemptAll, ran, recorded_cons_error] using
          ih (realizes.of_looks looks)

/-! ## Runs without refusals -/

/-- On a meter that never refuses, recording succeeds. -/
theorem Realizes.attempt_ok (lawful : view.Lawful) (willing : ¬view.refuses)
    (realizes : exporter.Realizes view observations) (o : Observation) :
    ∃ next, exporter.attempt o = (.ok (), next) ∧ next.Realizes view (observations ++ [o]) := by
  rcases realizes.attempt lawful o with succeeded | ⟨refused, _⟩
  · exact succeeded
  · exact absurd refused willing

theorem Realizes.attemptAll_ok (lawful : view.Lawful) (willing : ¬view.refuses)
    (realizes : exporter.Realizes view observations) (attempts : List Observation) :
    faultsOf (exporter.attemptAll attempts).1 = [] ∧
      (exporter.attemptAll attempts).2.Realizes view (observations ++ attempts) := by
  induction attempts generalizing exporter observations with
  | nil => exact ⟨rfl, by simpa only [List.append_nil]⟩
  | cons o rest ih =>
      rcases realizes.attempt_ok lawful willing o with ⟨next, ran, after⟩
      have others := ih after
      rw [List.append_assoc, List.singleton_append] at others
      simp only [Exporter.attemptAll, ran]
      exact others

theorem Realizes.callAll_ok (lawful : view.Lawful) (willing : ¬view.refuses)
    (realizes : exporter.Realizes view observations) (calls : List RecordCall) :
    (exporter.callAll calls).1 = List.replicate calls.length (.ok ()) ∧
      (exporter.callAll calls).2.Realizes view
        (observations ++ calls.flatMap (·.observations)) := by
  induction calls generalizing exporter observations with
  | nil => exact ⟨rfl, by simpa only [List.flatMap_nil, List.append_nil]⟩
  | cons call rest ih =>
      rcases realizes.attemptAll_ok lawful willing call.observations with ⟨faultless, after⟩
      have others := ih after
      rw [List.append_assoc, ← List.flatMap_cons] at others
      simp only [callAll, call_eq, faultless, others.1]
      exact ⟨rfl, others.2⟩

end Exporter
end StorageTelemetry
