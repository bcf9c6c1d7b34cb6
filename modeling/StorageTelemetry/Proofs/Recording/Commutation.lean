import StorageTelemetry.Proofs.Recording.EventOwners

namespace StorageTelemetry

/-!
# The order of recordings

What is seen of an exporter after some calls depends on the latest observation
of each entity only.  So calls about different entities may be made in any
order, which is what lets records be pushed by tasks that nobody puts in order.

For the same reason a call that is made twice in a row leaves what it left
when it was made once.  More is true of the second time: the labels are cached
by then, and a recording under the cached labels sets values and does nothing
else.
-/

variable {μ η : Type}

/-! ## Observations that are repeated -/

/-- Observations that are made once more do not change which is the latest. -/
theorem latest?_append_again (earlier later : List Observation) (entity : Entity) :
    latest? (earlier ++ later ++ later) entity = latest? (earlier ++ later) entity := by
  rw [latest?_append, latest?_append]
  cases latest? later entity with
  | none => rfl
  | some o => rfl

/-- Whether some observations give no entity two label sets. -/
def Consistent (observations : List Observation) : Prop :=
  ∀ o ∈ observations, ∀ p ∈ observations, o.entity = p.entity → o.labels = p.labels

theorem Consistent.of_nodup {observations : List Observation}
    (apart : (observations.map (·.entity)).Nodup) : Consistent observations := by
  intro o member p member' same
  rw [List.inj_on_of_nodup_map apart member member' same]

namespace Exporter

/-- Whether the labels of an observation are those that are cached. -/
def Caches (exporter : Exporter μ η) (o : Observation) : Prop :=
  ∃ set, exporter.cache.sets.get? o.entity = some set ∧ set.labels = o.labels

/-- After observations that give no entity two label sets, the cache has the
labels of each of them. -/
theorem Realizes.caches {view : MeterView μ η} {exporter : Exporter μ η}
    {earlier later : List Observation} (realizes : exporter.Realizes view (earlier ++ later))
    (consistent : Consistent later) : ∀ o ∈ later, exporter.Caches o := by
  intro o member
  rcases (exists_latest?_iff later o.entity).mpr (List.mem_map_of_mem member) with ⟨p, found⟩
  have latest : latest? (earlier ++ later) o.entity = some p := by
    rw [latest?_append, found, Option.some_or]
  rcases realizes.set_of_observed latest with ⟨set, stored, labels, _⟩
  refine ⟨set, stored, labels.trans ?_⟩
  exact consistent p (mem_of_latest? found) o member (entity_of_latest? found)

variable [Meter μ η]

/-! ## Calls with a trace -/

/-- A call goes as it does without the trace. -/
theorem untraced_call (exporter : Exporter (Traced μ η) η) (call : RecordCall) :
    ((exporter.call call).1, (exporter.call call).2.untraced) = exporter.untraced.call call := by
  cases call with
  | sdc record => exact exporter.untraced_attempt record.observation
  | volume record => exact exporter.untraced_attempt record.observation
  | capacity record =>
      have recorded := exporter.untraced_recordCapacity record
      simp only [Exporter.call, ← recorded]

/-- Attempts under cached labels succeed, leave the cache as it is, and only set
values. -/
theorem attemptAll_of_cached {exporter : Exporter (Traced μ η) η} {attempts : List Observation}
    (cached : ∀ o ∈ attempts, exporter.Caches o) :
    faultsOf (exporter.attemptAll attempts).1 = [] ∧
      (exporter.attemptAll attempts).2.cache = exporter.cache ∧
      Traced.Adds MeterEvent.SetsValue exporter.meter (exporter.attemptAll attempts).2.meter := by
  induction attempts generalizing exporter with
  | nil => exact ⟨rfl, rfl, .refl _ _⟩
  | cons o rest ih =>
      rcases cached o List.mem_cons_self with ⟨set, stored, same⟩
      have first := attempt_of_same stored same
      have sets : Traced.Adds MeterEvent.SetsValue exporter.meter
          (exporter.attempt o).2.meter := by
        rw [first]
        apply Traced.adds_setAll
        exact fun instrument _ value _ => ⟨instrument, value, rfl⟩
      have kept : (exporter.attempt o).2.cache = exporter.cache := by rw [first]
      have others : ∀ p ∈ rest, (exporter.attempt o).2.Caches p := by
        intro p member
        rw [Caches, kept]
        exact cached p (List.mem_cons_of_mem _ member)
      have later := ih others
      refine ⟨?_, later.2.1.trans kept, sets.trans later.2.2⟩
      simp only [Exporter.attemptAll, first]
      rw [first] at later
      exact later.1

end Exporter

/-- Let an exporter have come about in any way.

Calls of which no two observations are about one entity may be made in any
order, and the pools of storage classes may be spread over calls in any way: no
call fails, and the exporters that result answer and export the same.

A call that is made twice in a row leaves what it left when it was made once.
If it does not give one entity two label sets itself, which a record of one
entity cannot, then the second time it leaves the cache untouched and does
nothing to the meter but set values. -/
theorem recordings_commute {exporter : Exporter Registry Handle} (reached : exporter.Reached) :
    (∀ calls others : List RecordCall,
      ((calls.flatMap (·.observations)).map (·.entity)).Nodup →
      (calls.flatMap (·.observations)).Perm (others.flatMap (·.observations)) →
        (exporter.callAll calls).1 = List.replicate calls.length (.ok ()) ∧
        (exporter.callAll others).1 = List.replicate others.length (.ok ()) ∧
        (exporter.callAll calls).2.Alike (exporter.callAll others).2) ∧
    ∀ call : RecordCall,
      let once := (exporter.call call).2
      let again := once.traced.call call
      again.1 = .ok () ∧ again.2.untraced = (once.call call).2 ∧ again.2.untraced.Alike once ∧
        (Consistent call.observations →
          again.2.cache = once.cache ∧ ∀ event ∈ again.2.meter.events, event.SetsValue) := by
  rcases reached.realizes with ⟨observations, realizes⟩
  refine ⟨fun calls others apart said => ?_, fun call => ?_⟩
  · have lawful := Registry.view_lawful exporter.meter.bare
    have first := realizes.callAll_ok lawful id calls
    have second := realizes.callAll_ok lawful id others
    refine ⟨first.1, second.1, first.2.alike second.2 fun entity => ?_⟩
    rw [latest?_append, latest?_append, latest?_perm said apart]
  · intro once again
    have lawful := Registry.view_lawful exporter.meter.bare
    have first : once.Realizes (Registry.view exporter.meter.bare)
        (observations ++ call.observations) := by
      have ran := realizes.attemptAll_ok lawful id call.observations
      have left : once = (exporter.attemptAll call.observations).2 :=
        congrArg Prod.snd (exporter.call_eq call)
      exact left ▸ ran.2
    have second := first.attemptAll_ok lawful id call.observations
    have untraced : (again.1, again.2.untraced) = once.call call := once.traced.untraced_call call
    have ran : (again.1, again.2.untraced) =
        (.ok (), (once.attemptAll call.observations).2) := by
      rw [untraced, once.call_eq, second.1]
      rfl
    refine ⟨congrArg Prod.fst ran, congrArg Prod.snd untraced, ?_, fun consistent => ?_⟩
    · have left : again.2.untraced = (once.attemptAll call.observations).2 := congrArg Prod.snd ran
      rw [left]
      apply second.2.alike first
      exact latest?_append_again observations call.observations
    · have cached : ∀ o ∈ call.observations, once.traced.Caches o := first.caches consistent
      have sets := Exporter.attemptAll_of_cached cached
      have left : again.2 = (once.traced.attemptAll call.observations).2 :=
        congrArg Prod.snd (once.traced.call_eq call)
      rw [left]
      exact ⟨sets.2.1, sets.2.2.of_start⟩

/-! ## A relabelled volume -/

/-- A volume under a name, without figures. -/
def namedVolume (name : String) : RecordCall :=
  .volume ⟨{ VolumeMeta.blank with id := "v", name }, .zero⟩

/-- A storage class with two empty pools. -/
def twoPools : RecordCall :=
  .capacity ⟨⟨"gold", "csi", ""⟩,
    [⟨⟨"p", "fast"⟩, ⟨.zero, .zero, .zero, .zero⟩⟩, ⟨⟨"q", "slow"⟩, ⟨.zero, .zero, .zero, .zero⟩⟩]⟩

/-- What recording the volume under its old name leaves. -/
def oldName : Exporter Registry Handle :=
  ((Exporter.start Registry.empty).call (namedVolume "old")).2

/-- Recording the volume under another name and two new pools, in either order,
leaves the same text; and recording the pools once more only sets values. -/
theorem renamed_volume_commutes :
    oldName.Reached ∧
      (([namedVolume "new", twoPools].flatMap (·.observations)).map (·.entity)).Nodup ∧
      ([namedVolume "new", twoPools].flatMap (·.observations)).Perm
        ([twoPools, namedVolume "new"].flatMap (·.observations)) ∧
      (oldName.callAll [namedVolume "new", twoPools]).2.meter.render =
        (oldName.callAll [twoPools, namedVolume "new"]).2.meter.render ∧
      Consistent twoPools.observations ∧
      ∀ event ∈ ((oldName.call twoPools).2.traced.call twoPools).2.meter.events,
        event.SetsValue := by
  have reached : oldName.Reached := .call (namedVolume "old") .start
  have apart : (([namedVolume "new", twoPools].flatMap (·.observations)).map (·.entity)).Nodup := by
    decide
  have said : ([namedVolume "new", twoPools].flatMap (·.observations)).Perm
      ([twoPools, namedVolume "new"].flatMap (·.observations)) :=
    (List.Perm.swap _ _ _).flatMap_right _
  have consistent : Consistent twoPools.observations := .of_nodup (by decide)
  have commute := recordings_commute reached
  refine ⟨reached, apart, said, ?_, consistent, ?_⟩
  · exact (commute.1 _ _ apart said).2.2.text
  · exact ((commute.2 twoPools).2.2.2 consistent).2

end StorageTelemetry
