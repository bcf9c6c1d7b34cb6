import StorageTelemetry.Proofs.Collection.PassRuns
import StorageTelemetry.Proofs.Statistics.Wiring

namespace StorageTelemetry

/-!
# From statistics to exported series

A record is made from statistics, a call makes an observation of the record, and
the meter exports the observation.  Put together, the exported series of an
entity carry what is wired to them, computed from the statistics that its latest
record was made from.  No other entity has a part in this, and each series has
its own counters or samples only.
-/

/-! ## What is wired to an entity -/

/-- The name under which a series of a kind is exported. -/
def SeriesWiring.nameFor (wiring : SeriesWiring) (kind : EntityKind) : String :=
  kind.seriesStem ++ "_" ++ wiring.ending

/-- The value of each series of a kind under its name. -/
def EntityKind.wired (kind : EntityKind) (raw : RawStatistics) : List (String × Double) :=
  kind.wiring.map fun wiring => (wiring.nameFor kind, wiring.value raw)

theorem EntityKind.names_wiring (kind : EntityKind) :
    kind.wiring.map (·.nameFor kind) = kind.seriesNames := by
  calc kind.wiring.map (·.nameFor kind)
      = (kind.wiring.map (·.ending)).map (kind.seriesStem ++ "_" ++ ·) := (List.map_map ..).symm
    _ = (kind.series.map (·.ending)).map (kind.seriesStem ++ "_" ++ ·) := by
        rw [kind.endings_wiring]
    _ = kind.seriesNames := List.map_map ..

/-- Values in the order of the wiring are those of the named series. -/
theorem EntityKind.zip_wiring (kind : EntityKind) (raw : RawStatistics) :
    kind.seriesNames.zip (kind.wiring.map (·.value raw)) = kind.wired raw := by
  rw [← kind.names_wiring, List.zip_map', wired]

/-- Under the name of a series its own value is found only. -/
theorem EntityKind.mem_wired {kind : EntityKind} {wiring : SeriesWiring} (raw : RawStatistics)
    (own : wiring ∈ kind.wiring) (value : Double) :
    (wiring.nameFor kind, value) ∈ kind.wired raw ↔ value = wiring.value raw := by
  have here : (wiring.nameFor kind, wiring.value raw) ∈ kind.wired raw :=
    List.mem_map.mpr ⟨wiring, own, rfl⟩
  have names : ((kind.wired raw).map (·.1)).Nodup := by
    rw [wired, List.map_map]
    exact kind.names_wiring ▸ kind.seriesNames_nodup
  constructor
  · intro member
    exact congrArg Prod.snd (List.inj_on_of_nodup_map names member here rfl)
  · rintro rfl
    exact here

/-! ## Calls that carry statistics -/

/-- Whether the last thing that a call says of an entity was made from some
statistics. -/
inductive RecordCall.Carries : RecordCall → Entity → RawStatistics → Prop
  | sdc (entity : SdcMeta) {statistics : IoStatistics} {raw : RawStatistics}
      (reads : statistics.Reads raw) :
      Carries (.sdc ⟨entity, statistics.normalize⟩) (.sdc, entity.id) raw
  | volume (entity : VolumeMeta) {statistics : IoStatistics} {raw : RawStatistics}
      (reads : statistics.Reads raw) :
      Carries (.volume ⟨entity, statistics.normalize⟩) (.volume, entity.id) raw
  | pool (storageClass : StorageClassMeta) (before : List PoolCapacity) (entity : StoragePoolMeta)
      {after : List PoolCapacity} {statistics : CapacityStatistics} {raw : RawStatistics}
      (reads : statistics.Reads raw) (last : ∀ pool ∈ after, pool.entity.id ≠ entity.id) :
      Carries (.capacity ⟨storageClass, before ++ ⟨entity, statistics.normalize⟩ :: after⟩)
        (.storagePool, entity.id) raw

/-- A call that carries statistics observes the values that are wired. -/
theorem RecordCall.Carries.latest? {call : RecordCall} {entity : Entity} {raw : RawStatistics}
    (carries : call.Carries entity raw) :
    ∃ o, StorageTelemetry.latest? call.observations entity = some o ∧
      o.values = entity.1.wiring.map (·.value raw) := by
  cases carries with
  | sdc entity reads =>
      exact ⟨_, (latest?_concat [] _ _).trans (if_pos rfl), IoStatistics.values_normalize reads⟩
  | volume entity reads =>
      exact ⟨_, (latest?_concat [] _ _).trans (if_pos rfl), IoStatistics.values_normalize reads⟩
  | @pool storageClass before entity after statistics raw reads last =>
      refine ⟨PoolCapacity.observation storageClass ⟨entity, statistics.normalize⟩, ?_,
        CapacityStatistics.values_normalize reads⟩
      rw [observations, StorageClassRecord.observations, List.append_cons, List.map_append,
        latest?_append_of_others, List.map_append, List.map_singleton, latest?_concat]
      · exact if_pos rfl
      · intro o member same
        obtain ⟨pool, listed, rfl⟩ := List.mem_map.mp member
        exact last pool listed (congrArg Prod.snd same)

/-! ## Exporters that carry statistics -/

namespace Exporter

/-- The values that are exported for an entity, each under the name of its
series. -/
def valuesOf (exporter : Exporter Registry Handle) (entity : Entity) : List (String × Double) :=
  (exporter.meter.seriesOf entity).map fun series => (series.name, series.value)

/-- Whether the latest record of an entity was made from some statistics.  What
was recorded before is arbitrary, and so is what was recorded of other entities
since. -/
def Carrying (exporter : Exporter Registry Handle) (entity : Entity) (raw : RawStatistics) :
    Prop :=
  ∃ (before : Exporter Registry Handle) (call : RecordCall) (later : List RecordCall),
    before.Reached ∧ call.Carries entity raw ∧
    (∀ other ∈ later, ∀ o ∈ other.observations, o.entity ≠ entity) ∧
    exporter = ((before.call call).2.callAll later).2

end Exporter

theorem Observation.values_exported (o : Observation) :
    (o.exported.map fun series => (series.name, series.value)) =
      o.kind.seriesNames.zip o.values := by
  rw [Observation.exported, List.map_map, EntityKind.seriesNames, List.zip_map_left]
  rfl

/-- An exporter exports the wired values of the statistics that it carries. -/
theorem Exporter.Carrying.valuesOf_perm {exporter : Exporter Registry Handle} {entity : Entity}
    {raw : RawStatistics} (carrying : exporter.Carrying entity raw) :
    (exporter.valuesOf entity).Perm (entity.1.wired raw) := by
  obtain ⟨before, call, later, reached, carries, others, rfl⟩ := carrying
  obtain ⟨observations, realizes⟩ := reached.realizes
  obtain ⟨o, latest, values⟩ := carries.latest?
  have called := realizes.callAll_ok (Registry.view_lawful before.meter.bare) id (call :: later)
  have after := called.2
  rw [List.flatMap_cons, ← List.append_assoc] at after
  have found : latest? (observations ++ call.observations ++ later.flatMap (·.observations))
      entity = some o := by
    rw [latest?_append_of_others, latest?_append, latest, Option.some_or]
    intro o member
    obtain ⟨other, made, told⟩ := List.mem_flatMap.mp member
    exact others other made o told
  have shown := after.seriesOf_perm entity
  rw [found] at shown
  have named := shown.map fun series => (series.name, series.value)
  have about := entity_of_latest? latest
  subst about
  refine named.trans (List.Perm.of_eq ?_)
  have listed : (o.exported.map fun series => (series.name, series.value)) =
      o.kind.wired raw := by
    rw [o.values_exported, values, ← o.kind.zip_wiring]
    rfl
  exact listed

/-- After a record of an entity was pushed, each of its exported series carries
what is wired to it, computed from the statistics that the record was made from.
If instead of these statistics others are pushed that have the same counters or
the same samples as far as one series is concerned, then, whatever else is
different about them or about other entities, this series has the same value. -/
theorem exported_series_are_wired {exporter : Exporter Registry Handle} {entity : Entity}
    {raw : RawStatistics} (carrying : exporter.Carrying entity raw) :
    (exporter.valuesOf entity).Perm (entity.1.wired raw) ∧
    ∀ (other : Exporter Registry Handle) (raw' : RawStatistics), other.Carrying entity raw' →
      ∀ wiring ∈ entity.1.wiring, wiring.Same raw raw' →
        ∀ value, (wiring.nameFor entity.1, value) ∈ exporter.valuesOf entity ↔
          (wiring.nameFor entity.1, value) ∈ other.valuesOf entity := by
  refine ⟨carrying.valuesOf_perm, ?_⟩
  intro other raw' carrying' wiring own same value
  rw [carrying.valuesOf_perm.mem_iff, carrying'.valuesOf_perm.mem_iff,
    EntityKind.mem_wired raw own, EntityKind.mem_wired raw' own,
    SeriesWiring.value_eq_of_same same]

/-- What a legacy system says of a pool of four gigabytes, half of which are in
use. -/
def halfUsed : Json :=
  .ofMembers [("maxCapacityInKb", .ofNat 4194304), ("capacityInUseInKb", .ofNat 2097152)]

def halfUsedStatistics : CapacityStatistics := .legacy ⟨4194304, 0, 2097152, 0⟩

/-- The record of the pool. -/
def halfUsedCall : RecordCall :=
  .capacity ⟨⟨"gold", "driver", "system"⟩, [⟨⟨"pool", "first"⟩, halfUsedStatistics.normalize⟩]⟩

/-- An exporter to which the pool was recorded. -/
def halfUsedExporter : Exporter Registry Handle :=
  ((Exporter.start Registry.empty).call halfUsedCall).2

theorem halfUsed_values : halfUsedExporter.Carrying (.storagePool, "pool") (.counters halfUsed) ∧
    (halfUsedExporter.valuesOf (.storagePool, "pool")).Perm
      [("powerflex_storage_pool_total_logical_capacity_gigabytes", Double.ofNat 2),
       ("powerflex_storage_pool_logical_capacity_available_gigabytes", Double.ofNat 1),
       ("powerflex_storage_pool_logical_capacity_in_use_gigabytes", Double.ofNat 1),
       ("powerflex_storage_pool_logical_provisioned_gigabytes", .zero)] := by
  have reads : halfUsedStatistics.Reads (.counters halfUsed) := by
    unfold halfUsedStatistics CapacityStatistics.Reads
    rfl
  have carries : halfUsedCall.Carries (.storagePool, "pool") (.counters halfUsed) :=
    .pool ⟨"gold", "driver", "system"⟩ [] ⟨"pool", "first"⟩ reads
      fun _ listed => absurd listed List.not_mem_nil
  have carrying : halfUsedExporter.Carrying (.storagePool, "pool") (.counters halfUsed) :=
    ⟨Exporter.start Registry.empty, halfUsedCall, [], .start, carries,
      fun _ listed => absurd listed List.not_mem_nil, rfl⟩
  refine ⟨carrying, (exported_series_are_wired carrying).1.trans (List.Perm.of_eq ?_)⟩
  decide +kernel

end StorageTelemetry
