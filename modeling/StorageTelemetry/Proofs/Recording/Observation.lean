import StorageTelemetry.Cache.Basic
import StorageTelemetry.Proofs.Tables

namespace StorageTelemetry

/-!
# Observations

An observation is what one recording says about one entity: its labels and
its values.  What every recording has in common is carried as proof: the
labels have the keys of the kind, the first label is the identifier, and there
is one value for each series of the kind.

From this follows what keeps entities apart.  A series is found under its name
and its label values; the name tells the kind, and the first label value tells
the entity.  So two observations meet in a series only if they are about the
same entity under the same labels.
-/

/-- Where a series is found: its name and its label values. -/
abbrev Target := String × List String

/-- What an entity is known by. -/
abbrev Entity := EntityKind × String

namespace EntityKind

/-- The label keys of a kind in order. -/
def labelKeys : EntityKind → List String
  | sdc => ["sdc_id", "sdc_name", "ip", "node_name", "storage_system_id"]
  | volume =>
      ["volume_id", "volume_name", "storage_system_id", "persistent_volume",
       "persistent_volume_claim", "namespace", "storage_class", "mapped_node_ids",
       "mapped_node_ips"]
  | storagePool =>
      ["storage_pool_id", "storage_pool_name", "storage_class", "driver", "storage_system_id"]

/-- Every kind with every series it has. -/
def allSeries : List (EntityKind × SeriesSpec) :=
  [sdc, volume, storagePool].flatMap fun kind => kind.series.map fun spec => (kind, spec)

theorem mem_allSeries {kind : EntityKind} {spec : SeriesSpec} (member : spec ∈ kind.series) :
    (kind, spec) ∈ allSeries := by
  refine List.mem_flatMap.mpr ⟨kind, ?_, List.mem_map.mpr ⟨spec, member, rfl⟩⟩
  cases kind <;> decide

theorem allSeries_names_nodup :
    (allSeries.map fun entry => entry.1.seriesName entry.2).Nodup := by
  decide

/-- A series name tells the kind and the series. -/
theorem seriesName_injective {kind other : EntityKind} {spec spec' : SeriesSpec}
    (member : spec ∈ kind.series) (member' : spec' ∈ other.series)
    (same : kind.seriesName spec = other.seriesName spec') : kind = other ∧ spec = spec' := by
  have equal := List.inj_on_of_nodup_map allSeries_names_nodup (mem_allSeries member)
    (mem_allSeries member') same
  exact ⟨congrArg Prod.fst equal, congrArg Prod.snd equal⟩

/-- The names of the series of a kind in order. -/
def seriesNames (kind : EntityKind) : List String := kind.series.map kind.seriesName

theorem seriesNames_nodup (kind : EntityKind) : kind.seriesNames.Nodup := by
  cases kind <;> decide

/-- The targets of a kind's series under some label values. -/
def targets (kind : EntityKind) (values : List String) : List Target :=
  kind.seriesNames.map fun name => (name, values)

theorem mem_targets {kind : EntityKind} {values : List String} {target : Target} :
    target ∈ kind.targets values ↔ target.1 ∈ kind.seriesNames ∧ target.2 = values := by
  constructor
  · intro member
    rcases List.mem_map.mp member with ⟨name, listed, same⟩
    exact same ▸ ⟨listed, rfl⟩
  · rintro ⟨listed, same⟩
    exact List.mem_map.mpr ⟨target.1, listed, same ▸ rfl⟩

theorem targets_nodup (kind : EntityKind) (values : List String) :
    (kind.targets values).Nodup :=
  kind.seriesNames_nodup.map fun _ _ same => congrArg Prod.fst same

theorem targets_length (kind : EntityKind) (values : List String) :
    (kind.targets values).length = kind.series.length := by
  rw [targets, seriesNames, List.length_map, List.length_map]

/-- Kinds whose series share a name are the same. -/
theorem eq_of_mem_seriesNames {kind other : EntityKind} {name : String}
    (member : name ∈ kind.seriesNames) (member' : name ∈ other.seriesNames) : kind = other := by
  rcases List.mem_map.mp member with ⟨spec, listed, same⟩
  rcases List.mem_map.mp member' with ⟨spec', listed', same'⟩
  exact (seriesName_injective listed listed' (same.trans same'.symm)).1

end EntityKind

/-- Label sets are determined by their keys and values. -/
theorem LabelSet.eq_of_keys_of_values {labels other : LabelSet}
    (keys : labels.keys = other.keys) (values : labels.values = other.values) :
    labels = other := by
  have rebuilt : ∀ labels : LabelSet, labels.pairs = labels.keys.zip labels.values := by
    intro labels
    rw [LabelSet.keys, LabelSet.values, List.zip_map', List.map_id'']
    exact fun _ => rfl
  cases labels
  cases other
  exact congrArg LabelSet.mk ((rebuilt _).trans ((congrArg₂ List.zip keys values).trans
    (rebuilt _).symm))

/-- What one recording says about one entity. -/
structure Observation where
  kind : EntityKind
  id : String
  labels : LabelSet
  values : List Double
  keys_eq : labels.keys = kind.labelKeys
  id_first : labels.values.head? = some id
  arity : values.length = kind.series.length

namespace Observation

/-- The entity that is observed. -/
def entity (o : Observation) : Entity := (o.kind, o.id)

/-- Where the series of the entity are found. -/
def targets (o : Observation) : List Target := o.kind.targets o.labels.values

/-- The values of the series. -/
def samples (o : Observation) : List (Target × Double) := o.targets.zip o.values

theorem samples_targets (o : Observation) : o.samples.map (·.1) = o.targets := by
  refine List.map_fst_zip (Nat.le_of_eq ?_)
  rw [targets, EntityKind.targets_length, o.arity]

theorem mem_targets_of_mem_samples {o : Observation} {target : Target} {value : Double}
    (member : (target, value) ∈ o.samples) : target ∈ o.targets :=
  o.samples_targets ▸ List.mem_map_of_mem member

/-- The sample under a target is the one that is looked up there. -/
theorem lookup_samples_iff (o : Observation) (target : Target) (value : Double) :
    o.samples.lookup target = some value ↔ (target, value) ∈ o.samples := by
  have distinct : (o.samples.map (·.1)).Nodup :=
    o.samples_targets ▸ o.kind.targets_nodup o.labels.values
  rw [List.lookup_eq_some_iff]
  constructor
  · rintro ⟨before, after, split, _⟩
    exact split ▸ List.mem_append_right _ List.mem_cons_self
  · intro member
    rcases List.append_of_mem member with ⟨before, after, split⟩
    refine ⟨before, after, split, fun other earlier => bne_iff_ne.mpr ?_⟩
    rw [split, List.map_append, List.map_cons] at distinct
    exact fun same => (List.nodup_append.mp distinct).2.2 _ (List.mem_map_of_mem earlier) _
      List.mem_cons_self same.symm

/-- Under the targets of an observation a sample is found. -/
theorem exists_lookup_samples {o : Observation} {target : Target} (own : target ∈ o.targets) :
    ∃ value, o.samples.lookup target = some value := by
  rw [← o.samples_targets] at own
  rcases List.mem_map.mp own with ⟨⟨_, value⟩, listed, same⟩
  exact ⟨value, (o.lookup_samples_iff target value).mpr (same ▸ listed)⟩

/-- Elsewhere no sample is found. -/
theorem lookup_samples_eq_none {o : Observation} {target : Target} (foreign : target ∉ o.targets) :
    o.samples.lookup target = none := by
  cases found : o.samples.lookup target with
  | none => rfl
  | some value =>
      have listed := (o.lookup_samples_iff target value).mp found
      exact absurd (mem_targets_of_mem_samples listed) foreign

/-- Observations that meet in a series are about one entity under the same
labels. -/
theorem eq_of_mem_targets {o p : Observation} {target : Target}
    (member : target ∈ o.targets) (member' : target ∈ p.targets) :
    o.entity = p.entity ∧ o.labels = p.labels := by
  have first := EntityKind.mem_targets.mp member
  have second := EntityKind.mem_targets.mp member'
  have kinds := EntityKind.eq_of_mem_seriesNames first.1 second.1
  have values : o.labels.values = p.labels.values := first.2.symm.trans second.2
  have ids : o.id = p.id :=
    Option.some.inj (o.id_first.symm.trans ((congrArg List.head? values).trans p.id_first))
  have keys : o.labels.keys = p.labels.keys := by rw [o.keys_eq, p.keys_eq, kinds]
  exact ⟨Prod.ext kinds ids, LabelSet.eq_of_keys_of_values keys values⟩

/-- Observations of one kind under the same labels have the same series. -/
theorem targets_eq {o p : Observation} (kinds : o.kind = p.kind) (labels : o.labels = p.labels) :
    o.targets = p.targets := by
  rw [targets, targets, kinds, labels]

end Observation

/-! ## Ownership of targets -/

/-- Whether the series under a target are those of an entity: the name is one
of its kind's, and the first label value is its identifier. -/
def Owns (entity : Entity) (target : Target) : Prop :=
  target.1 ∈ entity.1.seriesNames ∧ target.2.head? = some entity.2

theorem Observation.owns {o : Observation} {target : Target} (member : target ∈ o.targets) :
    Owns o.entity target := by
  have parts := EntityKind.mem_targets.mp member
  exact ⟨parts.1, parts.2 ▸ o.id_first⟩

/-- A target has at most one owner. -/
theorem Owns.unique {entity other : Entity} {target : Target} (owns : Owns entity target)
    (owns' : Owns other target) : entity = other :=
  Prod.ext (EntityKind.eq_of_mem_seriesNames owns.1 owns'.1)
    (Option.some.inj (owns.2.symm.trans owns'.2))

/-! ## Observations of records -/

/-- What recording a data client says. -/
def SdcRecord.observation (record : SdcRecord) : Observation where
  kind := .sdc
  id := record.entity.id
  labels := record.entity.labels
  values := record.metrics.values
  keys_eq := rfl
  id_first := rfl
  arity := rfl

/-- What recording a volume says. -/
def VolumeRecord.observation (record : VolumeRecord) : Observation where
  kind := .volume
  id := record.entity.id
  labels := record.entity.labels
  values := record.metrics.values
  keys_eq := rfl
  id_first := rfl
  arity := rfl

/-- What recording a pool under a storage class says. -/
def PoolCapacity.observation (storageClass : StorageClassMeta) (pool : PoolCapacity) :
    Observation where
  kind := .storagePool
  id := pool.entity.id
  labels := pool.entity.labels storageClass
  values := pool.metrics.values
  keys_eq := rfl
  id_first := rfl
  arity := rfl

/-- What recording a storage class says, pool by pool. -/
def StorageClassRecord.observations (record : StorageClassRecord) : List Observation :=
  record.pools.map (PoolCapacity.observation record.storageClass)

/-! ## The latest observation of an entity -/

/-- The latest of some observations that is about an entity. -/
def latest? (observations : List Observation) (entity : Entity) : Option Observation :=
  observations.reverse.find? fun o => o.entity = entity

/-- Later observations take precedence over earlier ones. -/
theorem latest?_append (earlier later : List Observation) (entity : Entity) :
    latest? (earlier ++ later) entity = (latest? later entity).or (latest? earlier entity) := by
  rw [latest?, List.reverse_append, List.find?_append]
  rfl

theorem latest?_concat (observations : List Observation) (o : Observation) (entity : Entity) :
    latest? (observations ++ [o]) entity =
      if o.entity = entity then some o else latest? observations entity := by
  rw [latest?_append]
  by_cases same : o.entity = entity <;> simp [latest?, same]

/-- The latest observation of an entity is about that entity. -/
theorem entity_of_latest? {observations : List Observation} {entity : Entity} {o : Observation}
    (found : latest? observations entity = some o) : o.entity = entity := by
  simpa using List.find?_some found

theorem mem_of_latest? {observations : List Observation} {entity : Entity} {o : Observation}
    (found : latest? observations entity = some o) : o ∈ observations :=
  List.mem_reverse.mp (List.mem_of_find?_eq_some found)

/-- Of observations of different entities each is the latest of its entity. -/
theorem latest?_eq_some_iff {observations : List Observation}
    (distinct : (observations.map (·.entity)).Nodup) (entity : Entity) (o : Observation) :
    latest? observations entity = some o ↔ o ∈ observations ∧ o.entity = entity := by
  constructor
  · intro found
    exact ⟨mem_of_latest? found, entity_of_latest? found⟩
  · rintro ⟨member, rfl⟩
    have reversed : (observations.reverse.map (·.entity)).Nodup := by
      rw [List.map_reverse]
      exact List.nodup_reverse.mpr distinct
    exact find?_of_nodup Observation.entity reversed (List.mem_reverse.mpr member)

/-- The order of observations of different entities does not matter. -/
theorem latest?_perm {observations others : List Observation} (perm : observations.Perm others)
    (distinct : (observations.map (·.entity)).Nodup) (entity : Entity) :
    latest? observations entity = latest? others entity := by
  refine Option.ext fun o => ?_
  rw [latest?_eq_some_iff distinct, latest?_eq_some_iff ((perm.map _).nodup_iff.mp distinct),
    perm.mem_iff]

/-- An entity has a latest observation exactly if it was observed. -/
theorem exists_latest?_iff (observations : List Observation) (entity : Entity) :
    (∃ o, latest? observations entity = some o) ↔ entity ∈ observations.map (·.entity) := by
  constructor
  · rintro ⟨o, found⟩
    exact List.mem_map.mpr ⟨o, mem_of_latest? found, entity_of_latest? found⟩
  · intro member
    rcases List.mem_map.mp member with ⟨o, listed, same⟩
    have some : (latest? observations entity).isSome := by
      rw [latest?, List.find?_isSome]
      exact ⟨o, List.mem_reverse.mpr listed, by simpa using same⟩
    exact Option.isSome_iff_exists.mp some

end StorageTelemetry
