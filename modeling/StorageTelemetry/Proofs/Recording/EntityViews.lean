import StorageTelemetry.Proofs.Recording.Agreement

namespace StorageTelemetry

/-!
# What is seen of one entity

The exported series of an entity are told from those of all others by the name
of the series and the label that carries the identifier.  An exporter shows of
an entity what its latest observation calls for, so recordings of some entities
leave what is seen of every other one as it was.
-/

/-- The label under which the identifier of an entity is exported. -/
def EntityKind.idKey : EntityKind → String
  | sdc => "sdc_id"
  | volume => "volume_id"
  | storagePool => "storage_pool_id"

/-- Whether an exported series is one of an entity. -/
def ExportedSeries.isOf (series : ExportedSeries) (entity : Entity) : Bool :=
  entity.1.seriesNames.contains series.name && series.labels.contains (entity.1.idKey, entity.2)

/-- The exported series of an entity. -/
def Registry.seriesOf (registry : Registry) (entity : Entity) : List ExportedSeries :=
  registry.entitySeries.filter (·.isOf entity)

/-- Whether two exporters look the same as far as one entity is concerned. -/
structure Exporter.AgreesOn (exporter other : Exporter Registry Handle) (entity : Entity) :
    Prop where
  labels : exporter.cache.labels? entity.1 entity.2 = other.cache.labels? entity.1 entity.2
  series : (exporter.meter.seriesOf entity).Perm (other.meter.seriesOf entity)

/-! ## The series of an observation -/

/-- The label of the identifier comes first, and no other has its key. -/
theorem Observation.idKey_mem_pairs (o : Observation) (id : String) :
    (o.kind.idKey, id) ∈ o.labels.pairs ↔ id = o.id := by
  have keys : ∃ others, o.kind.labelKeys = o.kind.idKey :: others ∧ o.kind.idKey ∉ others := by
    cases o.kind <;> exact ⟨_, rfl, by decide⟩
  obtain ⟨others, keys, absent⟩ := keys
  have shape := o.keys_eq.trans keys
  have first := o.id_first
  cases labels : o.labels.pairs with
  | nil => simp [LabelSet.keys, labels] at shape
  | cons pair rest =>
      simp only [LabelSet.keys, labels, List.map_cons, List.cons.injEq] at shape
      simp only [LabelSet.values, labels, List.map_cons, List.head?_cons,
        Option.some.injEq] at first
      have elsewhere : (o.kind.idKey, id) ∉ rest := fun member =>
        absent (shape.2 ▸ List.mem_map_of_mem (f := Prod.fst) member)
      rw [List.mem_cons, or_iff_left elsewhere]
      constructor
      · intro same
        rw [← first, ← same]
      · rintro rfl
        exact Prod.ext shape.1.symm first.symm

/-- The series that an observation calls for are those of the observed entity. -/
theorem Observation.isOf_exported {o : Observation} {series : ExportedSeries}
    (member : series ∈ o.exported) (entity : Entity) :
    series.isOf entity = true ↔ o.entity = entity := by
  rcases List.mem_map.mp member with ⟨⟨spec, value⟩, zipped, rfl⟩
  have name : o.kind.seriesName spec ∈ o.kind.seriesNames :=
    List.mem_map_of_mem (List.of_mem_zip zipped).1
  simp only [ExportedSeries.isOf, Bool.and_eq_true, List.contains_iff_mem, sortLabels,
    List.mem_mergeSort]
  constructor
  · rintro ⟨named, labelled⟩
    have kinds := EntityKind.eq_of_mem_seriesNames name named
    rw [← kinds, o.idKey_mem_pairs] at labelled
    exact Prod.ext kinds labelled.symm
  · rintro rfl
    exact ⟨name, (o.idKey_mem_pairs o.id).mpr rfl⟩

/-! ## The series of an entity -/

/-- What is picked out of a list without repetitions occurs at most once. -/
theorem flatMap_ite_eq {α β : Type} [DecidableEq α] {entries : List α} (distinct : entries.Nodup)
    (picked : α) (f : α → List β) :
    (entries.flatMap fun entry => if entry = picked then f entry else []) =
      if picked ∈ entries then f picked else [] := by
  induction entries with
  | nil => rfl
  | cons entry rest ih =>
      obtain ⟨absent, distinct⟩ := List.nodup_cons.mp distinct
      rw [List.flatMap_cons, ih distinct]
      by_cases here : entry = picked
      · subst here
        simp [absent]
      · simp [here, Ne.symm here]

/-- Of the latest series those of an entity are what its latest observation
calls for. -/
theorem filter_latestSeries (observations : List Observation) (entity : Entity) :
    (latestSeries observations).filter (·.isOf entity) =
      ((latest? observations entity).map (·.exported)).getD [] := by
  have each : ∀ other, (((latest? observations other).map (·.exported)).getD []).filter
      (·.isOf entity) =
        if other = entity then ((latest? observations other).map (·.exported)).getD [] else [] := by
    intro other
    cases found : latest? observations other with
    | none => simp
    | some o =>
        have about := entity_of_latest? found
        by_cases own : other = entity
        · rw [if_pos own]
          exact List.filter_eq_self.mpr fun series member =>
            (Observation.isOf_exported member entity).mpr (about.trans own)
        · rw [if_neg own]
          refine List.filter_eq_nil_iff.mpr fun series member isOf => own ?_
          exact about.symm.trans ((Observation.isOf_exported member entity).mp isOf)
  rw [latestSeries, List.filter_flatMap, List.flatMap_congr fun other _ => each other,
    flatMap_ite_eq (List.nodup_dedup _)]
  by_cases observed : entity ∈ (observations.map (·.entity)).dedup
  · rw [if_pos observed]
  · rw [List.mem_dedup, ← exists_latest?_iff, ← Option.isSome_iff_exists,
      Option.not_isSome_iff_eq_none] at observed
    simp [observed]

namespace Exporter

variable {figures figures' : Registry} {exporter other : Exporter Registry Handle}
  {observations observations' : List Observation} {entity : Entity}

/-- An exporter over a registry shows of an entity what its latest observation
calls for. -/
theorem Realizes.seriesOf_perm (realizes : exporter.Realizes (Registry.view figures) observations)
    (entity : Entity) :
    (exporter.meter.seriesOf entity).Perm
      (((latest? observations entity).map (·.exported)).getD []) := by
  rw [← filter_latestSeries]
  exact realizes.entitySeries_perm.filter _

/-- Exporters agree on an entity if its latest observation is the same. -/
theorem Realizes.agreesOn (realizes : exporter.Realizes (Registry.view figures) observations)
    (realizes' : other.Realizes (Registry.view figures') observations')
    (same : latest? observations entity = latest? observations' entity) :
    exporter.AgreesOn other entity := by
  constructor
  · rw [realizes.labels?_eq, realizes'.labels?_eq, same]
  · have shown := realizes.seriesOf_perm entity
    rw [same] at shown
    exact shown.trans (realizes'.seriesOf_perm entity).symm

theorem AgreesOn.refl (exporter : Exporter Registry Handle) (entity : Entity) :
    exporter.AgreesOn exporter entity :=
  ⟨rfl, List.Perm.refl _⟩

theorem AgreesOn.symm (agrees : exporter.AgreesOn other entity) :
    other.AgreesOn exporter entity :=
  ⟨agrees.labels.symm, agrees.series.symm⟩

theorem AgreesOn.trans {third : Exporter Registry Handle} (agrees : exporter.AgreesOn other entity)
    (agrees' : other.AgreesOn third entity) : exporter.AgreesOn third entity :=
  ⟨agrees.labels.trans agrees'.labels, agrees.series.trans agrees'.series⟩

/-- Exporters that are alike agree on every entity. -/
theorem Alike.agreesOn (alike : exporter.Alike other) (entity : Entity) :
    exporter.AgreesOn other entity := by
  refine ⟨alike.labels entity.1 entity.2, List.Perm.of_eq ?_⟩
  rw [Registry.seriesOf, Registry.seriesOf, Registry.entitySeries, Registry.entitySeries,
    alike.shown]

end Exporter

/-! ## Entities that are not observed -/

/-- Observations of other entities do not change which is the latest. -/
theorem latest?_append_of_others {earlier later : List Observation} {entity : Entity}
    (others : ∀ o ∈ later, o.entity ≠ entity) :
    latest? (earlier ++ later) entity = latest? earlier entity := by
  have none : latest? later entity = none := by
    cases found : latest? later entity with
    | none => rfl
    | some o => exact absurd (entity_of_latest? found) (others o (mem_of_latest? found))
  rw [latest?_append, none, Option.none_or]

/-- Which observation of an entity is the latest depends on those of this
entity only. -/
theorem latest?_filter (observations : List Observation) {chosen : Observation → Bool}
    {entity : Entity} (all : ∀ o, o.entity = entity → chosen o = true) :
    latest? (observations.filter chosen) entity = latest? observations entity := by
  rw [latest?, ← List.filter_reverse, List.find?_filter, latest?]
  refine congrArg (List.find? · observations.reverse) (funext fun o => ?_)
  by_cases own : o.entity = entity
  · simp [own, all o own]
  · simp [own]

end StorageTelemetry
