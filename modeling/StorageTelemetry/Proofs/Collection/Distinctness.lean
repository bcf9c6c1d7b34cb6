import Mathlib.Data.List.Nodup
import StorageTelemetry.Proofs.Recording.Observation
import StorageTelemetry.Proofs.Collection.Routines

namespace StorageTelemetry

/-!
# What a pass finds is distinct

A volume that several data clients map is found once, with all its mappings,
and a pool that several classes name is found under the first of them.  So the
entities that a pass records are all different, whatever the gateway lists and
the inventory declares.  For data clients this is an assumption: two nodes may
name the same one.

What a routine gives is reasoned about step by step: a fact about the value of
each step is what the next step starts from.
-/

namespace Routine

variable {α β : Type}

/-- Whether every value that a routine may give has a property. -/
def Gives (routine : Routine α) (property : α → Prop) : Prop :=
  ∀ now value, (routine now).outcome = .done value → property value

theorem gives_pure {value : α} {property : α → Prop} (holds : property value) :
    (pure value : Routine α).Gives property := by
  intro now other ended
  cases ended
  exact holds

theorem gives_done {value : α} {property : α → Prop} (holds : property value) :
    (done value).Gives property := by
  intro now other ended
  cases ended
  exact holds

theorem gives_fail (fault : Fault) (property : α → Prop) :
    (fail fault : Routine α).Gives property := by
  intro now value ended
  cases ended

/-- Of a step about whose value nothing is known. -/
theorem gives_any (routine : Routine α) : routine.Gives fun _ => True := fun _ _ _ => trivial

theorem Gives.bind {routine : Routine α} {next : α → Routine β} {first : α → Prop}
    {second : β → Prop} (gives : routine.Gives first)
    (onward : ∀ value, first value → (next value).Gives second) :
    (routine >>= next).Gives second := by
  intro now value ended
  obtain ⟨middle, began, ended⟩ := outcome_bind_eq_done_iff.mp ended
  exact onward middle (gives now middle began) _ value ended

end Routine

open Routine

/-! ## Volumes -/

/-- Visiting a volume keeps the found volumes distinct. -/
theorem nodup_visitVolume (managed : Table String VolumeEntry) (sdc : SdcMeta) (volume : Volume)
    {entities : List VolumeMeta} (distinct : (entities.map (·.id)).Nodup) :
    ((visitVolume managed sdc entities volume).map (·.id)).Nodup := by
  unfold visitVolume
  by_cases visited : entities.any (·.id = volume.id) = true
  · have ids : ((entities.map fun entity =>
        if entity.id = volume.id then entity.addMapping sdc else entity).map (·.id)) =
          entities.map (·.id) := by
      rw [List.map_map]
      refine List.map_congr_left fun entity _ => ?_
      by_cases same : entity.id = volume.id <;> simp [same, VolumeMeta.addMapping]
    rwa [if_pos visited, ids]
  · rw [if_neg visited]
    cases managed.get? volume.id with
    | none => exact distinct
    | some declared =>
        rw [List.map_append]
        refine List.nodup_append.mpr ⟨distinct, List.nodup_singleton _, ?_⟩
        intro first inEntities second single
        rcases List.mem_map.mp inEntities with ⟨entity, listed, rfl⟩
        rw [List.mem_singleton.mp single]
        intro same
        exact visited (List.any_eq_true.mpr ⟨entity, listed, decide_eq_true same⟩)

theorem nodup_visitVolumes (managed : Table String VolumeEntry) (sdc : SdcMeta)
    (volumes : List Volume) {entities : List VolumeMeta}
    (distinct : (entities.map (·.id)).Nodup) :
    ((volumes.foldl (visitVolume managed sdc) entities).map (·.id)).Nodup := by
  induction volumes generalizing entities with
  | nil => exact distinct
  | cons volume rest ih => exact ih (nodup_visitVolume managed sdc volume distinct)

theorem visitSdcs_gives (client : Client) (managed : Table String VolumeEntry)
    (sdcs : List SdcMeta) {entities : List VolumeMeta} (distinct : (entities.map (·.id)).Nodup) :
    (visitSdcs client managed sdcs entities).Gives fun found => (found.map (·.id)).Nodup := by
  induction sdcs generalizing entities with
  | nil => exact gives_done distinct
  | cons sdc rest ih =>
      refine (gives_any _).bind fun answer _ => ?_
      cases answer with
      | ok volumes => exact ih (nodup_visitVolumes managed sdc volumes distinct)
      | error fault => exact (gives_any _).bind fun _ _ => ih distinct

/-- The volumes that a pass reads are distinct. -/
theorem enumerateVolumes_gives (context : CollectionContext) :
    (enumerateVolumes context).Gives fun found => (found.map (·.entity.id)).Nodup := by
  have none : (([] : List VolumeMeta).map (·.id)).Nodup := List.nodup_nil
  refine (gives_any _).bind fun _ _ => (gives_any _).bind fun _ _ =>
    (visitSdcs_gives context.client _ _ none).bind fun entities distinct =>
      (gives_any _).bind fun _ _ => gives_pure ?_
  rwa [List.map_map]

/-! ## Storage pools -/

/-- The pools that a class is exported with are added to those taken, each
once. -/
theorem claimPools_spec (known : Table String StoragePool) (taken names : List String)
    (distinct : taken.Nodup) :
    (claimPools known taken names).2.1 =
        taken ++ (claimPools known taken names).1.map (·.id) ∧
      (claimPools known taken names).2.1.Nodup := by
  induction names generalizing taken with
  | nil => exact ⟨(List.append_nil _).symm, distinct⟩
  | cons name rest ih =>
      simp only [claimPools]
      cases known.get? name with
      | none => exact ih taken distinct
      | some pool =>
          by_cases claimed : taken.contains pool.id = true
          · simp only [claimed, if_true]
            exact ih taken distinct
          · have absent : pool.id ∉ taken := fun member => claimed (by simpa using member)
            have extended : (taken ++ [pool.id]).Nodup := by
              refine List.nodup_append.mpr ⟨distinct, List.nodup_singleton _, ?_⟩
              intro first inTaken second single same
              exact absent (List.mem_singleton.mp single ▸ same ▸ inTaken)
            have others := ih (taken ++ [pool.id]) extended
            simp only [claimed]
            rw [List.append_assoc] at others
            exact others

/-- The pools of all classes are distinct. -/
theorem resolveClasses_spec (known : Table String StoragePool) (taken : List String)
    (entries : List StorageClassEntry) (distinct : taken.Nodup) :
    (resolveClasses known taken entries).2.1 =
        taken ++ (resolveClasses known taken entries).1.flatMap (fun found => found.2.map (·.id)) ∧
      (resolveClasses known taken entries).2.1.Nodup := by
  induction entries generalizing taken with
  | nil => exact ⟨(List.append_nil _).symm, distinct⟩
  | cons entry rest ih =>
      have claimed := claimPools_spec known taken entry.storagePools distinct
      have others := ih (claimPools known taken entry.storagePools).2.1 claimed.2
      simp only [resolveClasses, List.flatMap_cons]
      refine ⟨?_, others.2⟩
      rw [← List.append_assoc, ← claimed.1]
      exact others.1

/-- The pools that a pass reads are distinct, within and across classes. -/
theorem enumerateStorageClasses_gives (context : CollectionContext) :
    (enumerateStorageClasses context).Gives fun found =>
      (found.flatMap fun retriever => retriever.pools.map (·.entity.id)).Nodup := by
  refine (gives_any _).bind fun _ _ => (gives_any _).bind fun entries _ =>
    (gives_any _).bind fun pools _ => (gives_any _).bind fun _ _ =>
      (gives_any _).bind fun _ _ => gives_pure ?_
  have spec := resolveClasses_spec (poolsByName pools) [] entries List.nodup_nil
  rw [spec.1, List.nil_append] at spec
  simp only [List.flatMap_map, List.map_map]
  exact spec.2

/-! ## Data clients -/

/-- Whether no two nodes of the drivers resolve to the same data client. -/
def CollectionContext.NodesApart (context : CollectionContext) : Prop :=
  (resolveSdcs context).Gives fun resolved => (resolved.2.map (·.id)).Nodup

theorem enumerateSdcs_gives {context : CollectionContext} (apart : context.NodesApart) :
    (enumerateSdcs context).Gives fun found => (found.map (·.entity.id)).Nodup := by
  refine Gives.bind apart fun resolved distinct => (gives_any _).bind fun _ _ => gives_pure ?_
  rwa [List.map_map]

/-! ## Records -/

/-- The entity of a record is that of its retriever. -/
theorem SdcRetriever.record_gives (client : Client) (retriever : SdcRetriever) :
    (retriever.record client).Gives fun record => record.entity = retriever.entity :=
  (gives_any _).bind fun _ _ => gives_pure rfl

theorem VolumeRetriever.record_gives (client : Client) (retriever : VolumeRetriever) :
    (retriever.record client).Gives fun record => record.entity = retriever.entity :=
  (gives_any _).bind fun _ _ => gives_pure rfl

theorem StorageClassRetriever.answers_gives (storageClass : StorageClassMeta) (client : Client)
    (pools : List PoolRetriever) :
    (answers storageClass client pools).Gives fun found =>
      (found.1.map (·.entity)).Sublist (pools.map (·.entity)) := by
  induction pools with
  | nil => exact gives_done (List.Sublist.refl _)
  | cons pool rest ih =>
      refine (gives_any _).bind fun answer _ => ?_
      cases answer with
      | ok statistics => exact ih.bind fun found among => gives_pure (among.cons_cons pool.entity)
      | error fault =>
          exact (gives_any _).bind fun _ _ =>
            ih.bind fun found among => gives_pure (among.cons pool.entity)

/-- The pools of a record are among those of its retriever, in order. -/
theorem StorageClassRetriever.record_gives (client : Client) (retriever : StorageClassRetriever) :
    (retriever.record client).Gives fun record =>
      (record.pools.map (·.entity)).Sublist (retriever.pools.map (·.entity)) := by
  refine (answers_gives retriever.storageClass client retriever.pools).bind fun found among => ?_
  obtain ⟨pools, last⟩ := found
  cases last with
  | none => exact gives_pure among
  | some fault =>
      by_cases silent : pools.isEmpty = true
      · simp only [silent, if_true]
        exact gives_fail fault _
      · simp only [silent]
        exact gives_pure among

end StorageTelemetry
