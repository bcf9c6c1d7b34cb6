import StorageTelemetry.Proofs.Collection.PassReports

namespace StorageTelemetry

/-!
# Listings in another order

A gateway answers its listings in no particular order.  As long as the answers
are only reordered, a pass lists the same entities under the same labels.

Data clients and pools are looked up, by GUID and by name, so the order of their
listings has no part in what is found.  Volumes are visited in the order of
their listings, but all mappings that one listing adds are to one data client,
and the data clients come in the order of the nodes.  So visits of different
volumes commute up to the order of the volumes, while the mappings of each
volume keep theirs.
-/

open Routine

/-! ## Answers -/

/-- Whether two calls answer the same entries in possibly another order, or
neither answers. -/
def Reply.Reorders {α : Type} (reply other : Reply (List α)) : Prop :=
  Option.Rel List.Perm reply.outcome.value? other.outcome.value?

/-- Two answers that are there are the same but for their order. -/
theorem Reply.Reorders.perm {α : Type} {reply other : Reply (List α)} {entries entries' : List α}
    (reorders : reply.Reorders other) (answer : reply.outcome = .done entries)
    (answer' : other.outcome = .done entries') : entries.Perm entries' := by
  unfold Reorders at reorders
  rw [answer, answer'] at reorders
  cases reorders with
  | some perm => exact perm

namespace CollectionContext

/-- Whether the same cluster objects are declared, and the gateway answers its
listings in possibly another order.  Statistics, generations and durations may
be different. -/
structure Reorders (context other : CollectionContext) : Prop where
  discovery : other.discovery = context.discovery
  drivers : other.drivers = context.drivers
  sdcs : ∀ now later, (context.client.sdcs now).Reorders (other.client.sdcs later)
  volumes : ∀ id now later,
    (context.client.sdcVolumes id now).Reorders (other.client.sdcVolumes id later)
  pools : ∀ now later, (context.client.pools now).Reorders (other.client.pools later)

/-- Whether no listing of the gateway has two entries of one name: data clients
are told apart by their GUIDs without regard to case, volumes by their
identifiers and pools by their names. -/
structure Unambiguous (context : CollectionContext) : Prop where
  sdcs : ∀ now listed, (context.client.sdcs now).outcome = .done listed →
    (listed.map fun sdc => Text.lower sdc.guid).Nodup
  volumes : ∀ id now listed, (context.client.sdcVolumes id now).outcome = .done listed →
    (listed.map (·.id)).Nodup
  pools : ∀ now listed, (context.client.pools now).outcome = .done listed →
    (listed.map (·.name)).Nodup

end CollectionContext

/-! ## Routines that gave a value -/

namespace Routine

variable {α : Type}

theorem gives_ofExcept (answer : Except Fault α) :
    (ofExcept answer).Gives fun value => answer = .ok value := by
  intro now value ended
  cases answer with
  | ok given =>
      cases ended
      rfl
  | error fault => cases ended

theorem gives_self (routine : Routine α) :
    routine.Gives fun value => ∃ moment, (routine moment).outcome = .done value :=
  fun now _ ended => ⟨now, ended⟩

/-- What an attempted call may give, if it does not break off. -/
theorem attempt_call_eq_done {request : Request} {ask : Instant → Reply α} {now : Instant}
    {answer : Except Fault α} (ended : ((call request ask).attempt now).outcome = .done answer) :
    (∃ value, answer = .ok value ∧ (ask now).outcome = .done value) ∨
      ∃ fault, answer = .error fault ∧ (ask now).outcome = .failed fault := by
  unfold attempt call at ended
  cases outcome : (ask now).outcome with
  | done value =>
      simp only [outcome] at ended
      cases ended
      exact Or.inl ⟨value, rfl, rfl⟩
  | failed fault =>
      simp only [outcome] at ended
      cases ended
      exact Or.inr ⟨fault, rfl, rfl⟩
  | panicked panic =>
      simp only [outcome] at ended
      cases ended

end Routine

/-! ## Tables of entries -/

namespace Table

variable {κ ν : Type} [DecidableEq κ] {pairs others : List (κ × ν)}

theorem get?_ofPairs_eq_some_iff (distinct : (pairs.map (·.1)).Nodup) (key : κ) (value : ν) :
    (ofPairs pairs).get? key = some value ↔ (key, value) ∈ pairs := by
  have reversed : (pairs.reverse.map (·.1)).Nodup := by
    rw [List.map_reverse]
    exact List.nodup_reverse.mpr distinct
  rw [get?_ofPairs]
  constructor
  · intro found
    rcases Option.map_eq_some_iff.mp found with ⟨pair, picked, rfl⟩
    have same : pair.1 = key := by simpa using List.find?_some picked
    exact same ▸ List.mem_reverse.mp (List.mem_of_find?_eq_some picked)
  · intro listed
    have picked := find?_of_nodup Prod.fst reversed (List.mem_reverse.mpr listed)
    rw [picked, Option.map_some]

/-- Where keys are distinct the order of the pairs does not matter. -/
theorem get?_ofPairs_perm (perm : pairs.Perm others) (distinct : (pairs.map (·.1)).Nodup)
    (key : κ) : (ofPairs pairs).get? key = (ofPairs others).get? key := by
  apply Option.ext
  intro value
  have distinct' := (perm.map (·.1)).nodup_iff.mp distinct
  rw [get?_ofPairs_eq_some_iff distinct, get?_ofPairs_eq_some_iff distinct', perm.mem_iff]

end Table

/-! ## Data clients -/

theorem sdcsByGuid_perm {sdcs others : List Sdc} (perm : sdcs.Perm others)
    (distinct : (sdcs.map fun sdc => Text.lower sdc.guid).Nodup) (guid : String) :
    (sdcsByGuid sdcs).get? guid = (sdcsByGuid others).get? guid := by
  apply Table.get?_ofPairs_perm (perm.map fun sdc => (Text.lower sdc.guid, sdc))
  rw [List.map_map]
  exact distinct

/-- The order in which data clients are listed does not matter to the nodes. -/
theorem matchNodes_perm {sdcs others : List Sdc} (perm : sdcs.Perm others)
    (distinct : (sdcs.map fun sdc => Text.lower sdc.guid).Nodup) (nodes : List NodeEntry) :
    matchNodes sdcs nodes = matchNodes others nodes := by
  have lookups := sdcsByGuid_perm perm distinct
  unfold matchNodes
  simp only [lookups]

/-! ## Volumes -/

section

variable {managed : Table String VolumeEntry} {sdc : SdcMeta}

/-- What a visit of a volume does to an entity that was found before. -/
def mapTo (sdc : SdcMeta) (volume : Volume) (entity : VolumeMeta) : VolumeMeta :=
  if entity.id = volume.id then entity.addMapping sdc else entity

/-- What a visit of a volume finds that was not found before. -/
def newlyFound (managed : Table String VolumeEntry) (sdc : SdcMeta) (entities : List VolumeMeta)
    (volume : Volume) : List VolumeMeta :=
  if volume.id ∈ entities.map (·.id) then []
  else ((managed.get? volume.id).map (volumeMetaOf sdc volume)).toList

@[simp] theorem id_mapTo (volume : Volume) (entity : VolumeMeta) :
    (mapTo sdc volume entity).id = entity.id := by
  unfold mapTo
  by_cases same : entity.id = volume.id <;> simp [same, VolumeMeta.addMapping]

theorem mapTo_of_ne {volume : Volume} {entity : VolumeMeta} (different : entity.id ≠ volume.id) :
    mapTo sdc volume entity = entity := if_neg different

/-- A visit adds a mapping to the volume if it was found before, and finds it
otherwise. -/
theorem visitVolume_eq (entities : List VolumeMeta) (volume : Volume) :
    visitVolume managed sdc entities volume =
      entities.map (mapTo sdc volume) ++ newlyFound managed sdc entities volume := by
  have visited : entities.any (·.id = volume.id) = true ↔ volume.id ∈ entities.map (·.id) := by
    simp only [List.any_eq_true, decide_eq_true_eq, List.mem_map]
  unfold visitVolume newlyFound
  by_cases known : volume.id ∈ entities.map (·.id)
  · rw [if_pos (visited.mpr known), if_pos known, List.append_nil]
    rfl
  · have untouched : entities.map (mapTo sdc volume) = entities := by
      calc entities.map (mapTo sdc volume)
          = entities.map id := List.map_congr_left fun entity listed =>
            mapTo_of_ne fun same => known (same ▸ List.mem_map_of_mem listed)
        _ = entities := List.map_id entities
    rw [if_neg (mt visited.mp known), if_neg known, untouched]
    cases managed.get? volume.id with
    | none => exact (List.append_nil _).symm
    | some declared => rfl

theorem id_of_newlyFound {entities : List VolumeMeta} {volume : Volume} {entity : VolumeMeta}
    (found : entity ∈ newlyFound managed sdc entities volume) : entity.id = volume.id := by
  unfold newlyFound at found
  by_cases known : volume.id ∈ entities.map (·.id)
  · rw [if_pos known] at found
    cases found
  · rw [if_neg known, Option.mem_toList, Option.map_eq_some_iff] at found
    rcases found with ⟨declared, -, rfl⟩
    rfl

/-- What visits of two different volumes come to. -/
theorem visitVolume_visitVolume (entities : List VolumeMeta) {first second : Volume}
    (different : first.id ≠ second.id) :
    visitVolume managed sdc (visitVolume managed sdc entities first) second =
      (entities.map (mapTo sdc first)).map (mapTo sdc second) ++
        (newlyFound managed sdc entities first ++ newlyFound managed sdc entities second) := by
  have apart : ∀ entity ∈ newlyFound managed sdc entities first, entity.id ≠ second.id :=
    fun entity found same => different ((id_of_newlyFound found).symm.trans same)
  have kept : (newlyFound managed sdc entities first).map (mapTo sdc second) =
      newlyFound managed sdc entities first := by
    calc (newlyFound managed sdc entities first).map (mapTo sdc second)
        = (newlyFound managed sdc entities first).map id :=
          List.map_congr_left fun entity found => mapTo_of_ne (apart entity found)
      _ = newlyFound managed sdc entities first := List.map_id _
  have ids : (entities.map (mapTo sdc first)).map (·.id) = entities.map (·.id) := by
    rw [List.map_map]
    exact List.map_congr_left fun entity _ => id_mapTo first entity
  have known : second.id ∈ (visitVolume managed sdc entities first).map (·.id) ↔
      second.id ∈ entities.map (·.id) := by
    rw [visitVolume_eq, List.map_append, List.mem_append, ids, or_iff_left]
    intro new
    rcases List.mem_map.mp new with ⟨entity, found, same⟩
    exact apart entity found same
  have later : newlyFound managed sdc (visitVolume managed sdc entities first) second =
      newlyFound managed sdc entities second := by
    unfold newlyFound
    simp only [known]
  rw [visitVolume_eq, later, visitVolume_eq, List.map_append, kept, List.append_assoc]

/-- Visits of different volumes commute up to the order in which the volumes are
found. -/
theorem visitVolume_comm (entities : List VolumeMeta) {first second : Volume}
    (different : first.id ≠ second.id) :
    (visitVolume managed sdc (visitVolume managed sdc entities first) second).Perm
      (visitVolume managed sdc (visitVolume managed sdc entities second) first) := by
  have mappings : (entities.map (mapTo sdc first)).map (mapTo sdc second) =
      (entities.map (mapTo sdc second)).map (mapTo sdc first) := by
    rw [List.map_map, List.map_map]
    apply List.map_congr_left
    intro entity _
    by_cases own : entity.id = first.id
    · have other : entity.id ≠ second.id := fun same => different (own.symm.trans same)
      simp only [Function.comp_apply, mapTo_of_ne other]
      exact mapTo_of_ne (by rwa [id_mapTo])
    · simp only [Function.comp_apply, mapTo_of_ne own]
      exact (mapTo_of_ne (by rwa [id_mapTo])).symm
  rw [visitVolume_visitVolume entities different, visitVolume_visitVolume entities different.symm,
    mappings]
  exact List.perm_append_comm.append_left _

/-- A visit finds the same whatever the order of the volumes found before. -/
theorem visitVolume_perm {entities others : List VolumeMeta} (perm : entities.Perm others)
    (volume : Volume) :
    (visitVolume managed sdc entities volume).Perm (visitVolume managed sdc others volume) := by
  have known := (perm.map (·.id)).mem_iff (a := volume.id)
  have new : newlyFound managed sdc entities volume = newlyFound managed sdc others volume := by
    unfold newlyFound
    simp only [known]
  rw [visitVolume_eq, visitVolume_eq, new]
  exact (perm.map _).append_right _

theorem foldl_visitVolume_perm (volumes : List Volume) {entities others : List VolumeMeta}
    (perm : entities.Perm others) :
    (volumes.foldl (visitVolume managed sdc) entities).Perm
      (volumes.foldl (visitVolume managed sdc) others) := by
  induction volumes generalizing entities others with
  | nil => exact perm
  | cons volume rest ih => exact ih (visitVolume_perm perm volume)

/-- The order of a listing in which no volume occurs twice matters to the order
of the found volumes only. -/
theorem visitVolumes_perm {volumes volumes' : List Volume} (perm : volumes.Perm volumes')
    (distinct : (volumes.map (·.id)).Nodup) {entities entities' : List VolumeMeta}
    (same : entities.Perm entities') :
    (volumes.foldl (visitVolume managed sdc) entities).Perm
      (volumes'.foldl (visitVolume managed sdc) entities') := by
  induction perm generalizing entities entities' with
  | nil => exact same
  | cons volume _ ih => exact ih (List.nodup_cons.mp distinct).2 (visitVolume_perm same volume)
  | swap first second rest =>
      have different : second.id ≠ first.id := fun equal =>
        (List.nodup_cons.mp distinct).1 (List.mem_map.mpr ⟨first, List.mem_cons_self, equal.symm⟩)
      apply foldl_visitVolume_perm rest
      exact (visitVolume_comm entities different).trans
        (visitVolume_perm (visitVolume_perm same first) second)
  | trans perm _ ih ih' =>
      have distinct' := (perm.map (·.id)).nodup_iff.mp distinct
      exact (ih distinct same).trans (ih' distinct' (List.Perm.refl _))

/-- Visits of the same data clients on two gateways find the same volumes with
the same mappings, if the listings are reordered only. -/
theorem visitSdcs_perm {client other : Client} {sdcs : List SdcMeta}
    (reorders : ∀ id now later, (client.sdcVolumes id now).Reorders (other.sdcVolumes id later))
    (distinct : ∀ id now listed, (client.sdcVolumes id now).outcome = .done listed →
      (listed.map (·.id)).Nodup)
    {entities entities' found found' : List VolumeMeta} (same : entities.Perm entities')
    {now later : Instant}
    (visited : (visitSdcs client managed sdcs entities now).outcome = .done found)
    (visited' : (visitSdcs other managed sdcs entities' later).outcome = .done found') :
    found.Perm found' := by
  induction sdcs generalizing entities entities' now later with
  | nil =>
      cases visited
      cases visited'
      exact same
  | cons sdc rest ih =>
      rcases outcome_bind_eq_done_iff.mp visited with ⟨answer, asked, onward⟩
      rcases outcome_bind_eq_done_iff.mp visited' with ⟨answer', asked', onward'⟩
      have related := reorders sdc.id now later
      unfold Reply.Reorders at related
      rcases attempt_call_eq_done asked with ⟨volumes, rfl, listed⟩ | ⟨fault, rfl, failed⟩
      · rcases attempt_call_eq_done asked' with ⟨volumes', rfl, listed'⟩ | ⟨fault', rfl, failed'⟩
        · have perm := (reorders sdc.id now later).perm listed listed'
          have distinct := distinct sdc.id now volumes listed
          exact ih (visitVolumes_perm perm distinct same) onward onward'
        · rw [listed, failed'] at related
          cases related
      · rcases attempt_call_eq_done asked' with ⟨volumes', rfl, listed'⟩ | ⟨fault', rfl, failed'⟩
        · rw [failed, listed'] at related
          cases related
        · exact ih same onward onward'

end

/-! ## Storage pools -/

theorem poolsByName_perm {pools others : List StoragePool} (perm : pools.Perm others)
    (distinct : (pools.map (·.name)).Nodup) (name : String) :
    (poolsByName pools).get? name = (poolsByName others).get? name := by
  apply Table.get?_ofPairs_perm (perm.map fun pool => (pool.name, pool))
  rw [List.map_map]
  exact distinct

section

variable {known known' : Table String StoragePool}

/-- The pools of a class depend on what is found under each name only. -/
theorem claimPools_congr (same : ∀ name, known.get? name = known'.get? name)
    (taken names : List String) : claimPools known taken names = claimPools known' taken names := by
  induction names generalizing taken with
  | nil => rfl
  | cons name rest ih => simp only [claimPools, same, ih]

theorem resolveClasses_congr (same : ∀ name, known.get? name = known'.get? name)
    (taken : List String) (entries : List StorageClassEntry) :
    resolveClasses known taken entries = resolveClasses known' taken entries := by
  induction entries generalizing taken with
  | nil => rfl
  | cons entry rest ih => simp only [resolveClasses, claimPools_congr same, ih]

end

/-! ## Enumerations -/

/-- Where the entities of an enumeration come from. -/
theorem resolveSdcs_gives (context : CollectionContext) :
    (resolveSdcs context).Gives fun resolved => ∃ nodes sdcs moment,
      lookupAll context.discovery.nodes context.drivers = .ok nodes ∧
        (context.client.sdcs moment).outcome = .done sdcs ∧ resolved.2 = matchNodes sdcs nodes :=
  (gives_any _).bind fun _ _ => (gives_ofExcept _).bind fun nodes declared =>
    (gives_self _).bind fun sdcs ⟨moment, listed⟩ =>
      gives_pure ⟨nodes, sdcs, moment, declared, listed, rfl⟩

theorem enumerateSdcs_resolves (context : CollectionContext) :
    (enumerateSdcs context).Gives fun found => ∃ resolved moment,
      (resolveSdcs context moment).outcome = .done resolved ∧
        found.map (·.entity) = resolved.2 :=
  (gives_self _).bind fun resolved ⟨moment, ended⟩ => (gives_any _).bind fun _ _ =>
    gives_pure ⟨resolved, moment, ended, by rw [List.map_map]; exact List.map_id _⟩

theorem enumerateVolumes_visits (context : CollectionContext) :
    (enumerateVolumes context).Gives fun found => ∃ resolved declared moment later,
      (resolveSdcs context moment).outcome = .done resolved ∧
        lookupAll context.discovery.volumes context.drivers = .ok declared ∧
        (visitSdcs context.client (volumesById declared) resolved.2 [] later).outcome =
          .done (found.map (·.entity)) :=
  (gives_self _).bind fun resolved ⟨moment, ended⟩ => (gives_ofExcept _).bind fun declared looked =>
    (gives_self _).bind fun entities ⟨later, visited⟩ => (gives_any _).bind fun _ _ =>
      gives_pure ⟨resolved, declared, moment, later, ended, looked, by
        rw [List.map_map]
        exact visited.trans (congrArg Outcome.done (List.map_id _).symm)⟩

/-- What a class and its pools are listed as. -/
def classListing (found : StorageClassMeta × List StoragePoolMeta) : Listing :=
  found.2.map fun pool => (pool.id, pool.labels found.1)

theorem enumerateStorageClasses_resolves (context : CollectionContext) :
    (enumerateStorageClasses context).Gives fun found => ∃ entries pools moment,
      lookupAll context.discovery.storageClasses context.drivers = .ok entries ∧
        (context.client.pools moment).outcome = .done pools ∧
        found.flatMap (·.listing) =
          (resolveClasses (poolsByName pools) [] entries).1.flatMap classListing := by
  refine (gives_any _).bind fun _ _ => (gives_ofExcept _).bind fun entries declared =>
    (gives_self _).bind fun pools ⟨moment, listed⟩ => (gives_any _).bind fun _ _ =>
      (gives_any _).bind fun _ _ => gives_pure ⟨entries, pools, moment, declared, listed, ?_⟩
  rw [List.flatMap_map]
  apply List.flatMap_congr
  intro found _
  simp only [StorageClassRetriever.listing, classListing, List.map_map]
  rfl

/-! ## Listings -/

theorem Outcome.map_eq_done_iff {ε α β : Type} {f : α → β} {outcome : Outcome ε α} {value : β} :
    outcome.map f = .done value ↔ ∃ given, outcome = .done given ∧ f given = value := by
  cases outcome <;> simp [Outcome.map]

theorem sdcListing_eq (found : List SdcRetriever) :
    found.flatMap (·.listing) = (found.map (·.entity)).map fun m => (m.id, m.labels) := by
  rw [List.map_map, List.map_eq_flatMap]
  rfl

theorem volumeListing_eq (found : List VolumeRetriever) :
    volumeListing found =
      if (found.map (·.entity)).isEmpty then [(VolumeMeta.blank.id, VolumeMeta.blank.labels)]
      else (found.map (·.entity)).map fun m => (m.id, m.labels) := by
  rw [volumeListing, List.isEmpty_map, List.map_map, List.map_eq_flatMap]
  rfl

section

variable {context other : CollectionContext} {now later : Instant}

theorem resolveSdcs_eq (reorders : context.Reorders other) (distinct : context.Unambiguous)
    {resolved resolved' : Generation × List SdcMeta}
    (ended : (resolveSdcs context now).outcome = .done resolved)
    (ended' : (resolveSdcs other later).outcome = .done resolved') : resolved.2 = resolved'.2 := by
  rcases resolveSdcs_gives context _ _ ended with ⟨nodes, sdcs, moment, declared, listed, same⟩
  rcases resolveSdcs_gives other _ _ ended' with ⟨nodes', sdcs', moment', declared', listed', same'⟩
  rw [reorders.discovery, reorders.drivers, declared] at declared'
  cases declared'
  have perm := (reorders.sdcs moment moment').perm listed listed'
  rw [same, same', matchNodes_perm perm (distinct.sdcs moment sdcs listed)]

/-- Where the answers of the gateway are reordered only, passes list the same
entities under the same labels. -/
theorem listing_perm (reorders : context.Reorders other) (distinct : context.Unambiguous)
    {kind : EntityKind} {listed listed' : Listing}
    (ended : context.listing now kind = .done listed)
    (ended' : other.listing later kind = .done listed') : listed.Perm listed' := by
  cases kind with
  | sdc =>
      rcases Outcome.map_eq_done_iff.mp ended with ⟨found, began, rfl⟩
      rcases Outcome.map_eq_done_iff.mp ended' with ⟨found', began', rfl⟩
      rcases enumerateSdcs_resolves context _ _ began with ⟨resolved, moment, settled, entities⟩
      rcases enumerateSdcs_resolves other _ _ began' with ⟨resolved', moment', settled', entities'⟩
      rw [sdcListing_eq, sdcListing_eq, entities, entities',
        resolveSdcs_eq reorders distinct settled settled']
  | volume =>
      rcases Outcome.map_eq_done_iff.mp ended with ⟨found, began, rfl⟩
      rcases Outcome.map_eq_done_iff.mp ended' with ⟨found', began', rfl⟩
      rcases enumerateVolumes_visits context _ _ began with
        ⟨resolved, declared, moment, start, settled, looked, visited⟩
      rcases enumerateVolumes_visits other _ _ began' with
        ⟨resolved', declared', moment', start', settled', looked', visited'⟩
      rw [reorders.discovery, reorders.drivers, looked] at looked'
      cases looked'
      rw [← resolveSdcs_eq reorders distinct settled settled'] at visited'
      have perm := visitSdcs_perm reorders.volumes distinct.volumes (List.Perm.refl []) visited
        visited'
      rw [volumeListing_eq, volumeListing_eq, perm.isEmpty_eq]
      by_cases none : (found'.map (·.entity)).isEmpty = true
      · rw [if_pos none, if_pos none]
      · rw [if_neg none, if_neg none]
        exact perm.map _
  | storagePool =>
      rcases Outcome.map_eq_done_iff.mp ended with ⟨found, began, rfl⟩
      rcases Outcome.map_eq_done_iff.mp ended' with ⟨found', began', rfl⟩
      rcases enumerateStorageClasses_resolves context _ _ began with
        ⟨entries, pools, moment, declared, answered, same⟩
      rcases enumerateStorageClasses_resolves other _ _ began' with
        ⟨entries', pools', moment', declared', answered', same'⟩
      rw [reorders.discovery, reorders.drivers, declared] at declared'
      cases declared'
      have perm := (reorders.pools moment moment').perm answered answered'
      have lookups := poolsByName_perm perm (distinct.pools moment pools answered)
      rw [same, same', resolveClasses_congr lookups]

/-- A pass lists each entity once.  For data clients this needs that no two
nodes resolve to the same one. -/
theorem nodup_listing {kind : EntityKind} (apart : kind = .sdc → context.NodesApart)
    {listed : Listing} (ended : context.listing now kind = .done listed) :
    (listed.map (·.1)).Nodup := by
  cases kind with
  | sdc =>
      rcases Outcome.map_eq_done_iff.mp ended with ⟨found, began, rfl⟩
      have distinct := enumerateSdcs_gives (apart rfl) _ _ began
      rw [sdcListing_eq, List.map_map, List.map_map]
      exact distinct
  | volume =>
      rcases Outcome.map_eq_done_iff.mp ended with ⟨found, began, rfl⟩
      have distinct := enumerateVolumes_gives context _ _ began
      rw [volumeListing_eq]
      by_cases none : (found.map (·.entity)).isEmpty = true
      · rw [if_pos none]
        exact List.nodup_singleton _
      · rw [if_neg none, List.map_map, List.map_map]
        exact distinct
  | storagePool =>
      rcases Outcome.map_eq_done_iff.mp ended with ⟨found, began, rfl⟩
      have distinct := enumerateStorageClasses_gives context _ _ began
      rw [List.map_flatMap]
      simp only [StorageClassRetriever.listing, List.map_map]
      exact distinct

/-- An entity is listed under one set of labels, in every order of the answers. -/
theorem labels_eq_of_listed (reorders : context.Reorders other) (distinct : context.Unambiguous)
    {kind : EntityKind} (apart : kind = .sdc → context.NodesApart) {listed listed' : Listing}
    (ended : context.listing now kind = .done listed)
    (ended' : other.listing later kind = .done listed') {id : String} {labels labels' : LabelSet}
    (member : (id, labels) ∈ listed) (member' : (id, labels') ∈ listed') : labels = labels' := by
  have perm := listing_perm reorders distinct ended ended'
  have single := nodup_listing apart ended
  exact congrArg Prod.snd (List.inj_on_of_nodup_map single member (perm.mem_iff.mpr member') rfl)

end

end StorageTelemetry
