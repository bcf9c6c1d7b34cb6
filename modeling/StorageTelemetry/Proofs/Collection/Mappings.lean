import StorageTelemetry.Proofs.Collection.Answers
import StorageTelemetry.Proofs.Collection.Reordering

namespace StorageTelemetry

/-!
# Volumes and their mappings

The data clients of a pass are those of the declared nodes, node by node, and
each is asked for its volumes after the one before it has answered.  A listing
that was answered tells mappings of volumes to the data client that was asked;
one that failed tells none.

What a pass finds is a function of the mappings told, in the order in which they
were told: the volumes that are also declared come in the order of their first
mappings, and each carries all of its own.  This is carried from mapping to
mapping, since one more mapping either finds a volume or adds to one.
-/

open Routine

/-! ## Data clients of nodes -/

/-- The data client of a node: the last with its GUID, without regard to
case. -/
def sdcOf? (sdcs : List Sdc) (node : NodeEntry) : Option Sdc :=
  (sdcs.filter fun sdc => Text.lower sdc.guid = Text.lower node.sdcGuid).getLast?

/-- The data clients of nodes, node by node. -/
def resolvedNodes (sdcs : List Sdc) (nodes : List NodeEntry) : List SdcMeta :=
  nodes.filterMap fun node => (sdcOf? sdcs node).map (sdcMetaOf node)

theorem matchNodes_eq (sdcs : List Sdc) (nodes : List NodeEntry) :
    matchNodes sdcs nodes = resolvedNodes sdcs nodes := by
  unfold matchNodes resolvedNodes sdcOf? sdcsByGuid
  simp only [Table.get?_ofPairs_map]

section

variable {client : Client} (inventory : Inventory) (bound : Nat) (drivers : List String)
  {now : Instant} {generation : Generation} {sdcs : List Sdc}

/-- The moment at which the first data client is asked for its volumes. -/
def volumesTime (client : Client) (now : Instant) : Instant :=
  generationTime client now + (client.sdcs (generationTime client now)).delay

/-- On a gateway that tells its generation and its data clients, the data
clients of all declared nodes are resolved. -/
theorem resolveSdcs_of_answers (answered : (client.generation now).outcome = .done generation)
    (listed : (client.sdcs (generationTime client now)).outcome = .done sdcs) :
    resolveSdcs ⟨client, inventory.discovery, bound, drivers⟩ now =
      ⟨.done (generation, resolvedNodes sdcs (drivers.flatMap inventory.nodesOf)),
        volumesTime client now, [(now, .generation), (generationTime client now, .sdcs)], []⟩ := by
  have first : (client.askGeneration now).outcome = .done generation := answered
  have second : (client.askSdcs (client.askGeneration now).finish).outcome = .done sdcs := listed
  have nodes : lookupAll inventory.discovery.nodes drivers =
      .ok (drivers.flatMap inventory.nodesOf) := lookupAll_ok inventory.nodesOf drivers
  unfold resolveSdcs
  rw [bind_of_done first, nodes, Routine.ofExcept, done_bind, bind_of_done second, matchNodes_eq]
  rfl

end

/-! ## Mappings -/

/-- A data client and a volume that it is told to map. -/
abbrev Mapping := SdcMeta × Volume

/-- What the listing of a data client tells that is asked for at some moment. -/
def Client.mappingsOf (client : Client) (sdc : SdcMeta) (moment : Instant) : List Mapping :=
  match (client.sdcVolumes sdc.id moment).outcome with
  | .done volumes => volumes.map fun volume => (sdc, volume)
  | .failed _ | .panicked _ => []

/-- What listings tell that are asked for at some moments. -/
def mappingsTold (client : Client) (asked : List (SdcMeta × Instant)) : List Mapping :=
  asked.flatMap fun (sdc, moment) => client.mappingsOf sdc moment

theorem mappingsTold_cons (client : Client) (sdc : SdcMeta) (moment : Instant)
    (asked : List (SdcMeta × Instant)) :
    mappingsTold client ((sdc, moment) :: asked) =
      client.mappingsOf sdc moment ++ mappingsTold client asked :=
  List.flatMap_cons

/-- The moments at which data clients are asked for their volumes, one after
another from a moment on. -/
def listingTimes (client : Client) : List SdcMeta → Instant → List (SdcMeta × Instant)
  | [], _ => []
  | sdc :: rest, now =>
      (sdc, now) :: listingTimes client rest (now + (client.sdcVolumes sdc.id now).delay)

/-- A visit of a volume for a mapping. -/
def visitMapping (declared : List VolumeEntry) (entities : List VolumeMeta) (mapping : Mapping) :
    List VolumeMeta :=
  visitVolume (volumesById declared) mapping.1 entities mapping.2

/-- Whether every listing of a data client's volumes is answered or fails. -/
def Client.ListsVolumes (client : Client) : Prop :=
  ∀ id now panic, (client.sdcVolumes id now).outcome ≠ .panicked panic

/-- Data clients that are asked one after another lead to a visit for every
mapping told. -/
theorem visitSdcs_of_listsVolumes {client : Client} (lists : client.ListsVolumes)
    (declared : List VolumeEntry) (sdcs : List SdcMeta) (entities : List VolumeMeta)
    (now : Instant) :
    (visitSdcs client (volumesById declared) sdcs entities now).outcome =
      .done ((mappingsTold client (listingTimes client sdcs now)).foldl (visitMapping declared)
        entities) := by
  induction sdcs generalizing entities now with
  | nil => rfl
  | cons sdc rest ih =>
      have later := fun entities => ih entities (now + (client.sdcVolumes sdc.id now).delay)
      rw [visitSdcs, listingTimes, mappingsTold_cons, List.foldl_append]
      unfold Client.mappingsOf
      cases answer : (client.sdcVolumes sdc.id now).outcome with
      | done volumes =>
          have asked : ((client.askSdcVolumes sdc.id).attempt now).outcome =
              .done (.ok volumes) := by
            simp only [attempt, Client.askSdcVolumes, call, answer]
          rw [bind_of_done asked, List.foldl_map]
          exact later _
      | failed fault =>
          have asked : ((client.askSdcVolumes sdc.id).attempt now).outcome =
              .done (.error fault) := by
            simp only [attempt, Client.askSdcVolumes, call, answer]
          rw [bind_of_done asked]
          exact later entities
      | panicked panic => exact absurd answer (lists sdc.id now panic)

/-! ## What mappings call for -/

/-- The last of some declared volumes with an identifier. -/
def lastDeclared? (declared : List VolumeEntry) (id : String) : Option VolumeEntry :=
  (declared.filter fun entry => entry.volumeId = id).getLast?

/-- The mappings of one volume, in the order in which they were told. -/
def mappingsFor (told : List Mapping) (id : String) : List Mapping :=
  told.filter fun mapping => mapping.2.id = id

/-- The description of a volume by its declaration, its first mapping and all
its mappings. -/
def describedVolume (declared : VolumeEntry) (first : Mapping) (mappings : List Mapping) :
    VolumeMeta where
  id := first.2.id
  name := first.2.name
  storageSystemId :=
    if declared.storageSystemId = "" then first.1.storageSystemId else declared.storageSystemId
  persistentVolume := declared.persistentVolume
  persistentVolumeClaim := declared.persistentVolumeClaim
  namespaceName := declared.namespaceName
  storageClass := declared.storageClass
  mappedNodeIds := mappings.map (·.1.id)
  mappedNodeIps := mappings.map (·.1.ip)

/-- The position of the first mapping of a volume. -/
def firstMapping (told : List Mapping) (id : String) : Nat := (told.map (·.2.id)).idxOf id

/-- Whether volumes are those that are both declared and mapped, each once, in
the order of their first mappings, and described by their last declaration and
by their mappings. -/
structure VolumesFound (declared : List VolumeEntry) (told : List Mapping)
    (found : List VolumeMeta) : Prop where
  distinct : (found.map (·.id)).Nodup
  inOrder : found.Pairwise fun volume later =>
    firstMapping told volume.id < firstMapping told later.id
  mem_iff : ∀ id, id ∈ found.map (·.id) ↔
    id ∈ declared.map (·.volumeId) ∧ id ∈ told.map (·.2.id)
  described : ∀ volume ∈ found, ∃ entry first, lastDeclared? declared volume.id = some entry ∧
    (mappingsFor told volume.id).head? = some first ∧
      volume = describedVolume entry first (mappingsFor told volume.id)

section

variable {declared : List VolumeEntry} {told : List Mapping} {found : List VolumeMeta}

theorem get?_volumesById (declared : List VolumeEntry) (id : String) :
    (volumesById declared).get? id = lastDeclared? declared id :=
  Table.get?_ofPairs_map VolumeEntry.volumeId declared id

theorem exists_lastDeclared?_iff (declared : List VolumeEntry) (id : String) :
    (∃ entry, lastDeclared? declared id = some entry) ↔ id ∈ declared.map (·.volumeId) := by
  rw [← Option.isSome_iff_exists, lastDeclared?, List.getLast?_isSome, ne_eq,
    List.filter_eq_nil_iff]
  simp

theorem mappingsFor_concat_of_ne {mapping : Mapping} {id : String} (other : mapping.2.id ≠ id) :
    mappingsFor (told ++ [mapping]) id = mappingsFor told id := by
  simp [mappingsFor, other]

theorem mappingsFor_concat_self (told : List Mapping) (mapping : Mapping) :
    mappingsFor (told ++ [mapping]) mapping.2.id =
      mappingsFor told mapping.2.id ++ [mapping] := by
  simp [mappingsFor]

theorem mappingsFor_eq_nil {id : String} (untold : id ∉ told.map (·.2.id)) :
    mappingsFor told id = [] := by
  apply List.filter_eq_nil_iff.mpr
  intro mapping member
  have other : mapping.2.id ≠ id := fun same => untold (same ▸ List.mem_map_of_mem member)
  simpa using other

/-- What was told later does not move a first mapping. -/
theorem firstMapping_append {id : String} (known : id ∈ told.map (·.2.id))
    (later : List Mapping) : firstMapping (told ++ later) id = firstMapping told id := by
  rw [firstMapping, List.map_append, List.idxOf_append_of_mem known]
  rfl

theorem firstMapping_lt {id : String} (known : id ∈ told.map (·.2.id)) :
    firstMapping told id < told.length := by
  have position := List.idxOf_lt_length_of_mem known
  rwa [List.length_map] at position

/-- A volume that was not told before has its first mapping at the end. -/
theorem firstMapping_concat_self {mapping : Mapping}
    (untold : mapping.2.id ∉ told.map (·.2.id)) :
    firstMapping (told ++ [mapping]) mapping.2.id = told.length := by
  rw [firstMapping, List.map_append, List.idxOf_append_of_notMem untold]
  simp

namespace VolumesFound

theorem nil (declared : List VolumeEntry) : VolumesFound declared [] [] where
  distinct := List.nodup_nil
  inOrder := List.Pairwise.nil
  mem_iff id := by simp
  described := nofun

/-- A volume that was found is told to be mapped. -/
theorem told_of_mem (finds : VolumesFound declared told found) {volume : VolumeMeta}
    (member : volume ∈ found) : volume.id ∈ told.map (·.2.id) :=
  ((finds.mem_iff volume.id).mp (List.mem_map_of_mem member)).2

/-- One more mapping of a volume that was found is added to its own. -/
theorem mapTo_described (finds : VolumesFound declared told found) (mapping : Mapping)
    {volume : VolumeMeta} (member : volume ∈ found) :
    ∃ entry first, lastDeclared? declared volume.id = some entry ∧
      (mappingsFor (told ++ [mapping]) volume.id).head? = some first ∧
        mapTo mapping.1 mapping.2 volume =
          describedVolume entry first (mappingsFor (told ++ [mapping]) volume.id) := by
  rcases finds.described volume member with ⟨entry, first, stated, began, same⟩
  refine ⟨entry, first, stated, ?_⟩
  by_cases own : mapping.2.id = volume.id
  · rw [← own] at began same ⊢
    rw [mappingsFor_concat_self]
    constructor
    · rw [List.head?_append, began, Option.some_or]
    · rw [mapTo, if_pos own.symm]
      conv_lhs => rw [same]
      simp [VolumeMeta.addMapping, describedVolume]
  · rw [mappingsFor_concat_of_ne own, mapTo_of_ne (Ne.symm own)]
    exact ⟨began, same⟩

/-- A volume that is declared, and of which there was no mapping before, is
found by its first. -/
theorem newlyFound_described (finds : VolumesFound declared told found) (mapping : Mapping)
    {volume : VolumeMeta}
    (new : volume ∈ newlyFound (volumesById declared) mapping.1 found mapping.2) :
    mapping.2.id ∉ told.map (·.2.id) ∧
      ∃ entry, lastDeclared? declared mapping.2.id = some entry ∧
        volume = describedVolume entry mapping [mapping] := by
  unfold newlyFound at new
  by_cases known : mapping.2.id ∈ found.map (·.id)
  · rw [if_pos known] at new
    cases new
  · rw [if_neg known, Option.mem_toList, Option.map_eq_some_iff] at new
    rcases new with ⟨entry, stated, rfl⟩
    rw [get?_volumesById] at stated
    have listed := (exists_lastDeclared?_iff declared mapping.2.id).mp ⟨entry, stated⟩
    refine ⟨fun before => known ((finds.mem_iff _).mpr ⟨listed, before⟩), entry, stated, ?_⟩
    simp [volumeMetaOf, describedVolume, String.isEmpty_iff]

/-- The identifiers after a visit: those from before, and the volume's own if
it is declared. -/
theorem mem_visit_iff (finds : VolumesFound declared told found) (mapping : Mapping)
    (id : String) :
    id ∈ (visitMapping declared found mapping).map (·.id) ↔
      id ∈ declared.map (·.volumeId) ∧ id ∈ (told ++ [mapping]).map (·.2.id) := by
  have before : (found.map (mapTo mapping.1 mapping.2)).map (·.id) = found.map (·.id) := by
    rw [List.map_map]
    exact List.map_congr_left fun volume _ => id_mapTo mapping.2 volume
  rw [visitMapping, visitVolume_eq, List.map_append, before, List.mem_append, List.map_append,
    List.mem_append, List.map_singleton, List.mem_singleton, finds.mem_iff]
  constructor
  · intro either
    rcases either with old | new
    · exact ⟨old.1, Or.inl old.2⟩
    · rcases List.mem_map.mp new with ⟨volume, member, rfl⟩
      rcases finds.newlyFound_described mapping member with ⟨-, entry, stated, rfl⟩
      exact ⟨(exists_lastDeclared?_iff declared _).mp ⟨entry, stated⟩, Or.inr rfl⟩
  · rintro ⟨listed, earlier | rfl⟩
    · exact Or.inl ⟨listed, earlier⟩
    · by_cases known : mapping.2.id ∈ found.map (·.id)
      · exact Or.inl ((finds.mem_iff _).mp known)
      · rcases (exists_lastDeclared?_iff declared _).mpr listed with ⟨entry, stated⟩
        apply Or.inr
        simp [newlyFound, known, get?_volumesById, stated, volumeMetaOf]

/-- Volumes that were found keep their order, and a new one comes last. -/
theorem visit_inOrder (finds : VolumesFound declared told found) (mapping : Mapping) :
    (visitMapping declared found mapping).Pairwise fun volume later =>
      firstMapping (told ++ [mapping]) volume.id < firstMapping (told ++ [mapping]) later.id := by
  have kept : ∀ volume ∈ found,
      firstMapping (told ++ [mapping]) volume.id = firstMapping told volume.id :=
    fun volume member => firstMapping_append (finds.told_of_mem member) [mapping]
  rw [visitMapping, visitVolume_eq]
  apply List.pairwise_append.mpr
  refine ⟨?_, ?_, ?_⟩
  · rw [List.pairwise_map]
    apply List.Pairwise.imp_of_mem _ finds.inOrder
    intro volume later member member' before
    rwa [id_mapTo, id_mapTo, kept volume member, kept later member']
  · unfold newlyFound
    split
    · exact List.Pairwise.nil
    · cases (volumesById declared).get? mapping.2.id with
      | none => exact List.Pairwise.nil
      | some entry => exact List.pairwise_singleton _ _
  · intro volume old later new
    rcases List.mem_map.mp old with ⟨earlier, member, rfl⟩
    rcases finds.newlyFound_described mapping new with ⟨untold, entry, -, rfl⟩
    rw [id_mapTo, kept earlier member]
    exact (firstMapping_lt (finds.told_of_mem member)).trans_eq
      (firstMapping_concat_self untold).symm

/-- One more mapping leads to the volumes that are called for with it. -/
theorem visit (finds : VolumesFound declared told found) (mapping : Mapping) :
    VolumesFound declared (told ++ [mapping]) (visitMapping declared found mapping) where
  distinct := nodup_visitVolume _ mapping.1 mapping.2 finds.distinct
  inOrder := finds.visit_inOrder mapping
  mem_iff := finds.mem_visit_iff mapping
  described := by
    intro volume member
    rw [visitMapping, visitVolume_eq, List.mem_append] at member
    rcases member with old | new
    · rcases List.mem_map.mp old with ⟨earlier, known, rfl⟩
      rw [id_mapTo]
      exact finds.mapTo_described mapping known
    · rcases finds.newlyFound_described mapping new with ⟨untold, entry, stated, rfl⟩
      have own : mappingsFor (told ++ [mapping]) mapping.2.id = [mapping] := by
        rw [mappingsFor_concat_self, mappingsFor_eq_nil untold, List.nil_append]
      refine ⟨entry, mapping, stated, ?_⟩
      change (mappingsFor (told ++ [mapping]) mapping.2.id).head? = some mapping ∧
        _ = describedVolume entry mapping (mappingsFor (told ++ [mapping]) mapping.2.id)
      rw [own]
      exact ⟨rfl, rfl⟩

/-- Visits for all mappings told lead to the volumes that they call for. -/
theorem of_mappings (declared : List VolumeEntry) (told : List Mapping) :
    VolumesFound declared told (told.foldl (visitMapping declared) []) := by
  induction told using List.reverseRecOn with
  | nil => exact nil declared
  | append_singleton earlier mapping ih =>
      rw [List.foldl_append, List.foldl_cons, List.foldl_nil]
      exact ih.visit mapping

end VolumesFound

end

end StorageTelemetry
