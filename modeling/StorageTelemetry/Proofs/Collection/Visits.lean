import StorageTelemetry.Proofs.Collection.VolumeEnumeration

namespace StorageTelemetry

/-!
# How often data clients are visited

Volumes and pools are found once each.  Data clients are not: one is visited for
every declared node that names it, and there may be several, under one driver or
under more.  Such a data client has as many retrievers, and it is named as often
by every volume that its listings have.

What is counted here is what nodes and listings bring about.  A data client is
visited once exactly if one node names it.
-/

open Routine

/-! ## Visits for nodes -/

/-- The identifier of the data client that a node names. -/
def sdcIdOf? (sdcs : List Sdc) (node : NodeEntry) : Option String :=
  (sdcOf? sdcs node).map (·.id)

/-- Whether two nodes do not name the same data client. -/
def NamesApart (sdcs : List Sdc) (node other : NodeEntry) : Prop :=
  ∀ id, sdcIdOf? sdcs node = some id → sdcIdOf? sdcs other ≠ some id

/-- The GUIDs of the nodes that name a data client, without regard to case. -/
def namingGuids (sdcs : List Sdc) (nodes : List NodeEntry) : List String :=
  (nodes.filter fun node => (sdcOf? sdcs node).isSome).map fun node => Text.lower node.sdcGuid

section

variable {sdcs : List Sdc}

theorem ids_resolvedNodes (sdcs : List Sdc) (nodes : List NodeEntry) :
    (resolvedNodes sdcs nodes).map (·.id) = nodes.filterMap (sdcIdOf? sdcs) := by
  rw [resolvedNodes, List.map_filterMap]
  apply List.filterMap_congr
  intro node _
  rw [Option.map_map]
  rfl

/-- A data client is visited for every node that names it. -/
theorem count_resolvedNodes (sdcs : List Sdc) (nodes : List NodeEntry) (id : String) :
    ((resolvedNodes sdcs nodes).map (·.id)).count id =
      nodes.countP fun node => sdcIdOf? sdcs node = some id := by
  rw [ids_resolvedNodes, List.count_filterMap]
  apply List.countP_congr
  simp

/-- No data client is visited twice exactly if no two nodes name the same. -/
theorem nodup_resolvedNodes_iff (sdcs : List Sdc) (nodes : List NodeEntry) :
    ((resolvedNodes sdcs nodes).map (·.id)).Nodup ↔ nodes.Pairwise (NamesApart sdcs) := by
  rw [ids_resolvedNodes, List.Nodup, List.pairwise_filterMap]
  apply List.Pairwise.iff
  intro node other
  constructor
  · intro apart id named named'
    exact apart id named id named' rfl
  · rintro apart id named _ named' rfl
    exact apart id named named'

/-- A node names a data client with its GUID. -/
theorem sdcOf?_spec {node : NodeEntry} {sdc : Sdc} (named : sdcOf? sdcs node = some sdc) :
    sdc ∈ sdcs ∧ Text.lower sdc.guid = Text.lower node.sdcGuid := by
  have member := List.mem_filter.mp (List.mem_of_getLast? named)
  exact ⟨member.1, of_decide_eq_true member.2⟩

/-- Nodes name the same data client by the same GUID, on a gateway that has no
two data clients with one identifier. -/
theorem namesApart_iff (single : (sdcs.map (·.id)).Nodup) (node other : NodeEntry) :
    NamesApart sdcs node other ↔ ((sdcOf? sdcs node).isSome → (sdcOf? sdcs other).isSome →
      Text.lower node.sdcGuid ≠ Text.lower other.sdcGuid) := by
  constructor
  · intro apart names _ same
    rcases Option.isSome_iff_exists.mp names with ⟨sdc, named⟩
    have own : sdcOf? sdcs other = some sdc := by rw [← named, sdcOf?, sdcOf?, same]
    exact apart sdc.id (by rw [sdcIdOf?, named, Option.map_some])
      (by rw [sdcIdOf?, own, Option.map_some])
  · intro different id named named'
    rcases Option.map_eq_some_iff.mp named with ⟨sdc, found, rfl⟩
    rcases Option.map_eq_some_iff.mp named' with ⟨second, found', same⟩
    have spec := sdcOf?_spec found
    have spec' := sdcOf?_spec found'
    have equal : second = sdc := List.inj_on_of_nodup_map single spec'.1 spec.1 same
    apply different (by rw [found]; rfl) (by rw [found']; rfl)
    rw [← spec.2, ← spec'.2, equal]

theorem nodup_resolvedNodes_iff_guids (single : (sdcs.map (·.id)).Nodup)
    (nodes : List NodeEntry) :
    ((resolvedNodes sdcs nodes).map (·.id)).Nodup ↔ (namingGuids sdcs nodes).Nodup := by
  rw [nodup_resolvedNodes_iff, namingGuids, List.Nodup, List.pairwise_map, List.pairwise_filter]
  apply List.Pairwise.iff
  exact namesApart_iff single

end

/-! ## Mappings for visits -/

/-- The volumes that the listing of a data client has. -/
def Client.listedVolumes (client : Client) (id : String) (moment : Instant) : List Volume :=
  match (client.sdcVolumes id moment).outcome with
  | .done volumes => volumes
  | .failed _ | .panicked _ => []

/-- Whether no listing of a data client has a volume twice. -/
def Client.ListsOnce (client : Client) : Prop :=
  ∀ id moment, ((client.listedVolumes id moment).map (·.id)).Nodup

/-- How often visits lead to a mapping of a volume to a data client: as often as
the listings of its visits have the volume. -/
def timesMapped (client : Client) (visits : List (SdcMeta × Instant)) (id volume : String) : Nat :=
  ((visits.filter (·.1.id = id)).flatMap fun visit => client.listedVolumes id visit.2).countP
    (·.id = volume)

section

variable (client : Client)

theorem mappingsFor_append (told later : List Mapping) (volume : String) :
    mappingsFor (told ++ later) volume = mappingsFor told volume ++ mappingsFor later volume :=
  List.filter_append _ _

/-- A listing tells a mapping to its data client for every time that it has the
volume. -/
theorem ids_mappingsOf (sdc : SdcMeta) (moment : Instant) (volume : String) :
    (mappingsFor (client.mappingsOf sdc moment) volume).map (·.1.id) =
      List.replicate ((client.listedVolumes sdc.id moment).countP (·.id = volume)) sdc.id := by
  unfold Client.mappingsOf Client.listedVolumes
  cases (client.sdcVolumes sdc.id moment).outcome with
  | done volumes =>
      dsimp only
      rw [mappingsFor, List.filter_map, List.map_map, List.countP_eq_length_filter,
        ← List.map_const]
      rfl
  | failed fault => rfl
  | panicked panic => rfl

/-- A volume is mapped to a data client as often as visits lead to. -/
theorem count_mappingsFor (visits : List (SdcMeta × Instant)) (id volume : String) :
    ((mappingsFor (mappingsTold client visits) volume).map (·.1.id)).count id =
      timesMapped client visits id volume := by
  induction visits with
  | nil => rfl
  | cons visit rest ih =>
      rcases visit with ⟨sdc, moment⟩
      rw [mappingsTold_cons, mappingsFor_append, List.map_append, List.count_append, ih,
        ids_mappingsOf, List.count_replicate, timesMapped, timesMapped]
      by_cases own : sdc.id = id
      · subst own
        simp
      · simp [own]

variable {client}

/-- Visits to different data clients lead to no mapping twice if no listing has
a volume twice. -/
theorem timesMapped_le_one {visits : List (SdcMeta × Instant)}
    (apart : (visits.map (·.1.id)).Nodup) (listsOnce : client.ListsOnce) (id volume : String) :
    timesMapped client visits id volume ≤ 1 := by
  induction visits with
  | nil => exact Nat.zero_le 1
  | cons visit rest ih =>
      rw [List.map_cons, List.nodup_cons] at apart
      by_cases own : visit.1.id = id
      · have others : rest.filter (·.1.id = id) = [] := by
          apply List.filter_eq_nil_iff.mpr
          intro other member
          have different : other.1.id ≠ id := by
            intro same
            exact apart.1 (own ▸ same ▸ List.mem_map_of_mem member)
          simpa using different
        have once := List.nodup_iff_count_le_one.mp (listsOnce id visit.2) volume
        rw [List.count, List.countP_map] at once
        rw [timesMapped, List.filter_cons_of_pos (by simpa using own), others,
          List.flatMap_singleton]
        exact once
      · rw [timesMapped, List.filter_cons_of_neg (by simpa using own)]
        exact ih apart.2

theorem visited_listingTimes (client : Client) (sdcs : List SdcMeta) (now : Instant) :
    (listingTimes client sdcs now).map (·.1) = sdcs := by
  induction sdcs generalizing now with
  | nil => rfl
  | cons sdc rest ih => rw [listingTimes, List.map_cons, ih]

end

/-! ## Passes -/

/-- Whether a pass visits data clients as often as nodes name them: it returns a
retriever for each of these nodes, and every volume that it enumerates names a
data client as often as the listings of its visits have the volume. -/
structure VisitsPerNode (context : CollectionContext) (now : Instant) (generation : Generation)
    (sdcs : List Sdc) (nodes : List NodeEntry) (visits : List (SdcMeta × Instant)) : Prop where
  returns : ReturnsFor (enumerateSdcs context now) generation
    (fun batch => (resolvedNodes sdcs nodes).map fun sdc => ⟨sdc, generation, batch⟩)
    (context.client.BatchFails
      ⟨"sdc", (resolvedNodes sdcs nodes).map (·.id), IoMetrics.bulkNames⟩
      (resolveSdcs context now).finish)
  visited : visits.map (·.1) = resolvedNodes sdcs nodes
  count : ∀ found, (enumerateSdcs context now).outcome = .done found → ∀ id,
    (found.map (·.entity.id)).count id = nodes.countP fun node => sdcIdOf? sdcs node = some id
  distinct_iff : ∀ found, (enumerateSdcs context now).outcome = .done found →
    ((found.map (·.entity.id)).Nodup ↔ nodes.Pairwise (NamesApart sdcs))
  mapped_count : ∀ found, (enumerateVolumes context now).outcome = .done found →
    ∀ retriever ∈ found, ∀ id, retriever.entity.mappedNodeIds.count id =
      timesMapped context.client visits id retriever.entity.id
  mapped_distinct : ∀ found, (enumerateVolumes context now).outcome = .done found →
    nodes.Pairwise (NamesApart sdcs) → context.client.ListsOnce →
      ∀ retriever ∈ found, retriever.entity.mappedNodeIds.Nodup

section

variable {client : Client} (inventory : Inventory) (bound : Nat) (drivers : List String)
  {now : Instant} {generation : Generation} {sdcs : List Sdc}

/-- The data clients of the declared nodes are those that a pass returns
retrievers for. -/
theorem enumerateSdcs_returnsFor (answered : (client.generation now).outcome = .done generation)
    (listed : (client.sdcs (generationTime client now)).outcome = .done sdcs) :
    let context : CollectionContext := ⟨client, inventory.discovery, bound, drivers⟩
    let visited := resolvedNodes sdcs (drivers.flatMap inventory.nodesOf)
    ReturnsFor (enumerateSdcs context now) generation
      (fun batch => visited.map fun sdc => ⟨sdc, generation, batch⟩)
      (client.BatchFails ⟨"sdc", visited.map (·.id), IoMetrics.bulkNames⟩
        (resolveSdcs context now).finish) := by
  intro context visited
  have ended : (resolveSdcs context now).outcome = .done (generation, visited) :=
    congrArg Completion.outcome (resolveSdcs_of_answers inventory bound drivers answered listed)
  have query : batchQuery .sdc (visited.map fun sdc => [sdc.found]) =
      ⟨"sdc", visited.map (·.id), IoMetrics.bulkNames⟩ :=
    batchQuery_of_singletons .sdc nofun SdcMeta.found visited
  rw [enumerateSdcs_eq, ← query]
  exact (sdcReader context).returnsFor ended

/-- A volume that a pass enumerates names the data clients of its mappings. -/
theorem mappedNodeIds_eq (answered : (client.generation now).outcome = .done generation)
    (listed : (client.sdcs (generationTime client now)).outcome = .done sdcs)
    (lists : client.ListsVolumes) {found : List VolumeRetriever}
    (ended : (enumerateVolumes ⟨client, inventory.discovery, bound, drivers⟩ now).outcome =
      .done found) {retriever : VolumeRetriever} (member : retriever ∈ found) :
    retriever.entity.mappedNodeIds =
      (mappingsFor (passMappings client inventory drivers sdcs now) retriever.entity.id).map
        (·.1.id) := by
  rcases enumeratesVolumes_of_answers inventory bound drivers answered listed lists with
    ⟨volumes, finds, returns⟩
  rcases returns.returned found ended with ⟨batch, rfl⟩
  rcases List.mem_map.mp member with ⟨volume, own, rfl⟩
  rcases finds.described volume own with ⟨entry, first, -, -, described⟩
  exact congrArg VolumeMeta.mappedNodeIds described

theorem visitsPerNode_of_answers (answered : (client.generation now).outcome = .done generation)
    (listed : (client.sdcs (generationTime client now)).outcome = .done sdcs)
    (lists : client.ListsVolumes) :
    let nodes := drivers.flatMap inventory.nodesOf
    VisitsPerNode ⟨client, inventory.discovery, bound, drivers⟩ now generation sdcs nodes
      (listingTimes client (resolvedNodes sdcs nodes) (volumesTime client now)) := by
  intro nodes
  have returns := enumerateSdcs_returnsFor inventory bound drivers answered listed
  have visited := visited_listingTimes client (resolvedNodes sdcs nodes) (volumesTime client now)
  have ids : ∀ found,
      (enumerateSdcs ⟨client, inventory.discovery, bound, drivers⟩ now).outcome = .done found →
        found.map (·.entity.id) = (resolvedNodes sdcs nodes).map (·.id) := by
    intro found ended
    rcases returns.returned found ended with ⟨batch, rfl⟩
    exact List.map_map
  constructor
  · exact returns
  · exact visited
  · intro found ended id
    rw [ids found ended]
    exact count_resolvedNodes sdcs nodes id
  · intro found ended
    rw [ids found ended]
    exact nodup_resolvedNodes_iff sdcs nodes
  · intro found ended retriever member id
    rw [mappedNodeIds_eq inventory bound drivers answered listed lists ended member]
    exact count_mappingsFor client _ id retriever.entity.id
  · intro found ended apart listsOnce retriever member
    apply List.nodup_iff_count_le_one.mpr
    intro id
    rw [mappedNodeIds_eq inventory bound drivers answered listed lists ended member]
    apply (count_mappingsFor client _ id retriever.entity.id).trans_le
    apply timesMapped_le_one _ listsOnce
    have distinct := (nodup_resolvedNodes_iff sdcs nodes).mpr apart
    rwa [← visited, List.map_map] at distinct

end

/-- On a gateway that tells its generation and its data clients, and whose
listings are answered or fail, a pass visits data clients as often as the nodes
of its drivers name them.  If no two data clients of the gateway have the same
identifier, these nodes are told apart by their GUIDs, without regard to case. -/
theorem data_clients_visited_per_node (client : Client) (inventory : Inventory) (bound : Nat)
    (drivers : List String) (now : Instant) (generation : Generation) (sdcs : List Sdc)
    (answered : (client.generation now).outcome = .done generation)
    (listed : (client.sdcs (generationTime client now)).outcome = .done sdcs)
    (lists : client.ListsVolumes) :
    let nodes := drivers.flatMap inventory.nodesOf
    VisitsPerNode ⟨client, inventory.discovery, bound, drivers⟩ now generation sdcs nodes
      (listingTimes client (resolvedNodes sdcs nodes) (volumesTime client now)) ∧
    ((sdcs.map (·.id)).Nodup →
      (nodes.Pairwise (NamesApart sdcs) ↔ (namingGuids sdcs nodes).Nodup)) := by
  intro nodes
  refine ⟨visitsPerNode_of_answers inventory bound drivers answered listed lists, fun single => ?_⟩
  rw [← nodup_resolvedNodes_iff]
  exact nodup_resolvedNodes_iff_guids single nodes

/-- A node that two drivers declare, with a GUID in upper case, and a volume on
it. -/
def sharedNode : Inventory where
  nodes := [⟨"worker-1", "6A1F", "10.0.0.1", "csi-a"⟩, ⟨"worker-1", "6A1F", "10.0.0.1", "csi-b"⟩]
  volumes := [⟨"vol-1", "pv-1", "claim", "default", "gold", "system", "csi-a"⟩]
  storageClasses := []

/-- The data client of this node. -/
def sharedNodeSdcs : List Sdc := [⟨"sdc-1", some "worker", "6a1f", "10.0.0.1", "system"⟩]

/-- A pass for both drivers on a gateway with this data client. -/
def sharedNodePass : CollectionContext where
  client :=
    { twoClients.client with
      sdcs := fun _ => ⟨0, .done sharedNodeSdcs⟩
      sdcVolumes := fun _ _ => ⟨0, .done [⟨"vol-1", "disk", "pool"⟩]⟩ }
  discovery := sharedNode.discovery
  bound := 4
  drivers := ["csi-a", "csi-b"]

/-- The data client of this node has two retrievers, one for each driver. -/
theorem sharedNode_counted :
    let nodes := sharedNodePass.drivers.flatMap sharedNode.nodesOf
    VisitsPerNode sharedNodePass 0 .legacy sharedNodeSdcs nodes
        (listingTimes sharedNodePass.client (resolvedNodes sharedNodeSdcs nodes)
          (volumesTime sharedNodePass.client 0)) ∧
      ∃ found, (enumerateSdcs sharedNodePass 0).outcome = .done found ∧
        (found.map (·.entity.id)).count "sdc-1" = 2 := by
  intro nodes
  have lists : sharedNodePass.client.ListsVolumes := fun _ _ _ => nofun
  have visits := (data_clients_visited_per_node sharedNodePass.client sharedNode 4
    ["csi-a", "csi-b"] 0 .legacy sharedNodeSdcs rfl rfl lists).1
  rcases visits.returns.returns_iff.mpr nofun with ⟨found, ended⟩
  refine ⟨visits, found, ended, ?_⟩
  rw [visits.count found ended]
  decide

/-- Not every pass visits a data client once: the data client of this node has
two retrievers, and its volume names it twice. -/
theorem sharedNode_visited_twice :
    (∃ found, (enumerateSdcs sharedNodePass 0).outcome = .done found ∧
      ¬ (found.map (·.entity.id)).Nodup) ∧
    ∃ found, (enumerateVolumes sharedNodePass 0).outcome = .done found ∧
      ∃ retriever ∈ found, ¬ retriever.entity.mappedNodeIds.Nodup := by
  constructor
  · refine ⟨_, rfl, ?_⟩
    decide
  · refine ⟨_, rfl, _, List.mem_singleton_self _, ?_⟩
    decide

end StorageTelemetry
