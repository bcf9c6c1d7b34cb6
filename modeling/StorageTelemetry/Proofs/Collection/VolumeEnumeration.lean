import StorageTelemetry.Proofs.Collection.Mappings

namespace StorageTelemetry

/-!
# Enumerating volumes

What a pass enumerates is what the declared volumes and the mappings told call
for, on a gateway that tells its generation and its data clients.  A listing
that fails takes away the mappings of its own data client and no others.
-/

open Routine

section

variable {client : Client} (inventory : Inventory) (bound : Nat) (drivers : List String)
  {now : Instant} {generation : Generation} {sdcs : List Sdc}

/-- What the data clients of the declared nodes tell in a pass. -/
def passMappings (client : Client) (inventory : Inventory) (drivers : List String)
    (sdcs : List Sdc) (now : Instant) : List Mapping :=
  mappingsTold client (listingTimes client (resolvedNodes sdcs (drivers.flatMap inventory.nodesOf))
    (volumesTime client now))

/-- The volumes that are found in a pass are those that its mappings lead to. -/
theorem findVolumes_of_answers (answered : (client.generation now).outcome = .done generation)
    (listed : (client.sdcs (generationTime client now)).outcome = .done sdcs)
    (lists : client.ListsVolumes) :
    (findVolumes ⟨client, inventory.discovery, bound, drivers⟩ now).outcome =
      .done (generation, (passMappings client inventory drivers sdcs now).foldl
        (visitMapping (drivers.flatMap inventory.volumesOf)) []) := by
  have resolved := resolveSdcs_of_answers inventory bound drivers answered listed
  have declared : lookupAll inventory.discovery.volumes drivers =
      .ok (drivers.flatMap inventory.volumesOf) := lookupAll_ok inventory.volumesOf drivers
  have time : (resolveSdcs ⟨client, inventory.discovery, bound, drivers⟩ now).finish =
      volumesTime client now := congrArg Completion.finish resolved
  unfold findVolumes passMappings
  rw [← time]
  apply outcome_bind_eq_done_iff.mpr
  refine ⟨_, congrArg Completion.outcome resolved, ?_⟩
  apply outcome_bind_eq_done_iff.mpr
  refine ⟨drivers.flatMap inventory.volumesOf, by rw [declared]; rfl, ?_⟩
  apply outcome_bind_eq_done_iff.mpr
  refine ⟨_, visitSdcs_of_listsVolumes lists _ _ _ _, ?_⟩
  rw [declared]
  rfl

/-- Whether a pass enumerates the volumes that declared volumes and mappings
told call for: it returns their retrievers unless their batch fails. -/
def EnumeratesVolumes (context : CollectionContext) (now : Instant) (generation : Generation)
    (declared : List VolumeEntry) (told : List Mapping) : Prop :=
  ∃ found, VolumesFound declared told found ∧
    ReturnsFor (enumerateVolumes context now) generation
      (fun batch => found.map fun volume => ⟨volume, generation, batch⟩)
      (context.client.BatchFails ⟨"volume", found.map (·.id), IoMetrics.bulkNames⟩
        (findVolumes context now).finish)

theorem enumeratesVolumes_of_answers
    (answered : (client.generation now).outcome = .done generation)
    (listed : (client.sdcs (generationTime client now)).outcome = .done sdcs)
    (lists : client.ListsVolumes) :
    EnumeratesVolumes ⟨client, inventory.discovery, bound, drivers⟩ now generation
      (drivers.flatMap inventory.volumesOf) (passMappings client inventory drivers sdcs now) := by
  have ended := findVolumes_of_answers inventory bound drivers answered listed lists
  refine ⟨_, VolumesFound.of_mappings _ _, ?_⟩
  have query : ∀ found : List VolumeMeta, batchQuery .volume (found.map fun volume =>
      [volume.found]) = ⟨"volume", found.map (·.id), IoMetrics.bulkNames⟩ :=
    batchQuery_of_singletons .volume nofun VolumeMeta.found
  rw [enumerateVolumes_eq, ← query]
  exact (volumeReader ⟨client, inventory.discovery, bound, drivers⟩).returnsFor ended

/-! ## Listings that fail -/

/-- A gateway on which the listings of some data clients fail, and which is the
same otherwise. -/
def Client.losing (client : Client) (lost : List String) (fault : Fault) : Client :=
  { client with
    sdcVolumes := fun id now =>
      if id ∈ lost then ⟨(client.sdcVolumes id now).delay, .failed fault⟩
      else client.sdcVolumes id now }

variable (client) (lost : List String) (fault : Fault)

theorem Client.ListsVolumes.losing {client : Client} (lists : client.ListsVolumes)
    (lost : List String) (fault : Fault) :
    (client.losing lost fault).ListsVolumes := by
  intro id now panic
  by_cases missing : id ∈ lost
  · simp [Client.losing, missing]
  · simpa [Client.losing, missing] using lists id now panic

/-- The other data clients are asked at the same moments. -/
theorem listingTimes_losing (resolved : List SdcMeta) (now : Instant) :
    listingTimes (client.losing lost fault) resolved now = listingTimes client resolved now := by
  induction resolved generalizing now with
  | nil => rfl
  | cons sdc rest ih =>
      have delay : ((client.losing lost fault).sdcVolumes sdc.id now).delay =
          (client.sdcVolumes sdc.id now).delay := by
        by_cases missing : sdc.id ∈ lost <;> simp [Client.losing, missing]
      rw [listingTimes, listingTimes, ih, delay]

theorem mappingsOf_losing (sdc : SdcMeta) (moment : Instant) :
    (client.losing lost fault).mappingsOf sdc moment =
      (client.mappingsOf sdc moment).filter fun mapping => mapping.1.id ∉ lost := by
  have own : ∀ mapping ∈ client.mappingsOf sdc moment, mapping.1 = sdc := by
    intro mapping member
    unfold Client.mappingsOf at member
    split at member
    · rcases List.mem_map.mp member with ⟨volume, -, rfl⟩
      rfl
    · cases member
    · cases member
  by_cases missing : sdc.id ∈ lost
  · have none : (client.losing lost fault).mappingsOf sdc moment = [] := by
      simp [Client.mappingsOf, Client.losing, missing]
    rw [none]
    symm
    apply List.filter_eq_nil_iff.mpr
    intro mapping member
    simpa [own mapping member] using missing
  · have same : (client.losing lost fault).mappingsOf sdc moment =
        client.mappingsOf sdc moment := by
      simp [Client.mappingsOf, Client.losing, missing]
    rw [same]
    symm
    apply List.filter_eq_self.mpr
    intro mapping member
    simpa [own mapping member] using missing

/-- Of the mappings told those of data clients are missing whose listings
fail. -/
theorem mappingsTold_losing (asked : List (SdcMeta × Instant)) :
    mappingsTold (client.losing lost fault) asked =
      (mappingsTold client asked).filter fun mapping => mapping.1.id ∉ lost := by
  unfold mappingsTold
  rw [List.filter_flatMap]
  exact List.flatMap_congr fun entry _ => mappingsOf_losing client lost fault entry.1 entry.2

end

/-- On a gateway that tells its generation and its data clients, and whose
listings are answered or fail, a pass enumerates the volumes that are called for
by what the drivers declare and by the mappings that the listings told.  If some
of the listings fail in addition, the mappings of their data clients are left
out, and nothing else changes. -/
theorem volumes_enumerated_by_mappings (client : Client) (inventory : Inventory) (bound : Nat)
    (drivers : List String) (now : Instant) (generation : Generation) (sdcs : List Sdc)
    (answered : (client.generation now).outcome = .done generation)
    (listed : (client.sdcs (generationTime client now)).outcome = .done sdcs)
    (lists : client.ListsVolumes) :
    EnumeratesVolumes ⟨client, inventory.discovery, bound, drivers⟩ now generation
      (drivers.flatMap inventory.volumesOf) (passMappings client inventory drivers sdcs now) ∧
    ∀ lost fault,
      EnumeratesVolumes ⟨client.losing lost fault, inventory.discovery, bound, drivers⟩ now
        generation (drivers.flatMap inventory.volumesOf)
        ((passMappings client inventory drivers sdcs now).filter fun mapping =>
          mapping.1.id ∉ lost) := by
  refine ⟨enumeratesVolumes_of_answers inventory bound drivers answered listed lists,
    fun lost fault => ?_⟩
  have told : passMappings (client.losing lost fault) inventory drivers sdcs now =
      (passMappings client inventory drivers sdcs now).filter fun mapping =>
        mapping.1.id ∉ lost := by
    have times := listingTimes_losing client lost fault
      (resolvedNodes sdcs (drivers.flatMap inventory.nodesOf)) (volumesTime client now)
    exact (congrArg (mappingsTold (client.losing lost fault)) times).trans
      (mappingsTold_losing client lost fault _)
  have answered' : ((client.losing lost fault).generation now).outcome = .done generation :=
    answered
  rw [← told]
  exact enumeratesVolumes_of_answers inventory bound drivers answered' listed
    (lists.losing lost fault)

/-- Three data clients. -/
def sharingSdcs : List Sdc :=
  [⟨"a", none, "A", "10.0.0.1", "first"⟩, ⟨"b", none, "B", "", "second"⟩,
    ⟨"c", none, "C", "", ""⟩]

/-- A gateway on which two of these data clients share a volume and the third
cannot be listed.  One of the volumes is not declared. -/
def sharingClients : Client :=
  { twoClients.client with
    sdcs := fun _ => ⟨1, .done sharingSdcs⟩
    sdcVolumes := fun id _ =>
      if id = "a" then ⟨1, .done [⟨"shared", "disk", ""⟩, ⟨"stray", "", ""⟩]⟩
      else if id = "b" then ⟨1, .done [⟨"own", "", ""⟩, ⟨"shared", "renamed", ""⟩]⟩
      else ⟨1, .failed .cancelled⟩ }

theorem sharingClients_lists : sharingClients.ListsVolumes := by
  intro id now panic
  by_cases first : id = "a"
  · simp [sharingClients, first]
  · by_cases second : id = "b" <;> simp [sharingClients, first, second]

/-- The nodes of these data clients, and two declarations of the volume that is
shared. -/
def sharingInventory : Inventory where
  nodes := [⟨"third", "c", "", "driver"⟩, ⟨"first", "a", "", "driver"⟩,
    ⟨"second", "b", "10.0.0.2", "driver"⟩]
  volumes := [⟨"shared", "old", "", "", "", "", "driver"⟩, ⟨"own", "pv", "", "", "", "", "driver"⟩,
    ⟨"shared", "new", "claim", "", "", "declared", "driver"⟩]
  storageClasses := []

/-- A pass on this gateway enumerates the shared volume by its first mapping and
its last declaration, with both of its data clients. -/
theorem sharingClients_enumerated :
    let context : CollectionContext := ⟨sharingClients, sharingInventory.discovery, 2, ["driver"]⟩
    EnumeratesVolumes context 0 .legacy (["driver"].flatMap sharingInventory.volumesOf)
        (passMappings sharingClients sharingInventory ["driver"] sharingSdcs 0) ∧
      ∃ batch, (enumerateVolumes context 0).outcome = .done
        [⟨⟨"shared", "disk", "declared", "new", "claim", "", "", ["a", "b"],
            ["10.0.0.1", "10.0.0.2"]⟩, .legacy, batch⟩,
          ⟨⟨"own", "", "second", "pv", "", "", "", ["b"], ["10.0.0.2"]⟩, .legacy, batch⟩] := by
  have enumerated := volumes_enumerated_by_mappings sharingClients sharingInventory 2 ["driver"] 0
    .legacy sharingSdcs rfl rfl sharingClients_lists
  exact ⟨enumerated.1, .empty, rfl⟩

end StorageTelemetry
