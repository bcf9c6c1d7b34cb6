import StorageTelemetry.Proofs.Collection.VolumeEnumeration
import StorageTelemetry.Proofs.Recording.Relabelling
import StorageTelemetry.Proofs.Text.Splitting

namespace StorageTelemetry

/-!
# What the labels of a volume tell

The labels of a volume name its data clients in two texts, one of identifiers and
one of addresses, in each of which two underscores stand between them.  A volume
that a pass enumerates has one data client at least, and both lists go by the same
data clients.  So as long as identifiers and addresses have no underscore, the two
texts tell the lists, and the labels tell everything that is known of the volume.

The cache compares labels only.  For such volumes this is as good as comparing all
that is known of them.
-/

open Routine

/-! ## Data clients of enumerated volumes -/

/-- Whether the lists of a volume go by data clients from among some, of which there
is one at least. -/
def VolumeMeta.MappedAmong (volume : VolumeMeta) (sdcs : List SdcMeta) : Prop :=
  ∃ mapped, mapped ≠ [] ∧ mapped ⊆ sdcs ∧ volume.mappedNodeIds = mapped.map (·.id) ∧
    volume.mappedNodeIps = mapped.map (·.ip)

section

variable {managed : Table String VolumeEntry} {sdc : SdcMeta} {sdcs : List SdcMeta}
  {entities : List VolumeMeta}

theorem mappedAmong_volumeMetaOf (known : sdc ∈ sdcs) (volume : Volume) (declared : VolumeEntry) :
    (volumeMetaOf sdc volume declared).MappedAmong sdcs :=
  ⟨[sdc], List.cons_ne_nil sdc [], by simpa using known, rfl, rfl⟩

theorem VolumeMeta.MappedAmong.addMapping {entity : VolumeMeta} (mapped : entity.MappedAmong sdcs)
    (known : sdc ∈ sdcs) : (entity.addMapping sdc).MappedAmong sdcs := by
  rcases mapped with ⟨mapped, -, among, ids, ips⟩
  refine ⟨mapped ++ [sdc], by simp, ?_, ?_, ?_⟩
  · exact List.append_subset.mpr ⟨among, by simpa using known⟩
  · rw [VolumeMeta.addMapping, ids, List.map_append, List.map_singleton]
  · rw [VolumeMeta.addMapping, ips, List.map_append, List.map_singleton]

/-- A visit of a volume keeps the lists going by data clients. -/
theorem mappedAmong_visitVolume (known : sdc ∈ sdcs)
    (mapped : ∀ entity ∈ entities, entity.MappedAmong sdcs) (volume : Volume) :
    ∀ entity ∈ visitVolume managed sdc entities volume, entity.MappedAmong sdcs := by
  intro entity member
  rw [visitVolume_eq, List.mem_append] at member
  rcases member with old | new
  · rcases List.mem_map.mp old with ⟨earlier, listed, rfl⟩
    unfold mapTo
    split
    · exact (mapped earlier listed).addMapping known
    · exact mapped earlier listed
  · unfold newlyFound at new
    split at new
    · cases new
    · rcases Option.map_eq_some_iff.mp (Option.mem_toList.mp new) with ⟨declared, -, rfl⟩
      exact mappedAmong_volumeMetaOf known volume declared

theorem mappedAmong_visitVolumes (known : sdc ∈ sdcs) (volumes : List Volume)
    (mapped : ∀ entity ∈ entities, entity.MappedAmong sdcs) :
    ∀ entity ∈ volumes.foldl (visitVolume managed sdc) entities, entity.MappedAmong sdcs := by
  induction volumes generalizing entities with
  | nil => exact mapped
  | cons volume rest ih => exact ih (mappedAmong_visitVolume known mapped volume)

theorem visitSdcs_mappedAmong (client : Client) {visited : List SdcMeta} (among : visited ⊆ sdcs)
    (mapped : ∀ entity ∈ entities, entity.MappedAmong sdcs) :
    (visitSdcs client managed visited entities).Gives fun found =>
      ∀ entity ∈ found, entity.MappedAmong sdcs := by
  induction visited generalizing entities with
  | nil => exact gives_done mapped
  | cons sdc rest ih =>
      rcases List.cons_subset.mp among with ⟨known, others⟩
      refine (gives_any _).bind fun answer _ => ?_
      cases answer with
      | ok volumes => exact ih others (mappedAmong_visitVolumes known volumes mapped)
      -- A data client whose volumes are not told is reported and adds to no list.
      | error fault => exact (gives_any _).bind fun _ _ => ih others mapped

/-- The volumes that a pass enumerates are mapped to data clients that it resolved. -/
theorem exists_resolved_of_enumerateVolumes {context : CollectionContext} {now : Instant}
    {found : List VolumeRetriever} (ended : (enumerateVolumes context now).outcome = .done found) :
    ∃ generation sdcs, (resolveSdcs context now).outcome = .done (generation, sdcs) ∧
      ∀ retriever ∈ found, retriever.entity.MappedAmong sdcs := by
  rcases outcome_bind_eq_done_iff.mp ended with ⟨⟨generation, sdcs⟩, resolved, onward⟩
  rcases outcome_bind_eq_done_iff.mp onward with ⟨declared, -, onward⟩
  rcases outcome_bind_eq_done_iff.mp onward with ⟨entities, visited, onward⟩
  rcases outcome_bind_eq_done_iff.mp onward with ⟨batch, -, returned⟩
  cases returned
  have mapped := visitSdcs_mappedAmong context.client (List.Subset.refl sdcs)
    (List.forall_mem_nil _) _ entities visited
  refine ⟨generation, sdcs, resolved, ?_⟩
  intro retriever member
  rcases List.mem_map.mp member with ⟨entity, listed, rfl⟩
  exact mapped entity listed

end

/-! ## Texts without underscores -/

/-- Whether the identifier and the address of a data client have no underscore. -/
def SdcMeta.IsPlain (sdc : SdcMeta) : Prop := '_' ∉ sdc.id.toList ∧ '_' ∉ sdc.ip.toList

/-- Whether a volume has data clients, each with an identifier and an address, and
these have no underscore. -/
structure VolumeMeta.PlainlyMapped (volume : VolumeMeta) : Prop where
  mapped : volume.mappedNodeIds ≠ []
  paired : volume.mappedNodeIds.length = volume.mappedNodeIps.length
  plainIds : ∀ id ∈ volume.mappedNodeIds, '_' ∉ id.toList
  plainIps : ∀ ip ∈ volume.mappedNodeIps, '_' ∉ ip.toList

theorem VolumeMeta.MappedAmong.plainlyMapped {volume : VolumeMeta} {sdcs : List SdcMeta}
    (among : volume.MappedAmong sdcs) (plain : ∀ sdc ∈ sdcs, sdc.IsPlain) :
    volume.PlainlyMapped := by
  rcases among with ⟨mapped, some, known, ids, ips⟩
  constructor
  · rw [ids]
    exact mt List.map_eq_nil_iff.mp some
  · rw [ids, ips, List.length_map, List.length_map]
  · rw [ids]
    intro id member
    rcases List.mem_map.mp member with ⟨sdc, listed, rfl⟩
    exact (plain sdc (known listed)).1
  · rw [ips]
    intro ip member
    rcases List.mem_map.mp member with ⟨sdc, listed, rfl⟩
    exact (plain sdc (known listed)).2

/-- A text of texts without underscores is split into these. -/
theorem splitOn_joinedLabel {texts : List String} (nonempty : texts ≠ [])
    (plain : ∀ text ∈ texts, '_' ∉ text.toList) : (joinedLabel texts).splitOn "__" = texts :=
  Text.splitOn_intercalate rfl nonempty plain

/-- Neither assumption can be dropped. -/
example :
    joinedLabel ["a_", "b"] = joinedLabel ["a", "_b"] ∧ joinedLabel [] = joinedLabel [""] := by
  decide

/-! ## Labels of volumes -/

namespace VolumeMeta

variable {volume other : VolumeMeta}

theorem PlainlyMapped.mapped_ips (plain : volume.PlainlyMapped) : volume.mappedNodeIps ≠ [] := by
  intro none
  have paired := plain.paired
  rw [none, List.length_nil, List.length_eq_zero_iff] at paired
  exact plain.mapped paired

theorem PlainlyMapped.splitOn_ids (plain : volume.PlainlyMapped) :
    (joinedLabel volume.mappedNodeIds).splitOn "__" = volume.mappedNodeIds :=
  splitOn_joinedLabel plain.mapped plain.plainIds

theorem PlainlyMapped.splitOn_ips (plain : volume.PlainlyMapped) :
    (joinedLabel volume.mappedNodeIps).splitOn "__" = volume.mappedNodeIps :=
  splitOn_joinedLabel plain.mapped_ips plain.plainIps

/-- Volumes with the same text of identifiers have the same identifiers. -/
theorem PlainlyMapped.ids_inj (plain : volume.PlainlyMapped) (plain' : other.PlainlyMapped)
    (same : joinedLabel volume.mappedNodeIds = joinedLabel other.mappedNodeIds) :
    volume.mappedNodeIds = other.mappedNodeIds := by
  rw [← plain.splitOn_ids, same, plain'.splitOn_ids]

theorem PlainlyMapped.ips_inj (plain : volume.PlainlyMapped) (plain' : other.PlainlyMapped)
    (same : joinedLabel volume.mappedNodeIps = joinedLabel other.mappedNodeIps) :
    volume.mappedNodeIps = other.mappedNodeIps := by
  rw [← plain.splitOn_ips, same, plain'.splitOn_ips]

/-- The labels tell everything that is known of a volume. -/
theorem PlainlyMapped.labels_inj (plain : volume.PlainlyMapped) (plain' : other.PlainlyMapped)
    (same : volume.labels = other.labels) : volume = other := by
  have pairs := congrArg LabelSet.pairs same
  simp only [labels, List.cons.injEq, Prod.mk.injEq, true_and, and_true] at pairs
  rcases pairs with ⟨id, name, system, claimed, claim, space, storageClass, idsText, ipsText⟩
  have ids := plain.ids_inj plain' idsText
  have ips := plain.ips_inj plain' ipsText
  cases volume
  cases other
  simp_all

/-- Whether the label texts of a volume that name its data clients are split into the
lists, with as many identifiers as addresses. -/
structure SplitInto (volume : VolumeMeta) (ids ips : String) : Prop where
  ids_label : volume.labels.get? "mapped_node_ids" = some ids
  ips_label : volume.labels.get? "mapped_node_ips" = some ips
  ids_split : ids.splitOn "__" = volume.mappedNodeIds
  ips_split : ips.splitOn "__" = volume.mappedNodeIps
  lengths : (ids.splitOn "__").length = (ips.splitOn "__").length

theorem PlainlyMapped.splitInto (plain : volume.PlainlyMapped) :
    volume.SplitInto (joinedLabel volume.mappedNodeIds) (joinedLabel volume.mappedNodeIps) where
  ids_label := rfl
  ips_label := rfl
  ids_split := plain.splitOn_ids
  ips_split := plain.splitOn_ips
  lengths := by rw [plain.splitOn_ids, plain.splitOn_ips, plain.paired]

end VolumeMeta

/-! ## The cache -/

/-- Whether the latest recording of a volume that succeeded in a run of calls was of
this description. -/
def Exporter.LastRecords {μ η : Type} [Meter μ η] (exporter : Exporter μ η)
    (calls : List RecordCall) (volume : VolumeMeta) : Prop :=
  ∃ metrics, latest? (recorded (exporter.attemptAll (calls.flatMap (·.observations))).1)
    (.volume, volume.id) = some (VolumeRecord.observation ⟨volume, metrics⟩)

theorem Exporter.LastRecords.labels? {μ η : Type} [Meter μ η] {exporter : Exporter μ η}
    {calls : List RecordCall} {volume : VolumeMeta} (last : exporter.LastRecords calls volume) :
    (exporter.callAll calls).2.cache.labels? .volume volume.id = some volume.labels := by
  rcases last with ⟨metrics, latest⟩
  have held := exporter.labels?_attemptAll (calls.flatMap (·.observations)) (.volume, volume.id)
  rw [callAll_eq, held, latest]
  rfl

/-- With a registry, every recording succeeds, and the latest one was of the volume
as it was told last. -/
theorem Exporter.lastRecords_of_latest {calls : List RecordCall} {volume : VolumeMeta}
    {metrics : IoMetrics} (latest : latest? (calls.flatMap (·.observations)) (.volume, volume.id) =
      some (VolumeRecord.observation ⟨volume, metrics⟩)) :
    (Exporter.start Registry.empty).LastRecords calls volume := by
  have ran := Realizes.start_empty.attemptAll_ok (Registry.view_lawful Registry.empty) id
    (calls.flatMap (·.observations))
  refine ⟨metrics, ?_⟩
  rw [recorded_of_faultless ran.1, attemptAll_observations]
  exact latest

/-! ## What the labels tell -/

/-- Whether a pass enumerates volumes, and all data clients that it resolves have
identifiers and addresses without underscores. -/
structure PlainPass (context : CollectionContext) (now : Instant)
    (found : List VolumeRetriever) : Prop where
  enumerated : (enumerateVolumes context now).outcome = .done found
  plain : ∀ generation sdcs, (resolveSdcs context now).outcome = .done (generation, sdcs) →
    ∀ sdc ∈ sdcs, sdc.IsPlain

theorem PlainPass.plainlyMapped {context : CollectionContext} {now : Instant}
    {found : List VolumeRetriever} (pass : PlainPass context now found) :
    ∀ retriever ∈ found, retriever.entity.PlainlyMapped := by
  rcases exists_resolved_of_enumerateVolumes pass.enumerated with
    ⟨generation, sdcs, resolved, among⟩
  intro retriever member
  exact (among retriever member).plainlyMapped (pass.plain generation sdcs resolved)

/-- Whether the labels of two volumes are as good as the volumes themselves: the texts
tell the lists, the labels tell the volumes, and where one volume was recorded last,
recording the other under the same identifier relabels exactly if it is another. -/
structure VolumeMeta.ToldApart (volume other : VolumeMeta) : Prop where
  ids_of_label : volume.labels.get? "mapped_node_ids" = other.labels.get? "mapped_node_ids" →
    volume.mappedNodeIds = other.mappedNodeIds
  ips_of_label : volume.labels.get? "mapped_node_ips" = other.labels.get? "mapped_node_ips" →
    volume.mappedNodeIps = other.mappedNodeIps
  labels_iff : volume.labels = other.labels ↔ volume = other
  relabelled : other.id = volume.id → ∀ {μ η : Type} [Meter μ η] (exporter : Exporter μ η)
    (calls : List RecordCall), exporter.LastRecords calls volume → ∀ metrics,
      (exporter.callAll calls).2.RelabelsExactlyIf (VolumeRecord.observation ⟨other, metrics⟩)
        (other ≠ volume)

theorem VolumeMeta.PlainlyMapped.toldApart {volume other : VolumeMeta}
    (plain : volume.PlainlyMapped) (plain' : other.PlainlyMapped) : volume.ToldApart other where
  ids_of_label same := plain.ids_inj plain' (Option.some.inj same)
  ips_of_label same := plain.ips_inj plain' (Option.some.inj same)
  labels_iff := ⟨plain.labels_inj plain', congrArg labels⟩
  relabelled := by
    intro ids μ η _ exporter calls last metrics
    have held := last.labels?
    rw [← ids] at held
    apply Exporter.relabelsExactlyIf_of_held held
    exact not_congr ⟨congrArg labels, plain'.labels_inj plain⟩

/-- A volume that a pass enumerates has data clients, each with an identifier and an
address, and if the data clients that the pass resolves have no underscore in these,
none of the volume's has.  Of any two such volumes, be they of one pass or of two, the
labels tell the lists of data clients, and all else that is known of the volumes. -/
theorem labels_tell_mapped_volumes :
    (∀ {context : CollectionContext} {now : Instant} {found : List VolumeRetriever},
      PlainPass context now found → ∀ retriever ∈ found, retriever.entity.PlainlyMapped) ∧
    ∀ {volume other : VolumeMeta}, volume.PlainlyMapped → other.PlainlyMapped →
      (∃ ids ips, volume.SplitInto ids ips) ∧ volume.ToldApart other :=
  ⟨PlainPass.plainlyMapped, fun plain plain' =>
    ⟨⟨_, _, plain.splitInto⟩, plain.toldApart plain'⟩⟩

/-- A gateway that tells the same volume to be mapped to all data clients. -/
def commonClients : Client :=
  { sharingClients with sdcVolumes := fun _ _ => ⟨1, .done [⟨"shared", "disk", ""⟩]⟩ }

/-- A pass on a gateway with these data clients, of which one has no address. -/
def commonPass (client : Client) : CollectionContext :=
  ⟨client, sharingInventory.discovery, 2, ["driver"]⟩

/-- The volume as it is mapped to some data clients. -/
def commonVolume (ids ips : List String) : VolumeMeta :=
  ⟨"shared", "disk", "declared", "new", "claim", "", "", ids, ips⟩

theorem commonPass_plain {client : Client} {found : List VolumeRetriever}
    (enumerated : (enumerateVolumes (commonPass client) 0).outcome = .done found)
    (resolved : (resolveSdcs (commonPass client) 0).outcome =
      .done (.legacy, resolvedNodes sharingSdcs sharingInventory.nodes)) :
    PlainPass (commonPass client) 0 found := by
  refine ⟨enumerated, ?_⟩
  intro generation sdcs resolved'
  cases resolved.symm.trans resolved'
  unfold SdcMeta.IsPlain
  decide

/-- While the listing of the data client without address fails in a second pass, the volume is
told apart from what it was before, and the cache relabels it. -/
theorem commonVolume_relabelled :
    let before := commonVolume ["c", "a", "b"] ["", "10.0.0.1", "10.0.0.2"]
    let after := commonVolume ["a", "b"] ["10.0.0.1", "10.0.0.2"]
    let exporter := ((Exporter.start Registry.empty).callAll
      [.volume ⟨before, .zero⟩, .volume .keepAlive]).2
    PlainPass (commonPass commonClients) 0 [⟨before, .legacy, .empty⟩] ∧
      PlainPass (commonPass (commonClients.losing ["c"] .cancelled)) 0
        [⟨after, .legacy, .empty⟩] ∧
      before.SplitInto "c__a__b" "__10.0.0.1__10.0.0.2" ∧ before.labels ≠ after.labels ∧
      exporter.Relabels (VolumeRecord.observation ⟨after, .zero⟩) ∧
      ¬exporter.Relabels (VolumeRecord.observation ⟨before, .zero⟩) := by
  intro before after exporter
  have pass : PlainPass (commonPass commonClients) 0 [⟨before, .legacy, .empty⟩] :=
    commonPass_plain rfl rfl
  have pass' : PlainPass (commonPass (commonClients.losing ["c"] .cancelled)) 0
      [⟨after, .legacy, .empty⟩] := commonPass_plain rfl rfl
  have plain := labels_tell_mapped_volumes.1 pass _ (List.mem_singleton_self _)
  have plain' := labels_tell_mapped_volumes.1 pass' _ (List.mem_singleton_self _)
  have told := labels_tell_mapped_volumes.2 plain plain'
  have again := labels_tell_mapped_volumes.2 plain plain
  have different : before ≠ after := by decide
  have last : (Exporter.start Registry.empty).LastRecords
      [.volume ⟨before, .zero⟩, .volume .keepAlive] before := Exporter.lastRecords_of_latest rfl
  rcases told.1 with ⟨ids, ips, split⟩
  cases split.ids_label
  cases split.ips_label
  refine ⟨pass, pass', split, mt told.2.labels_iff.mp different, ?_, ?_⟩
  · exact (told.2.relabelled rfl _ _ last .zero).relabels_iff.mpr different.symm
  · exact fun relabels => (again.2.relabelled rfl _ _ last .zero).relabels_iff.mp relabels rfl

end StorageTelemetry
