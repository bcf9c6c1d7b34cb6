import StorageTelemetry.Proofs.Collection.VolumeEnumeration

namespace StorageTelemetry

/-!
# The entity that stands for no volumes

A pass that finds no volume records one entity with blank labels and zero
figures, and sends nothing but listing requests.  A pass that finds volumes
leaves that entity alone, also if none of the volumes has statistics: nothing is
recorded then, and the count is zero.
-/

open Routine

/-! ## No volumes -/

section

variable {client : Client} (inventory : Inventory) (bound : Nat) (drivers : List String)
  {now : Instant} {generation : Generation} {sdcs : List Sdc}

/-- A pass finds no volume exactly if none that its drivers declare is mapped. -/
theorem no_volumes_iff (answered : (client.generation now).outcome = .done generation)
    (listed : (client.sdcs (generationTime client now)).outcome = .done sdcs)
    (lists : client.ListsVolumes) :
    (enumerateVolumes ⟨client, inventory.discovery, bound, drivers⟩ now).outcome = .done [] ↔
      ∀ entry ∈ drivers.flatMap inventory.volumesOf,
        entry.volumeId ∉ (passMappings client inventory drivers sdcs now).map (·.2.id) := by
  rcases enumeratesVolumes_of_answers inventory bound drivers answered listed lists with
    ⟨found, finds, returns⟩
  constructor
  · intro none entry declared mapped
    rcases returns.returned [] none with ⟨batch, nothing⟩
    rcases List.map_eq_nil_iff.mp nothing.symm with rfl
    exact List.not_mem_nil ((finds.mem_iff entry.volumeId).mpr
      ⟨List.mem_map_of_mem declared, mapped⟩)
  · intro unmapped
    have nothing : found = [] := by
      apply List.eq_nil_iff_forall_not_mem.mpr
      intro volume member
      rcases (finds.mem_iff volume.id).mp (List.mem_map_of_mem member) with ⟨declared, mapped⟩
      rcases List.mem_map.mp declared with ⟨entry, own, same⟩
      exact unmapped entry own (same ▸ mapped)
    rcases nothing with rfl
    rcases returns.returns_iff.mpr fun _ fails => fails.1 rfl with ⟨items, ended⟩
    rcases returns.returned items ended with ⟨batch, rfl⟩
    exact ended

end

/-! ## Passes without volumes -/

/-- The labels of the entity that stands for no volumes. -/
def blankLabels : LabelSet := ⟨EntityKind.volume.labelKeys.map fun key => (key, "")⟩

/-- The series of the entity that stands for no volumes. -/
def blankSeries : List ExportedSeries :=
  EntityKind.volume.series.map fun spec =>
    ⟨EntityKind.volume.seriesName spec, spec.help, "gauge", sortLabels blankLabels.pairs, .zero⟩

/-- What a pass without volumes comes to: it counts one, records a blank entity
with zero figures, and leaves all others alone. -/
structure KeepsAlive (exporter : Exporter Registry Handle) (result : Outcome Fault Nat)
    (final : Exporter Registry Handle) : Prop where
  counts : result = .done 1
  labels : final.cache.labels? .volume "" = some blankLabels
  series : (final.meter.seriesOf (.volume, "")).Perm blankSeries
  others : ∀ entity, entity ≠ (.volume, "") → final.AgreesOn exporter entity

section

variable {context : CollectionContext} {now : Instant} {exporter final : Exporter Registry Handle}
  {result : Outcome Fault Nat}

/-- Pushing the one record of a pass without volumes. -/
theorem KeepAliveRun.keepsAlive (reached : exporter.Reached) {count : Nat}
    (run : KeepAliveRun exporter count final) : KeepsAlive exporter (.done count) final := by
  let blank := VolumeRecord.keepAlive.observation
  rcases run.exists_pushed with ⟨rfl, rfl⟩
  rcases reached.realizes with ⟨earlier, realizes⟩
  rcases volumeSink_records.pushAll (Registry.view_lawful exporter.meter.bare) id realizes
    [.keepAlive] with ⟨length, after⟩
  have latest : latest? (earlier ++ [blank]) (.volume, "") = some blank := by
    rw [latest?_concat]
    rfl
  constructor
  · rw [length]
    rfl
  · rw [after.labels?_eq]
    exact congrArg (Option.map (·.labels)) latest
  · have shown := after.seriesOf_perm (.volume, "")
    change List.Perm _ (((latest? (earlier ++ [blank]) _).map (·.exported)).getD []) at shown
    rw [latest] at shown
    exact shown
  · intro entity other
    apply after.agreesOn realizes
    apply latest?_append_of_others
    intro o member same
    rw [List.mem_singleton.mp member] at same
    exact other same.symm

/-- A pass without volumes sends listing requests only. -/
theorem calls_of_no_volumes {μ η : Type} [Meter μ η] (exporter : Exporter μ η)
    (ended : (enumerateVolumes context now).outcome = .done []) :
    ∀ call ∈ (collect context .volume now exporter).calls, call.2.IsListing := by
  have same : (collect context .volume now exporter).calls =
      (enumerateVolumes context now).calls := by
    apply calls_afterEnumeration
    intro items found moment
    cases ended.symm.trans found
    rfl
  rw [enumerateVolumes_eq] at ended
  rcases (volumeReader context).exists_find_of_done ended with
    ⟨generation, found, batch, begun, none⟩
  rcases List.map_eq_nil_iff.mp none.symm with rfl
  rw [same, enumerateVolumes_eq, (volumeReader context).calls_of_done begun,
    batchRequests_of_nil rfl, List.append_nil]
  exact (volumeReader context).lists now

/-! ## Passes with volumes -/

/-- Whether no volume has statistics at any moment. -/
def NoneAnswers (client : Client) (retrievers : List VolumeRetriever) : Prop :=
  ∀ retriever ∈ retrievers, ∀ moment statistics,
    (retriever.statistics client moment).outcome ≠ .done statistics

/-- What a pass with volumes comes to, as far as the entity is concerned that
stands for no volumes. -/
structure LeavesBlank (client : Client) (retrievers : List VolumeRetriever)
    (exporter : Exporter Registry Handle) (result : Outcome Fault Nat)
    (final : Exporter Registry Handle) : Prop where
  counts : ∃ count, result = .done count
  untouched : "" ∉ retrievers.map (·.entity.id) → final.AgreesOn exporter (.volume, "")
  silent : NoneAnswers client retrievers → result = .done 0 ∧ final = exporter

/-- Volumes without statistics give no records. -/
theorem recordsFrom_of_noneAnswers {client : Client} {retrievers : List VolumeRetriever}
    (none : NoneAnswers client retrievers) {starts : List (VolumeRetriever × Instant)}
    (items : starts.map (·.1) = retrievers) :
    recordsFrom (·.record client) starts = [] := by
  apply List.filterMap_eq_nil_iff.mpr
  rintro ⟨retriever, start⟩ member
  cases ended : (retriever.record client start).outcome with
  | done record =>
      rcases outcome_bind_eq_done_iff.mp ended with ⟨statistics, answered, -⟩
      have listed : retriever ∈ retrievers := items ▸ List.mem_map_of_mem (f := Prod.fst) member
      exact absurd answered (none retriever listed start statistics)
  | failed fault => simp only [ended, Outcome.value?]
  | panicked panic => simp only [ended, Outcome.value?]

/-- A run over volumes leaves the entity alone that stands for none. -/
theorem PipelineRun.leavesBlank (reached : exporter.Reached) {client : Client} {bound count : Nat}
    {retrievers : List VolumeRetriever}
    (run : PipelineRun bound (·.record client) volumeSink retrievers exporter count final) :
    LeavesBlank client retrievers exporter (.done count) final := by
  constructor
  · exact ⟨count, rfl⟩
  · intro absent
    rcases run.exists_records fun retriever => retriever.record_gives client with
      ⟨pushed, rfl, given⟩
    rw [volumeSink_calls.pushAll]
    apply Exporter.agreesOn_callAll reached
    intro call made o told same
    rcases List.mem_map.mp made with ⟨record, listed, rfl⟩
    rcases given record listed with ⟨retriever, among, own⟩
    rw [List.mem_singleton.mp told] at same
    have blank : record.entity.id = "" := congrArg Prod.snd same
    exact absent (List.mem_map.mpr ⟨retriever, among, own ▸ blank⟩)
  · intro none
    rcases run.exists_starts with ⟨starts, pushed, items, perm, rfl, rfl⟩
    rw [recordsFrom_of_noneAnswers none items] at perm
    rw [perm.eq_nil]
    exact ⟨rfl, rfl⟩

/-! ## Any pass -/

/-- Over a registry, from any exporter that can come about, a pass over volumes
records the entity that stands for no volumes if it finds none, and otherwise
leaves it alone, in whatever order workers and push tasks move.  Without volumes
it sends listing requests only.  The pass on the clock is one of these runs. -/
theorem blank_entity_stands_for_no_volumes (context : CollectionContext)
    (exporter : Exporter Registry Handle) (reached : exporter.Reached) (now : Instant) :
    ((enumerateVolumes context now).outcome = .done [] →
      (∀ result final, PassRun context .volume now exporter result final →
        KeepsAlive exporter result final) ∧
      ∀ call ∈ (collect context .volume now exporter).calls, call.2.IsListing) ∧
    (∀ retrievers, retrievers ≠ [] →
      (enumerateVolumes context now).outcome = .done retrievers →
        ∀ result final, PassRun context .volume now exporter result final →
          LeavesBlank context.client retrievers exporter result final) ∧
    PassRun context .volume now exporter (collect context .volume now exporter).result
      (collect context .volume now exporter).exporter := by
  refine ⟨fun ended => ⟨?_, calls_of_no_volumes exporter ended⟩, ?_,
    collect_is_run context .volume now exporter⟩
  · intro result final run
    rcases RunAfter.of_done run ended with ⟨count, rfl, ran⟩
    exact KeepAliveRun.keepsAlive reached ran
  · intro retrievers some ended result final run
    rcases RunAfter.of_done run ended with ⟨count, rfl, ran⟩
    rw [if_neg (by simpa using some)] at ran
    exact ran.leavesBlank reached

end

/-- The nodes of the sharing data clients without any volume of theirs. -/
def unmanagedPass : CollectionContext :=
  ⟨sharingClients, { sharingInventory with volumes := [] }.discovery, 2, ["driver"]⟩

/-- A pass over these nodes keeps the blank entity alive, and a later one, in
which volumes are found but none has statistics, records nothing. -/
theorem unmanagedPass_keeps_alive :
    let first := collect unmanagedPass .volume 0 (Exporter.start Registry.empty)
    let later := collect ⟨sharingClients, sharingInventory.discovery, 2, ["driver"]⟩ .volume 9
      first.exporter
    KeepsAlive (.start .empty) first.result first.exporter ∧ later.result = .done 0 ∧
      later.exporter = first.exporter := by
  intro first later
  have listed : (sharingClients.sdcs 0).outcome = .done sharingSdcs := rfl
  have none : (enumerateVolumes unmanagedPass 0).outcome = .done [] :=
    (no_volumes_iff _ 2 ["driver"] rfl listed sharingClients_lists).mpr nofun
  rcases blank_entity_stands_for_no_volumes unmanagedPass (.start .empty) .start 0 with
    ⟨alone, -, ran⟩
  have reached : first.exporter.Reached := ran.callsOf.reached .start
  rcases blank_entity_stands_for_no_volumes
    ⟨sharingClients, sharingInventory.discovery, 2, ["driver"]⟩ first.exporter reached 9 with
    ⟨-, among, ranLater⟩
  have silent : later.result = .done 0 ∧ later.exporter = first.exporter := by
    apply (among _ (List.cons_ne_nil _ _) rfl _ _ ranLater).silent
    intro retriever member moment statistics
    rcases List.mem_pair.mp member with rfl | rfl
    · exact nofun
    · exact nofun
  exact ⟨(alone none).1 _ _ ran, silent⟩

end StorageTelemetry
