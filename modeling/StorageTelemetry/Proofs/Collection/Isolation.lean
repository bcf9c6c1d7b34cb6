import StorageTelemetry.Proofs.Collection.LegacyPasses
import StorageTelemetry.Proofs.Collection.PassRuns

namespace StorageTelemetry

/-!
# Entities do not disturb one another

Two gateways of which one answers differently about the statistics of one entity
are compared.  The same entities are found on both, so a run of a pass on the one
is matched by the run on the other that reads every group from the same moment
on and pushes the records in the same order.  What is observed of any other
entity is the same in both.
-/

open PolledEntity Routine

/-! ## Gateways that differ about one entity -/

/-- Whether gateways of legacy systems differ at most in what they answer about
the statistics of one entity.  How long they take for this answer may differ too
if answers do not depend on when they are asked for. -/
structure Client.SameBeside (client other : Client) (entity : Entity) : Prop where
  generation : client.generation = other.generation
  sdcs : client.sdcs = other.sdcs
  sdcVolumes : client.sdcVolumes = other.sdcVolumes
  pools : client.pools = other.pools
  statistics : ∀ another, another ≠ entity → client.statistics another = other.statistics another
  delay : client.Fixed ∨
    ∀ now, (client.statistics entity now).delay = (other.statistics entity now).delay

theorem Client.Fixed.statistics {client : Client} (fixed : client.Fixed) (entity : Entity)
    (now moment : Instant) :
    (client.statistics entity now).outcome = (client.statistics entity moment).outcome := by
  obtain ⟨kind, id⟩ := entity
  cases kind with
  | sdc => exact fixed.sdcStatistics id now moment
  | volume => exact fixed.volumeStatistics id now moment
  | storagePool => exact fixed.poolStatistics id now moment

/-- What remains of observations if one entity is left out. -/
def beside (entity : Entity) (observations : List Observation) : List Observation :=
  observations.filter fun o => o.entity ≠ entity

theorem beside_append (entity : Entity) (first second : List Observation) :
    beside entity (first ++ second) = beside entity first ++ beside entity second :=
  List.filter_append ..

/-- Leaving out one entity does not change which observation of another is the
latest. -/
theorem latest?_beside {entity another : Entity} (different : another ≠ entity)
    (observations : List Observation) :
    latest? (beside entity observations) another = latest? observations another :=
  latest?_filter observations fun _ own => decide_eq_true (own ▸ different)

section

variable {client other : Client} {entity : Entity} (same : client.SameBeside other entity)
include same

/-- Reading a group observes the same of all entities but one. -/
theorem Client.SameBeside.readAll (group : List PolledEntity) {now moment : Instant}
    (moments : client.Fixed ∨ now = moment) :
    beside entity (PolledEntity.readAll client group now) =
      beside entity (PolledEntity.readAll other group moment) := by
  induction group generalizing now moment with
  | nil => rfl
  | cons polled rest ih =>
      rw [PolledEntity.readAll, PolledEntity.readAll, beside_append, beside_append]
      by_cases changed : polled.entity = entity
      · have nothing : ∀ client now,
            beside entity (polled.reading? client now).toList = [] := by
          intro client now
          refine List.filter_eq_nil_iff.mpr fun o read => ?_
          simp [entity_of_reading? (Option.mem_toList.mp read), changed]
        rw [nothing, nothing]
        refine congrArg ([] ++ ·) (ih ?_)
        rcases moments with fixed | rfl
        · exact Or.inl fixed
        · exact same.delay.imp_right fun delay => changed ▸ congrArg (now + ·) (delay now)
      · have answers := same.statistics polled.entity changed
        have observed : polled.reading? client now = polled.reading? other moment := by
          rw [reading?, reading?, ← answers]
          rcases moments with fixed | rfl
          · rw [fixed.statistics polled.entity now moment]
          · rfl
        rw [observed]
        refine congrArg (beside entity _ ++ ·) (ih ?_)
        exact moments.imp_right fun at_once => by rw [at_once, answers]

/-- What is read of groups from the same moments on is the same of all entities
but one. -/
theorem Client.SameBeside.readingsFrom (starts : List (List PolledEntity × Instant)) :
    beside entity (StorageTelemetry.readingsFrom client starts).flatten =
      beside entity (StorageTelemetry.readingsFrom other starts).flatten := by
  have flat : ∀ client, (StorageTelemetry.readingsFrom client starts).flatten =
      starts.flatMap fun entry => PolledEntity.readAll client entry.1 entry.2 := by
    intro client
    rw [StorageTelemetry.readingsFrom, List.filterMap_eq_flatMap_toList, ← List.flatMap_id,
      List.flatMap_assoc]
    refine List.flatMap_congr fun entry _ => ?_
    rw [List.flatMap_id, flatten_readGroup?]
  rw [flat, flat, beside, beside, List.filter_flatMap, List.filter_flatMap]
  exact List.flatMap_congr fun entry _ => same.readAll entry.1 (Or.inr rfl)

end

/-! ## Matching runs -/

/-- Whatever order results of items are in, there is an order of the items that
gives it. -/
theorem exists_perm_filterMap {α β : Type} {f : α → Option β} {items : List α}
    {picked : List β} (perm : picked.Perm (items.filterMap f)) :
    ∃ order : List α, order.Perm items ∧ picked = order.filterMap f := by
  induction items generalizing picked with
  | nil => exact ⟨[], List.Perm.refl _, perm.eq_nil⟩
  | cons item rest ih =>
      cases gave : f item with
      | none =>
          rw [List.filterMap_cons_none gave] at perm
          obtain ⟨order, ordered, rfl⟩ := ih perm
          exact ⟨item :: order, ordered.cons item, (List.filterMap_cons_none gave).symm⟩
      | some result =>
          rw [List.filterMap_cons_some gave] at perm
          obtain ⟨before, after, rfl⟩ := List.append_of_mem (perm.mem_iff.mpr List.mem_cons_self)
          obtain ⟨order, ordered, split⟩ := ih (perm.symm.trans List.perm_middle).cons_inv.symm
          obtain ⟨first, second, rfl, rfl, rfl⟩ := List.filterMap_eq_append_iff.mp split.symm
          refine ⟨first ++ item :: second, List.perm_middle.trans (ordered.cons item), ?_⟩
          rw [List.filterMap_append, List.filterMap_cons_some gave]

section

variable {client other : Client} {entity : Entity} {exporter final : Exporter Registry Handle}
  {ι ρ : Type} {observations : ρ → List Observation} {sink : Sink ρ (Exporter Registry Handle)}
  {group : ι → List PolledEntity} {items : List ι}

/-- A run of the pipeline over items that read their groups on one gateway is
matched by one over items that read them on the other. -/
theorem PipelineRun.matched {bound count : Nat} (same : client.SameBeside other entity)
    (records : sink.Records observations) (reached : exporter.Reached)
    {work work' : ι → Routine ρ}
    (polls : ∀ item ∈ items, ∀ moment,
      (work item moment).Polls client observations (group item) moment)
    (polls' : ∀ item ∈ items, ∀ moment,
      (work' item moment).Polls other observations (group item) moment)
    (run : PipelineRun bound work sink items exporter count final) :
    ∃ count' final', PipelineRun bound work' sink items exporter count' final' ∧
      ∀ another, another ≠ entity → final.AgreesOn final' another := by
  obtain ⟨starts, pushed, rfl, perm, rfl, rfl⟩ := run.exists_starts
  obtain ⟨order, ordered, rfl⟩ := exists_perm_filterMap perm
  refine ⟨_, _, pipelineRun_iff.mpr ⟨starts, recordsFrom work' order, rfl,
    ordered.filterMap _, rfl, rfl⟩, fun another different => ?_⟩
  have listed : ∀ entry ∈ order, entry.1 ∈ starts.map (·.1) := fun entry member =>
    List.mem_map_of_mem (ordered.mem_iff.mp member)
  have read := map_recordsFrom fun entry member => polls entry.1 (listed entry member) entry.2
  have read' := map_recordsFrom fun entry member => polls' entry.1 (listed entry member) entry.2
  obtain ⟨earlier, realizes⟩ := reached.realizes
  have lawful := Registry.view_lawful exporter.meter.bare
  have after := (records.pushAll lawful id realizes (recordsFrom work order)).2
  have after' := (records.pushAll lawful id realizes (recordsFrom work' order)).2
  refine after.agreesOn after' ?_
  rw [latest?_append, latest?_append, List.flatMap_def, List.flatMap_def, read, read',
    ← latest?_beside different, same.readingsFrom, latest?_beside different]

/-- A pass is matched on another gateway if its enumeration ends the same way
there and what follows is matched. -/
theorem RunAfter.matched {enumerate enumerate' : Routine (List ι)} {now : Instant}
    (found : (enumerate' now).outcome = (enumerate now).outcome) {result : Outcome Fault Nat}
    {run run' : List ι → Exporter Registry Handle → Nat → Exporter Registry Handle → Prop}
    (each : ∀ items count, (enumerate now).outcome = .done items →
      run items exporter count final → ∃ count' final', run' items exporter count' final' ∧
        ∀ another, another ≠ entity → final.AgreesOn final' another)
    (ran : RunAfter enumerate run now exporter result final) :
    ∃ result' final', RunAfter enumerate' run' now exporter result' final' ∧
      ∀ another, another ≠ entity → final.AgreesOn final' another := by
  unfold RunAfter at ran ⊢
  rw [found]
  cases ended : (enumerate now).outcome with
  | done items =>
      rw [ended] at ran
      obtain ⟨count, -, ran⟩ := ran
      obtain ⟨count', final', matched, agrees⟩ := each items count ended ran
      exact ⟨.done count', final', ⟨count', rfl, matched⟩, agrees⟩
  | failed fault =>
      rw [ended] at ran
      obtain ⟨-, rfl⟩ := ran
      exact ⟨_, final, ⟨rfl, rfl⟩, fun another _ => Exporter.AgreesOn.refl _ another⟩
  | panicked panic =>
      rw [ended] at ran
      obtain ⟨-, rfl⟩ := ran
      exact ⟨_, final, ⟨rfl, rfl⟩, fun another _ => Exporter.AgreesOn.refl _ another⟩

end

/-! ## Enumeration -/

/-- The same context with another gateway. -/
def CollectionContext.on (context : CollectionContext) (client : Client) : CollectionContext :=
  { context with client }

section

variable {context : CollectionContext} {other : Client} {entity : Entity}
  (same : context.client.SameBeside other entity)
include same

theorem resolveSdcs_on : resolveSdcs (context.on other) = resolveSdcs context := by
  unfold resolveSdcs Client.askGeneration Client.askSdcs
  rw [same.generation, same.sdcs]
  rfl

theorem visitSdcs_on (managed : Table String VolumeEntry) (sdcs : List SdcMeta)
    (entities : List VolumeMeta) :
    visitSdcs other managed sdcs entities = visitSdcs context.client managed sdcs entities := by
  induction sdcs generalizing entities with
  | nil => rfl
  | cons sdc rest ih =>
      unfold visitSdcs Client.askSdcVolumes
      simp only [same.sdcVolumes, ih]

theorem findVolumes_on : findVolumes (context.on other) = findVolumes context := by
  unfold findVolumes
  rw [resolveSdcs_on same]
  simp only [CollectionContext.on, visitSdcs_on same]

theorem findClasses_on : findClasses (context.on other) = findClasses context := by
  unfold findClasses Client.askGeneration Client.askPools
  rw [same.generation, same.pools]
  rfl

/-- Readers that find and retrieve the same enumerate the same on a legacy
system. -/
theorem PollReader.enumerate_on {ε ι ρ : Type} {now : Instant}
    (legacy : (context.client.generation now).outcome = .done .legacy)
    (reader : PollReader context ε ι ρ) (reader' : PollReader (context.on other) ε ι ρ)
    (finds : reader'.find = reader.find) (retrieves : reader'.retriever = reader.retriever) :
    reader'.enumerate now = reader.enumerate now := by
  have legacy' : ((context.on other).client.generation now).outcome = .done .legacy :=
    same.generation ▸ legacy
  rw [reader'.enumerate_eq legacy', reader.enumerate_eq legacy, finds, retrieves]

/-- Every run of a pass is matched on the other gateway. -/
theorem PassRun.matched {kind : EntityKind} {exporter final : Exporter Registry Handle}
    {result : Outcome Fault Nat} {now : Instant}
    (legacy : (context.client.generation now).outcome = .done .legacy)
    (calm : context.client.Calm) (calm' : other.Calm) (reached : exporter.Reached)
    (run : PassRun context kind now exporter result final) :
    ∃ result' final', PassRun (context.on other) kind now exporter result' final' ∧
      ∀ another, another ≠ entity → final.AgreesOn final' another := by
  have legacy' : ((context.on other).client.generation now).outcome = .done .legacy :=
    same.generation ▸ legacy
  have reads := readsGroups legacy calm kind
  have reads' : ReadsGroups (context.on other) now kind := readsGroups legacy' calm' kind
  cases kind with
  | sdc =>
      have found : enumerateSdcs (context.on other) now = enumerateSdcs context now := by
        rw [enumerateSdcs_eq, enumerateSdcs_eq]
        exact PollReader.enumerate_on same legacy (sdcPolls context) (sdcPolls _)
          (resolveSdcs_on same) rfl
      refine RunAfter.matched (congrArg Completion.outcome found) ?_ run
      intro retrievers count ended ran
      exact ran.matched same sdcSink_records reached (reads retrievers ended).2
        (reads' retrievers (found ▸ ended)).2
  | volume =>
      have found : enumerateVolumes (context.on other) now = enumerateVolumes context now := by
        rw [enumerateVolumes_eq, enumerateVolumes_eq]
        exact PollReader.enumerate_on same legacy (volumePolls context) (volumePolls _)
          (findVolumes_on same) rfl
      refine RunAfter.matched (congrArg Completion.outcome found) ?_ run
      intro retrievers count ended ran
      by_cases none : retrievers.isEmpty = true
      · simp only [if_pos none] at ran ⊢
        exact ⟨count, final, ran, fun another _ => Exporter.AgreesOn.refl _ another⟩
      · simp only [if_neg none] at ran ⊢
        exact PipelineRun.matched same volumeSink_records reached (reads retrievers ended).2
          (reads' retrievers (found ▸ ended)).2 ran
  | storagePool =>
      have found : enumerateStorageClasses (context.on other) now =
          enumerateStorageClasses context now := by
        rw [enumerateStorageClasses_eq, enumerateStorageClasses_eq]
        exact PollReader.enumerate_on same legacy (classPolls context) (classPolls _)
          (findClasses_on same) rfl
      refine RunAfter.matched (congrArg Completion.outcome found) ?_ run
      intro retrievers count ended ran
      exact ran.matched same storageClassSink_records reached (reads retrievers ended).2
        (reads' retrievers (found ▸ ended)).2

/-- Nodes are apart on the other gateway too. -/
theorem CollectionContext.NodesApart.on (apart : context.NodesApart) :
    (context.on other).NodesApart := by
  unfold NodesApart
  rwa [resolveSdcs_on same]

end

/-! ## One by one -/

/-- What a pass asks for that reads entities one by one: first listings, then
the statistics of each entity that was listed, and nothing in bulk. -/
structure AsksOneByOne (calls : List (Instant × Request))
    (listing : Completion (List (List PolledEntity))) : Prop where
  requests : calls.map (·.2) = listing.calls.map (·.2) ++ statisticsRequests listing
  lists : ∀ call ∈ listing.calls, call.2.IsListing
  single : ∀ call ∈ calls, ∀ query, call.2 ≠ .bulk query

/-- What passes on two gateways have in common that differ about one entity:
every run on the one is matched by a run on the other after which all other
entities look the same.  If answers do not depend on when they are asked for,
and no two nodes share a data client, then all runs are alike in this respect. -/
structure Undisturbed (context : CollectionContext) (other : Client) (kind : EntityKind)
    (entity : Entity) (now : Instant) (exporter : Exporter Registry Handle) : Prop where
  matched : ∀ result final, PassRun context kind now exporter result final →
    ∃ result' final', PassRun (context.on other) kind now exporter result' final' ∧
      ∀ another, another ≠ entity → final.AgreesOn final' another
  alike : context.client.Fixed → other.Fixed → (kind = .sdc → context.NodesApart) →
    ∀ result final result' final', PassRun context kind now exporter result final →
      PassRun (context.on other) kind now exporter result' final' →
        ∀ another, another ≠ entity → final.AgreesOn final' another

theorem CollectionContext.asksOneByOne {context : CollectionContext} {now : Instant}
    (legacy : (context.client.generation now).outcome = .done .legacy)
    (calm : context.client.Calm) (kind : EntityKind) (exporter : Exporter Registry Handle) :
    AsksOneByOne (collect context kind now exporter).calls (pollGroups context kind now) := by
  have requests := requests_collect legacy calm kind exporter
  have lists : ∀ call ∈ (pollGroups context kind now).calls, call.2.IsListing :=
    pollGroups_asks kind now
  refine ⟨requests, lists, fun call made query bulk => ?_⟩
  have among := List.mem_map_of_mem (f := Prod.snd) made
  rw [requests] at among
  rcases List.mem_append.mp among with listed | asked
  · obtain ⟨call', made', same⟩ := List.mem_map.mp listed
    have listing := lists call' made'
    rw [same, bulk] at listing
    exact listing
  · exact not_bulk_of_mem_statisticsRequests asked query bulk

/-- On a gateway with fixed answers all runs leave exporters that are alike. -/
theorem PassRun.alike_in_order {context : CollectionContext} {kind : EntityKind}
    {exporter final : Exporter Registry Handle} {result : Outcome Fault Nat} {now : Instant}
    (run : PassRun context kind now exporter result final) (fixed : context.client.Fixed)
    (apart : kind = .sdc → context.NodesApart) (reached : exporter.Reached) (moment : Instant) :
    final.Alike (passInOrder context kind moment exporter).2 := by
  cases kind with
  | sdc => exact (sdcRun_agrees fixed (apart rfl) reached run moment).2
  | volume => exact (volumeRun_agrees fixed reached run moment).2
  | storagePool => exact (storageClassRun_agrees fixed reached run moment).2

theorem Client.SameBeside.undisturbed {context : CollectionContext} {other : Client}
    {kind : EntityKind} {entity : Entity} {now : Instant} {exporter : Exporter Registry Handle}
    (same : context.client.SameBeside other entity)
    (legacy : (context.client.generation now).outcome = .done .legacy)
    (calm : context.client.Calm) (calm' : other.Calm) (reached : exporter.Reached) :
    Undisturbed context other kind entity now exporter := by
  refine ⟨fun result final run => run.matched same legacy calm calm' reached, ?_⟩
  intro fixed fixed' apart result final result' final' run run' another different
  obtain ⟨_, matching, run'', agrees⟩ := run.matched same legacy calm calm' reached
  have apart' : kind = .sdc → (context.on other).NodesApart := fun sdcs => (apart sdcs).on same
  have alike := run''.alike_in_order fixed' apart' reached now
  have alike' := run'.alike_in_order fixed' apart' reached now
  exact (agrees another different).trans
    ((alike.agreesOn another).trans (alike'.agreesOn another).symm)

/-- On a legacy system and over a registry, a pass over any kind reads entities
one by one, from any exporter that can come about, whatever is declared and
listed, and whichever requests for statistics succeed: each group that was found
has one retriever, each entity is asked about once, as many records are counted
as groups gave one, and an entity that did not answer is left alone.  Only a pass
without volumes counts a record that no retriever gave.

What a gateway answers about the statistics of one entity makes no difference to
any other entity.  The pass on the clock is one of the runs. -/
theorem legacy_pass_reads_one_by_one (context : CollectionContext) (kind : EntityKind)
    (exporter : Exporter Registry Handle) (reached : exporter.Reached) (now : Instant)
    (legacy : (context.client.generation now).outcome = .done .legacy)
    (calm : context.client.Calm) :
    (∀ result final, PassRun context kind now exporter result final →
      OneByOne context.client kind (pollGroups context kind now) exporter result final) ∧
    PassRun context kind now exporter (collect context kind now exporter).result
      (collect context kind now exporter).exporter ∧
    AsksOneByOne (collect context kind now exporter).calls (pollGroups context kind now) ∧
    ReadsGroups context now kind ∧
    ∀ other entity, context.client.SameBeside other entity → other.Calm →
      Undisturbed context other kind entity now exporter :=
  ⟨fun _ _ run => passRun_oneByOne legacy calm reached run,
    collect_is_run context kind now exporter,
    context.asksOneByOne legacy calm kind exporter, readsGroups legacy calm kind,
    fun _ _ same calm' => same.undisturbed legacy calm calm' reached⟩

/-- The gateway of the two data clients if the second had statistics too. -/
def bothAnswer : Client :=
  { twoClients.client with
    sdcStatistics := fun id now =>
      if id = "b" then ⟨now, .done ⟨.empty, .empty, .empty, .empty⟩⟩
      else twoClients.client.sdcStatistics id now }

theorem twoClients_sameBeside : twoClients.client.SameBeside bothAnswer (.sdc, "b") := by
  refine ⟨rfl, rfl, rfl, rfl, ?_, Or.inl twoClients_fixed⟩
  rintro ⟨kind, id⟩ different
  cases kind with
  | sdc =>
      funext now
      have first : id ≠ "b" := fun same => different (congrArg (Prod.mk EntityKind.sdc) same)
      exact (if_neg first).symm
  | volume => rfl
  | storagePool => rfl

theorem bothAnswer_fixed : bothAnswer.Fixed := by
  refine { twoClients_fixed with sdcStatistics := fun id now moment => ?_ }
  by_cases second : id = "b"
  · simp [bothAnswer, second]
  · simpa [bothAnswer, second] using twoClients_fixed.sdcStatistics id now moment

/-- A pass over these data clients asks about both and counts one, and the first
looks the same as if the second had statistics. -/
theorem twoClients_undisturbed :
    let pass := collect twoClients .sdc 0 (Exporter.start Registry.empty)
    let pass' := collect (twoClients.on bothAnswer) .sdc 0 (Exporter.start Registry.empty)
    pass.result = .done 1 ∧
      pass.calls.map (·.2) = [.generation, .sdcs, .sdcStatistics "a", .sdcStatistics "b"] ∧
      pass.exporter.AgreesOn pass'.exporter (.sdc, "a") := by
  have calm : ∀ client : Client, client.poolStatistics = twoClients.client.poolStatistics →
      client.Calm := by
    intro client same id now panic
    rw [same]
    exact nofun
  obtain ⟨sound, runs, asked, -, undisturbed⟩ := legacy_pass_reads_one_by_one twoClients .sdc
    (.start .empty) .start 0 rfl (calm _ rfl)
  have pass' := collect_is_run (twoClients.on bothAnswer) .sdc 0 (Exporter.start Registry.empty)
  refine ⟨?_, asked.requests.trans rfl, ?_⟩
  · obtain ⟨starts, count, about, counted, pushes⟩ := (sound _ _ runs).each _ rfl
    have listed : starts.map (·.1) = [[SdcMeta.polled ⟨"a", "", "", "first", ""⟩],
        [SdcMeta.polled ⟨"b", "", "", "second", ""⟩]] := about
    obtain ⟨⟨_, first⟩, _, rfl, rfl, others⟩ := List.map_eq_cons_iff.mp listed
    obtain ⟨⟨_, second⟩, _, rfl, rfl, none⟩ := List.map_eq_cons_iff.mp others
    obtain rfl := List.map_eq_nil_iff.mp none
    rw [counted, pushes.1]
    rfl
  · exact (undisturbed _ _ twoClients_sameBeside (calm _ rfl)).alike twoClients_fixed
      bothAnswer_fixed (fun _ => twoClients_apart) _ _ _ _ runs pass' (.sdc, "a") (by decide)

/-- A pass that finds no volume counts the blank one, which no retriever gave. -/
theorem blank_volume_counted :
    (twoClients.client.generation 0).outcome = .done .legacy ∧
      (enumerateVolumes twoClients 0).outcome = .done [] ∧
      (collect twoClients .volume 0 (Exporter.start Registry.empty)).result = .done 1 :=
  ⟨rfl, rfl, rfl⟩

end StorageTelemetry
