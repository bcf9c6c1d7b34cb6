import StorageTelemetry.Proofs.Collection.BulkPasses
import StorageTelemetry.Proofs.Collection.LegacyReading
import StorageTelemetry.Proofs.Recording.EntityViews

namespace StorageTelemetry

/-!
# Legacy passes

On a legacy system there is no batch that all entities of a pass depend on.  A
pass asks for the statistics of each entity once, and its run pushes what the
groups have observed, each read from some moment on.  An entity about which
nothing was observed is not touched.
-/

open PolledEntity Routine

/-! ## Enumeration -/

namespace PollReader

variable {context : CollectionContext} {ε ι ρ : Type} {reader : PollReader context ε ι ρ}
  {now : Instant}

/-- On a legacy system retrievers are made without fetching anything. -/
theorem enumerate_eq (legacy : (context.client.generation now).outcome = .done .legacy) :
    reader.enumerate now = (reader.find >>= fun found =>
      done (found.2.map (reader.retriever .legacy .empty))) now := by
  unfold BulkReader.enumerate
  cases ended : (reader.find now).outcome with
  | done value =>
      obtain ⟨generation, found⟩ := value
      obtain rfl := reader.passes now .legacy legacy generation found ended
      rw [bind_of_done ended, bind_of_done ended]
      rfl
  | failed fault => rw [bind_of_failed ended, bind_of_failed ended]
  | panicked panic => rw [bind_of_panicked ended, bind_of_panicked ended]

/-- The retrievers of a pass are for the groups that were found, and are
enumerated by the same requests. -/
theorem groups_eq (legacy : (context.client.generation now).outcome = .done .legacy) :
    (reader.groups now).outcome = (reader.enumerate now).outcome.map (List.map reader.group) ∧
      (reader.groups now).calls = (reader.enumerate now).calls := by
  rw [enumerate_eq legacy, groups]
  cases ended : (reader.find now).outcome with
  | done value =>
      rw [bind_of_done ended, bind_of_done ended]
      refine ⟨congrArg Outcome.done ?_, rfl⟩
      rw [List.map_map]
      exact List.map_congr_left fun item _ => (reader.group_retriever .legacy .empty item).symm
  | failed fault =>
      rw [bind_of_failed ended, bind_of_failed ended]
      exact ⟨rfl, rfl⟩
  | panicked panic =>
      rw [bind_of_panicked ended, bind_of_panicked ended]
      exact ⟨rfl, rfl⟩

/-- Each retriever reads its group. -/
theorem polls_of_enumerate (legacy : (context.client.generation now).outcome = .done .legacy)
    (calm : context.client.Calm) {items : List ι}
    (ended : (reader.enumerate now).outcome = .done items) :
    ∀ item ∈ items, ∀ moment, (reader.work item moment).Polls context.client reader.observations
      (reader.group item) moment := by
  rw [enumerate_eq legacy, outcome_bind_eq_done_iff] at ended
  obtain ⟨found, -, same⟩ := ended
  obtain rfl := Outcome.done.inj same
  simp only [List.forall_mem_map, reader.group_retriever]
  exact fun item _ moment => reader.polls calm item moment

end PollReader

/-! ## Runs -/

/-- What groups have observed that are each read from some moment on, group by
group for those that gave anything. -/
def readingsFrom (client : Client) (starts : List (List PolledEntity × Instant)) :
    List (List Observation) :=
  starts.filterMap fun entry => readGroup? client entry.1 entry.2

/-- What is pushed in a pass: what the groups have observed, and a blank volume
if there is no volume at all. -/
def passReadings (client : Client) :
    EntityKind → List (List PolledEntity × Instant) → List (List Observation)
  | .volume, [] => [[VolumeRecord.keepAlive.observation]]
  | _, starts => readingsFrom client starts

/-- What pushing some readings comes to: as many records are counted, and what
was observed is recorded and nothing else. -/
def PushesReadings (readings : List (List Observation)) (exporter : Exporter Registry Handle)
    (count : Nat) (final : Exporter Registry Handle) : Prop :=
  count = readings.length ∧ ∃ earlier fresh, exporter.Shows earlier ∧
    fresh.Perm readings.flatten ∧ final.Shows (earlier ++ fresh) ∧
    ∀ entity, (∀ o ∈ fresh, o.entity ≠ entity) → final.AgreesOn exporter entity

/-- What a pass comes to that reads entities one by one.  If they could not be
listed, nothing happens.  Otherwise each group is read from some moment on, and
the readings are pushed.  In particular, an entity whose requests all fail is
left alone. -/
structure OneByOne (client : Client) (kind : EntityKind)
    (listing : Completion (List (List PolledEntity))) (exporter : Exporter Registry Handle)
    (result : Outcome Fault Nat) (final : Exporter Registry Handle) : Prop where
  nothing : (∀ found, listing.outcome ≠ .done found) →
    (∀ count, result ≠ .done count) ∧ final = exporter
  each : ∀ found, listing.outcome = .done found → ∃ starts count, starts.map (·.1) = found ∧
    result = .done count ∧ PushesReadings (passReadings client kind starts) exporter count final
  kept : ∀ entity, (∀ now counters, (client.statistics entity now).outcome ≠ .done counters) →
    (kind = .volume → listing.outcome = .done [] →
      entity ≠ VolumeRecord.keepAlive.observation.entity) → final.AgreesOn exporter entity

/-- What is observed of a group comes from entities that answered. -/
theorem PolledEntity.exists_answer {client : Client} {group : List PolledEntity} {now : Instant}
    {o : Observation} (observed : o ∈ readAll client group now) :
    ∃ moment counters, (client.statistics o.entity moment).outcome = .done counters := by
  induction group generalizing now with
  | nil => cases observed
  | cons polled rest ih =>
      rcases List.mem_append.mp observed with own | others
      · have read := Option.mem_toList.mp own
        obtain ⟨counters, answered, -⟩ := Option.map_eq_some_iff.mp read
        rw [entity_of_reading? read]
        refine ⟨now, counters, ?_⟩
        cases ended : (client.statistics polled.entity now).outcome <;>
          simp_all [Outcome.value?]
      · exact ih others

/-- What is observed in a pass comes from entities that answered, except for the
blank volume of a pass without volumes. -/
theorem exists_answer_of_pass {client : Client} {kind : EntityKind}
    {starts : List (List PolledEntity × Instant)} {o : Observation}
    (observed : o ∈ (passReadings client kind starts).flatten) :
    (∃ moment counters, (client.statistics o.entity moment).outcome = .done counters) ∨
      kind = .volume ∧ starts = [] ∧ o = VolumeRecord.keepAlive.observation := by
  unfold passReadings at observed
  split at observed
  · exact Or.inr ⟨rfl, rfl, by simpa using observed⟩
  · obtain ⟨reading, given, told⟩ := List.mem_flatten.mp observed
    obtain ⟨entry, -, read⟩ := List.mem_filterMap.mp given
    have heard : o ∈ readAll client entry.1 entry.2 := by
      rw [← flatten_readGroup?, read]
      simpa using told
    exact Or.inl (exists_answer heard)

section

variable {exporter final : Exporter Registry Handle} {ι ρ : Type}
  {observations : ρ → List Observation}
  {sink : Sink ρ (Exporter Registry Handle)}

/-- Records that say what was read are pushed as readings. -/
theorem Sink.Records.pushesReadings (records : sink.Records observations)
    (reached : exporter.Reached) {pushed : List ρ} {readings : List (List Observation)}
    (perm : (pushed.map observations).Perm readings) :
    PushesReadings readings exporter (Pipeline.pushAll sink pushed exporter).1.length
      (Pipeline.pushAll sink pushed exporter).2 := by
  obtain ⟨earlier, realizes⟩ := reached.realizes
  obtain ⟨length, after⟩ :=
    records.pushAll (Registry.view_lawful exporter.meter.bare) id realizes pushed
  refine ⟨?_, earlier, pushed.flatMap observations, realizes.shows, ?_, after.shows, ?_⟩
  · rw [length, ← perm.length_eq, List.length_map]
  · rw [List.flatMap_def]
    exact perm.flatten
  · exact fun entity others => after.agreesOn realizes (latest?_append_of_others others)

variable {client : Client} {work : ι → Routine ρ} {group : ι → List PolledEntity} {items : List ι}

/-- Items that read their groups give records of what the groups observe. -/
theorem map_recordsFrom {starts : List (ι × Instant)}
    (polls : ∀ entry ∈ starts, (work entry.1 entry.2).Polls client observations (group entry.1)
      entry.2) :
    (recordsFrom work starts).map observations =
      readingsFrom client (starts.map fun entry => (group entry.1, entry.2)) := by
  rw [recordsFrom, List.map_filterMap, readingsFrom, List.filterMap_map]
  exact List.filterMap_congr fun entry member => (polls entry member).reading

/-- A run of the pipeline over items that read their groups pushes the readings. -/
theorem PipelineRun.exists_readings {bound count : Nat} (records : sink.Records observations)
    (reached : exporter.Reached)
    (polls : ∀ item ∈ items, ∀ moment,
      (work item moment).Polls client observations (group item) moment)
    (run : PipelineRun bound work sink items exporter count final) :
    ∃ starts, starts.map (·.1) = items.map group ∧
      PushesReadings (readingsFrom client starts) exporter count final := by
  obtain ⟨starts, pushed, rfl, perm, rfl, rfl⟩ := run.exists_starts
  refine ⟨starts.map fun entry => (group entry.1, entry.2), ?_, ?_⟩
  · rw [List.map_map, List.map_map]
    rfl
  · refine records.pushesReadings reached ?_
    rw [← map_recordsFrom fun entry member =>
      polls entry.1 (List.mem_map_of_mem member) entry.2]
    exact perm.map observations

/-- What a pass comes to follows from what its enumeration and its run do. -/
theorem RunAfter.oneByOne (group : ι → List PolledEntity) {kind : EntityKind} {now : Instant}
    {result : Outcome Fault Nat} {enumerate : Routine (List ι)}
    {run : List ι → Exporter Registry Handle → Nat → Exporter Registry Handle → Prop}
    {listing : Completion (List (List PolledEntity))}
    (listed : listing.outcome = (enumerate now).outcome.map (List.map group))
    (each : ∀ items count, (enumerate now).outcome = .done items →
      run items exporter count final → ∃ starts, starts.map (·.1) = items.map group ∧
        PushesReadings (passReadings client kind starts) exporter count final)
    (ran : RunAfter enumerate run now exporter result final) :
    OneByOne client kind listing exporter result final := by
  -- Without a listing nothing happens.
  have unlisted : (∀ items, (enumerate now).outcome ≠ .done items) →
      (∀ found, listing.outcome ≠ .done found) →
        OneByOne client kind listing exporter result final := by
    intro broken none
    obtain ⟨fails, rfl⟩ := ran.unchanged broken
    exact ⟨fun _ => ⟨fails, rfl⟩, fun found ended => absurd ended (none found),
      fun entity _ _ => Exporter.AgreesOn.refl _ entity⟩
  cases ended : (enumerate now).outcome with
  | failed fault =>
      rw [ended] at listed
      exact unlisted (fun _ same => nomatch ended.symm.trans same)
        fun _ same => nomatch listed.symm.trans same
  | panicked panic =>
      rw [ended] at listed
      exact unlisted (fun _ same => nomatch ended.symm.trans same)
        fun _ same => nomatch listed.symm.trans same
  | done items =>
      unfold RunAfter at ran
      rw [ended] at ran listed
      obtain ⟨count, rfl, ran⟩ := ran
      obtain ⟨starts, about, pushes⟩ := each items count ended ran
      refine ⟨fun none => absurd listed (none _), ?_, ?_⟩
      · intro found same
        obtain rfl := Outcome.done.inj (listed.symm.trans same)
        exact ⟨starts, count, about, rfl, pushes⟩
      · intro entity silent blank
        obtain ⟨-, earlier, fresh, -, perm, -, left⟩ := pushes
        refine left entity fun o member own => ?_
        rcases exists_answer_of_pass (perm.mem_iff.mp member) with
          ⟨moment, counters, answered⟩ | ⟨rfl, rfl, rfl⟩
        · subst own
          exact silent moment counters answered
        · refine blank rfl (listed.trans (congrArg Outcome.done about.symm)) own.symm

end

/-! ## Requests -/

/-- The requests for statistics of a pass: one for each entity that was
listed. -/
def statisticsRequests (listing : Completion (List (List PolledEntity))) : List Request :=
  match listing.outcome with
  | .done found => found.flatten.map (·.request)
  | .failed _ | .panicked _ => []

theorem PolledEntity.request_ne_bulk (polled : PolledEntity) (query : BulkQuery) :
    polled.request ≠ .bulk query := by
  obtain ⟨⟨kind, id⟩, _, _⟩ := polled
  cases kind <;> exact nofun

theorem not_bulk_of_mem_statisticsRequests {listing : Completion (List (List PolledEntity))}
    {request : Request} (made : request ∈ statisticsRequests listing) (query : BulkQuery) :
    request ≠ .bulk query := by
  unfold statisticsRequests at made
  split at made
  · obtain ⟨polled, -, rfl⟩ := List.mem_map.mp made
    exact polled.request_ne_bulk query
  · cases made
  · cases made

section

variable {μ η ι ρ : Type} {now : Instant} {exporter : Exporter μ η}
  {group : ι → List PolledEntity} {items : List ι}

/-- The pipeline on the clock makes the requests of its items, in order. -/
theorem requests_runPipeline (kind : EntityKind) (bound : Nat) {work : ι → Routine ρ}
    (sink : Sink ρ (Exporter μ η)) {client : Client} {observations : ρ → List Observation}
    (polls : ∀ item ∈ items, ∀ moment,
      (work item moment).Polls client observations (group item) moment) :
    (runPipeline kind bound work sink items now exporter).calls.map (·.2) =
      (items.map group).flatten.map (·.request) := by
  let jobs : List (GatherJob ι ρ) := Job.schedule bound now
    (fun start item => let completion := work item start; (completion.finish, completion)) items
  have listed : jobs.map (·.item) = items := Job.items_assign _ _ items
  have asked : ∀ job ∈ jobs, job.result.calls.map (·.2) = (group job.item).map (·.request) := by
    intro job member
    have made : job.result = work job.item job.start := Job.result_assign job member
    rw [made]
    exact (polls job.item (listed ▸ List.mem_map_of_mem member) job.start).requests
  calc (jobs.flatMap fun job => job.result.calls).map (·.2)
      = jobs.flatMap fun job => (group job.item).map (·.request) := by
        rw [List.map_flatMap]
        exact List.flatMap_congr asked
    _ = ((jobs.map (·.item)).map group).flatten.map (·.request) := by
        rw [List.map_map, ← List.flatMap_def, List.map_flatMap]
        rfl
    _ = (items.map group).flatten.map (·.request) := by rw [listed]

/-- A pass makes the requests of its enumeration and those of what follows. -/
theorem requests_afterEnumeration (group : ι → List PolledEntity) {enumerate : Routine (List ι)}
    {rest : List ι → Instant → Exporter μ η → Pass μ η}
    {listing : Completion (List (List PolledEntity))}
    (listed : listing.outcome = (enumerate now).outcome.map (List.map group) ∧
      listing.calls = (enumerate now).calls)
    (each : ∀ items, (enumerate now).outcome = .done items → ∀ moment,
      (rest items moment exporter).calls.map (·.2) =
        (items.map group).flatten.map (·.request)) :
    (afterEnumeration enumerate rest now exporter).calls.map (·.2) =
      listing.calls.map (·.2) ++ statisticsRequests listing := by
  unfold afterEnumeration statisticsRequests
  rw [listed.1, listed.2]
  cases ended : (enumerate now).outcome with
  | done items => simp only [ended, Outcome.map, List.map_append, each items ended]
  | failed fault => simp only [ended, Outcome.map, List.append_nil]
  | panicked panic => simp only [ended, Outcome.map, List.append_nil]

end

/-! ## Each kind -/

section

variable (context : CollectionContext)

/-- What a pass finds to be read one by one, one group for each retriever. -/
def pollGroups : EntityKind → Routine (List (List PolledEntity))
  | .sdc => (sdcPolls context).groups
  | .volume => (volumePolls context).groups
  | .storagePool => (classPolls context).groups

/-- Whether the retrievers that a pass enumerates are those for the groups that
were found, and read them. -/
def ReadsGroups (now : Instant) : EntityKind → Prop
  | .sdc => ∀ retrievers, (enumerateSdcs context now).outcome = .done retrievers →
      (pollGroups context .sdc now).outcome =
          .done (retrievers.map fun retriever => [retriever.entity.polled]) ∧
        ∀ retriever ∈ retrievers, ∀ moment, (retriever.record context.client moment).Polls
          context.client (fun record => [record.observation]) [retriever.entity.polled] moment
  | .volume => ∀ retrievers, (enumerateVolumes context now).outcome = .done retrievers →
      (pollGroups context .volume now).outcome =
          .done (retrievers.map fun retriever => [retriever.entity.polled]) ∧
        ∀ retriever ∈ retrievers, ∀ moment, (retriever.record context.client moment).Polls
          context.client (fun record => [record.observation]) [retriever.entity.polled] moment
  | .storagePool => ∀ retrievers, (enumerateStorageClasses context now).outcome = .done retrievers →
      (pollGroups context .storagePool now).outcome =
          .done (retrievers.map fun retriever =>
            retriever.pools.map fun pool => pool.entity.polled retriever.storageClass) ∧
        ∀ retriever ∈ retrievers, ∀ moment, (retriever.record context.client moment).Polls
          context.client StorageClassRecord.observations
            (retriever.pools.map fun pool => pool.entity.polled retriever.storageClass) moment

variable {context} {now : Instant}

theorem PollReader.readsGroups {ε ι ρ : Type} {reader : PollReader context ε ι ρ}
    (legacy : (context.client.generation now).outcome = .done .legacy)
    (calm : context.client.Calm) {items : List ι}
    (ended : (reader.enumerate now).outcome = .done items) :
    (reader.groups now).outcome = .done (items.map reader.group) ∧
      ∀ item ∈ items, ∀ moment, (reader.work item moment).Polls context.client
        reader.observations (reader.group item) moment := by
  refine ⟨?_, reader.polls_of_enumerate legacy calm ended⟩
  rw [(reader.groups_eq legacy).1, ended]
  rfl

theorem readsGroups (legacy : (context.client.generation now).outcome = .done .legacy)
    (calm : context.client.Calm) (kind : EntityKind) : ReadsGroups context now kind := by
  cases kind with
  | sdc =>
      intro retrievers ended
      rw [enumerateSdcs_eq] at ended
      exact (sdcPolls context).readsGroups legacy calm ended
  | volume =>
      intro retrievers ended
      rw [enumerateVolumes_eq] at ended
      exact (volumePolls context).readsGroups legacy calm ended
  | storagePool =>
      intro retrievers ended
      rw [enumerateStorageClasses_eq] at ended
      exact (classPolls context).readsGroups legacy calm ended

/-- What is found is found by listing requests alone. -/
theorem pollGroups_asks (kind : EntityKind) :
    (pollGroups context kind).Asks Request.IsListing := by
  cases kind with
  | sdc => exact (sdcReader context).lists.bind fun _ => asks_done _
  | volume => exact (volumeReader context).lists.bind fun _ => asks_done _
  | storagePool => exact (classReader context).lists.bind fun _ => asks_done _

/-- A pass lists, and asks for the statistics of each entity once. -/
theorem requests_collect {μ η : Type} [Meter μ η]
    (legacy : (context.client.generation now).outcome = .done .legacy)
    (calm : context.client.Calm) (kind : EntityKind) (exporter : Exporter μ η) :
    (collect context kind now exporter).calls.map (·.2) =
      (pollGroups context kind now).calls.map (·.2) ++
        statisticsRequests (pollGroups context kind now) := by
  have reads := readsGroups legacy calm kind
  cases kind with
  | sdc =>
      refine requests_afterEnumeration (sdcPolls context).group ?_ ?_
      · rw [enumerateSdcs_eq]
        exact (sdcPolls context).groups_eq legacy
      · intro retrievers ended moment
        exact requests_runPipeline .sdc context.bound sdcSink (reads retrievers ended).2
  | volume =>
      refine requests_afterEnumeration (volumePolls context).group ?_ ?_
      · rw [enumerateVolumes_eq]
        exact (volumePolls context).groups_eq legacy
      · intro retrievers ended moment
        by_cases none : retrievers.isEmpty = true
        · rw [if_pos none, List.isEmpty_iff.mp none]
          rfl
        · rw [if_neg none]
          exact requests_runPipeline .volume context.bound volumeSink (reads retrievers ended).2
  | storagePool =>
      refine requests_afterEnumeration (classPolls context).group ?_ ?_
      · rw [enumerateStorageClasses_eq]
        exact (classPolls context).groups_eq legacy
      · intro retrievers ended moment
        exact requests_runPipeline .storagePool context.bound storageClassSink
          (reads retrievers ended).2

variable {exporter final : Exporter Registry Handle} {result : Outcome Fault Nat}

/-- Every run of a pass reads entities one by one. -/
theorem passRun_oneByOne (legacy : (context.client.generation now).outcome = .done .legacy)
    (calm : context.client.Calm) (reached : exporter.Reached) {kind : EntityKind}
    (run : PassRun context kind now exporter result final) :
    OneByOne context.client kind (pollGroups context kind now) exporter result final := by
  have reads := readsGroups legacy calm kind
  cases kind with
  | sdc =>
      refine RunAfter.oneByOne (sdcPolls context).group ?_ ?_ run
      · rw [enumerateSdcs_eq]
        exact ((sdcPolls context).groups_eq legacy).1
      · intro retrievers count ended ran
        exact ran.exists_readings sdcSink_records reached (reads retrievers ended).2
  | storagePool =>
      refine RunAfter.oneByOne (classPolls context).group ?_ ?_ run
      · rw [enumerateStorageClasses_eq]
        exact ((classPolls context).groups_eq legacy).1
      · intro retrievers count ended ran
        exact ran.exists_readings storageClassSink_records reached (reads retrievers ended).2
  | volume =>
      refine RunAfter.oneByOne (volumePolls context).group ?_ ?_ run
      · rw [enumerateVolumes_eq]
        exact ((volumePolls context).groups_eq legacy).1
      · intro retrievers count ended ran
        cases retrievers with
        | nil =>
            -- Without volumes a blank one is recorded.
            obtain ⟨rfl, rfl⟩ := KeepAliveRun.exists_pushed ran
            exact ⟨[], rfl, volumeSink_records.pushesReadings reached (List.Perm.refl _)⟩
        | cons first rest =>
            obtain ⟨starts, about, pushes⟩ :=
              PipelineRun.exists_readings volumeSink_records reached (reads _ ended).2 ran
            refine ⟨starts, about, ?_⟩
            cases starts with
            | nil => cases about
            | cons entry others => exact pushes

end

end StorageTelemetry
