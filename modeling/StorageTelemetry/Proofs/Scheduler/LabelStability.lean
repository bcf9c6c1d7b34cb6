import StorageTelemetry.Proofs.Collection.Reordering
import StorageTelemetry.Proofs.Collection.TracedPasses
import StorageTelemetry.Proofs.Recording.EventOwners
import StorageTelemetry.Proofs.Scheduler.TickEffects

namespace StorageTelemetry

/-!
# Labels from tick to tick

Between two ticks of a kind that collect, the gateway may answer its listings in
another order, and other statistics.  The entities that the first tick recorded
then go by the labels that the second tick lists them under, so the second tick
makes and retires none of their series: it sets values, or leaves an entity
alone whose statistics it did not get.

Ticks of other kinds and ticks that do not collect may come in between.  They
leave the labels of the kind alone.
-/

/-! ## Passes -/

/-- Whether a value of an entity was set. -/
def Recorded (events : List (MeterEvent Handle)) (entity : Entity) : Prop :=
  ∃ event ∈ events, event.SetsValue ∧ Owns entity event.place

section

variable {context : CollectionContext} {kind : EntityKind} {now : Instant} {count : Nat}
  {exporter : MetricsExporter} {last : Exporter (Traced Registry Handle) Handle} {entity : Entity}

/-- What a pass records was listed, under the labels that are cached
afterwards. -/
theorem PassRun.listed_of_recorded
    (run : PassRun context kind now exporter.traced (.done count) last)
    (reached : exporter.Reached) (recorded : Recorded last.meter.events entity) :
    ∃ listed labels, context.listing now kind = .done listed ∧ entity.1 = kind ∧
      (entity.2, labels) ∈ listed ∧ last.cache.labels? entity.1 entity.2 = some labels := by
  rcases run.exists_reports with ⟨listed, reports, ended, rfl, told⟩
  rcases reached.realizes with ⟨observations, realizes⟩
  rw [← exporter.untraced_traced] at realizes
  rcases recorded with ⟨event, put, -, touched⟩
  rcases (realizes.owns_attemptAll reports).of_start event put with ⟨o, attempted, owned⟩
  have among : entity ∈ reports.map (·.entity) :=
    List.mem_map.mpr ⟨o, attempted, owned.unique touched⟩
  rcases (exists_latest?_iff reports entity).mpr among with ⟨p, found⟩
  have same := entity_of_latest? found
  have report := told p (mem_of_latest? found)
  refine ⟨listed, p.labels, ended, same ▸ report.kind_eq, same ▸ report.listed, ?_⟩
  have after := (realizes.attemptAll_traced reports).labels?_eq entity.1 entity.2
  rw [latest?_append, found] at after
  exact after

/-- What a pass does to an entity whose cached labels are those it lists the
entity under. -/
theorem PassRun.onlySets (run : PassRun context kind now exporter.traced (.done count) last)
    (reached : exporter.Reached) {set : InstrumentSet Handle}
    (stored : exporter.cache.sets.get? entity = some set)
    (same : ∀ listed, context.listing now kind = .done listed →
      ∀ labels, (entity.2, labels) ∈ listed → labels = set.labels) :
    Exporter.OnlySets entity set exporter.traced last := by
  rcases run.exists_reports with ⟨listed, reports, ended, rfl, told⟩
  rcases reached.realizes with ⟨observations, realizes⟩
  rw [← exporter.untraced_traced] at realizes
  apply realizes.onlySets_attemptAll stored
  rintro o attempted rfl
  exact same listed ended o.labels (told o attempted).listed

end

/-! ## Ticks with a trace -/

/-- A tick that collects, with everything that it does to the series of
entities. -/
structure CollectedTick (scheduler : Scheduler) (leads : Bool) (kind : EntityKind) (now : Instant)
    (exporter : MetricsExporter) (count : Nat) (events : List (MeterEvent Handle))
    (final : MetricsExporter) : Prop where
  leading : leads = true
  enabled : scheduler.settings.enabled kind = true
  session : (scheduler.context.client.askAuthenticate now).outcome = .done ()
  pass : ∃ (span : Nat) (last : Exporter (Traced Registry Handle) Handle),
    PassRun scheduler.context kind (scheduler.context.client.askAuthenticate now).finish
        (exporter.withMeter (·.setUp .one)).traced (.done count) last ∧
      last.meter.events = events ∧
      final = last.untraced.withMeter (accountFor kind span (.ok count))

section

variable {scheduler : Scheduler} {leads : Bool} {kind : EntityKind} {now : Instant}
  {exporter final : MetricsExporter} {count : Nat} {events : List (MeterEvent Handle)}

/-- The trace of a tick that collects can be kept, and does not change what comes
of the tick. -/
theorem tickRun_collected_iff :
    TickRun scheduler leads kind now exporter (.collected count) final ↔
      ∃ events, CollectedTick scheduler leads kind now exporter count events final := by
  constructor
  · intro run
    cases run with
    | @collected leading enabled session _ span passed pass =>
        rcases passRun_iff_traced.mp pass with ⟨last, ran, rfl⟩
        exact ⟨last.meter.events, leading, enabled, session, span, last, ran, rfl, rfl⟩
  · rintro ⟨events, rfl, enabled, session, span, last, ran, -, rfl⟩
    apply TickRun.collected rfl enabled session
    exact passRun_iff_traced.mpr ⟨last, ran, rfl⟩

theorem CollectedTick.listed_of_recorded
    (tick : CollectedTick scheduler leads kind now exporter count events final)
    (reached : exporter.Reached) {entity : Entity} (recorded : Recorded events entity) :
    ∃ moment listed labels, scheduler.context.listing moment kind = .done listed ∧
      entity.1 = kind ∧ (entity.2, labels) ∈ listed ∧
      final.cache.labels? entity.1 entity.2 = some labels := by
  rcases tick.pass with ⟨span, last, ran, rfl, rfl⟩
  exact ⟨_, ran.listed_of_recorded (reached.withMeter (Registry.ownChange_setUp .one)) recorded⟩

theorem CollectedTick.onlySets
    (tick : CollectedTick scheduler leads kind now exporter count events final)
    (reached : exporter.Reached) {entity : Entity} {set : InstrumentSet Handle}
    (stored : exporter.cache.sets.get? entity = some set)
    (same : ∀ moment listed, scheduler.context.listing moment kind = .done listed →
      ∀ labels, (entity.2, labels) ∈ listed → labels = set.labels) :
    final.cache.sets.get? entity = some set ∧
      ∀ event ∈ events, Owns entity event.place → event.SetsValue := by
  rcases tick.pass with ⟨span, last, ran, rfl, rfl⟩
  have sets := ran.onlySets (reached.withMeter (Registry.ownChange_setUp .one)) stored (same _)
  exact ⟨sets.stored, sets.adds.of_start⟩

end

/-! ## Ticks in between -/

/-- Ticks of which none of the kind collects, each by any scheduler and at any
moment. -/
inductive TicksBetween (kind : EntityKind) : MetricsExporter → MetricsExporter → Prop
  | refl (exporter : MetricsExporter) : TicksBetween kind exporter exporter
  | tick {before middle final : MetricsExporter} (earlier : TicksBetween kind before middle)
      {scheduler : Scheduler} {leads : Bool} {ticked : EntityKind} {now : Instant}
      {outcome : TickOutcome} (run : TickRun scheduler leads ticked now middle outcome final)
      (skipped : ticked = kind → ∀ count, outcome ≠ .collected count) :
      TicksBetween kind before final

/-- A tick that does not collect keeps the cache. -/
theorem TickEffects.cache {kind : EntityKind} {before after : MetricsExporter}
    {outcome : TickOutcome} (effects : TickEffects kind before outcome after)
    (skipped : ∀ count, outcome ≠ .collected count) : after.cache = before.cache := by
  cases outcome with
  | notLeader => exact congrArg Exporter.cache effects
  | disabled => exact congrArg Exporter.cache effects
  | authFailed => exact effects.1.cache
  | failed => exact effects.1.cache
  | collected count => exact absurd rfl (skipped count)
  | brokenOff panic => exact effects.1.cache

section

variable {kind : EntityKind} {before after : MetricsExporter}

theorem TicksBetween.reached (between : TicksBetween kind before after)
    (reached : before.Reached) : after.Reached := by
  induction between with
  | refl => exact reached
  | tick _ run _ ih => exact run.reached ih

/-- Ticks in between leave the labels of the kind alone. -/
theorem TicksBetween.labels (between : TicksBetween kind before after) (reached : before.Reached)
    (id : String) : after.cache.labels? kind id = before.cache.labels? kind id := by
  induction between with
  | refl => rfl
  | @tick middle final earlier scheduler leads ticked now outcome run skipped ih =>
      have middleReached := earlier.reached reached
      apply Eq.trans _ ih
      by_cases own : ticked = kind
      · rw [(run.effects middleReached).cache (skipped own)]
      · exact ((run.frame middleReached).entities (kind, id) (Ne.symm own)).labels

end

/-! ## Exported labels -/

/-- What an exported series is beside its value. -/
def ExportedSeries.identity (series : ExportedSeries) : String × String × List (String × String) :=
  (series.name, series.help, series.labels)

/-- The exported series of an entity are told by its cached labels, but for
their values. -/
theorem Exporter.Reached.identities_perm {exporter : MetricsExporter} (reached : exporter.Reached)
    {entity : Entity} {labels : LabelSet}
    (cached : exporter.cache.labels? entity.1 entity.2 = some labels) :
    ((exporter.meter.seriesOf entity).map (·.identity)).Perm
      (entity.1.series.map fun spec =>
        (entity.1.seriesName spec, spec.help, sortLabels labels.pairs)) := by
  rcases reached.realizes with ⟨observations, realizes⟩
  have held := realizes.labels?_eq entity.1 entity.2
  rw [cached] at held
  rcases Option.map_eq_some_iff.mp held.symm with ⟨o, found, rfl⟩
  have about := entity_of_latest? found
  have shown := (realizes.seriesOf_perm entity).map (·.identity)
  have observed : latest? observations entity = some o := found
  rw [observed, Option.map_some, Option.getD_some, Observation.exported, List.map_map] at shown
  have kinds : o.kind = entity.1 := congrArg Prod.fst about
  have specs : (o.kind.series.zip o.values).map Prod.fst = o.kind.series :=
    List.map_fst_zip (Nat.le_of_eq o.arity.symm)
  rw [← kinds, ← specs, List.map_map]
  exact shown

/-! ## Stability -/

/-- Two ticks of a kind collect, one after the other, by schedulers with the same
inventory, and in between no tick of the kind collects.  If the gateway answers
its listings in another order only, in none of which two entries have one name,
then whatever else it answers and however the passes move, the second tick makes
and retires no series of an entity that the first tick recorded.  The cache
keeps the labels and the instruments of the entity, and what is exported of it
is the same but for the values.  For data clients this needs that no two nodes
resolve to the same one. -/
theorem recorded_labels_are_stable {first second : Scheduler} {leads leads' : Bool}
    {kind : EntityKind} {now later : Instant} {start after before' after' : MetricsExporter}
    {count count' : Nat} {events events' : List (MeterEvent Handle)} (reached : start.Reached)
    (reorders : first.context.Reorders second.context)
    (distinct : first.context.Unambiguous) (apart : kind = .sdc → first.context.NodesApart)
    (tick : CollectedTick first leads kind now start count events after)
    (between : TicksBetween kind after before')
    (tick' : CollectedTick second leads' kind later before' count' events' after')
    {entity : Entity} (recorded : Recorded events entity) :
    (∀ event ∈ events', Owns entity event.place → event.SetsValue) ∧
    (∃ set, before'.cache.sets.get? entity = some set ∧
      after'.cache.sets.get? entity = some set ∧
      after.cache.labels? entity.1 entity.2 = some set.labels) ∧
    ((after'.meter.seriesOf entity).map (·.identity)).Perm
      ((after.meter.seriesOf entity).map (·.identity)) := by
  have ran := tickRun_collected_iff.mpr ⟨events, tick⟩
  have ran' := tickRun_collected_iff.mpr ⟨events', tick'⟩
  have middle := ran.reached reached
  have middle' := between.reached middle
  rcases tick.listed_of_recorded reached recorded with
    ⟨moment, listed, labels, ended, own, member, cached⟩
  have kept : before'.cache.labels? entity.1 entity.2 = some labels := by
    rw [own] at cached ⊢
    rw [between.labels middle, cached]
  rcases Option.map_eq_some_iff.mp kept with ⟨set, stored, rfl⟩
  have sets := tick'.onlySets middle' stored fun moment' listed' ended' labels' member' =>
    (labels_eq_of_listed reorders distinct apart ended ended' member member').symm
  have same : after'.cache.labels? entity.1 entity.2 = some set.labels :=
    congrArg (Option.map InstrumentSet.labels) sets.1
  exact ⟨sets.2, ⟨set, stored, sets.1, cached⟩,
    ((ran'.reached middle').identities_perm same).trans (middle.identities_perm cached).symm⟩

/-! ## Two ticks -/

/-- The volumes of a context, all read at one moment and recorded in order, with
a trace. -/
def volumesInOrder (context : CollectionContext) (now : Instant) (exporter : MetricsExporter) :
    List String × Exporter (Traced Registry Handle) Handle :=
  let found := (enumerateVolumes context now).outcome.value?.getD []
  let records := recordsFrom (·.record context.client) (found.map fun item => (item, now))
  Pipeline.pushAll volumeSink records (exporter.withMeter (·.setUp .one)).traced

/-- What a tick leaves that reads its volumes in order. -/
def afterVolumes (context : CollectionContext) (now : Instant) (exporter : MetricsExporter) :
    MetricsExporter :=
  let passed := volumesInOrder context now exporter
  passed.2.untraced.withMeter (accountFor .volume 0 (.ok passed.1.length))

/-- Reading volumes in order is one of the ways in which a tick may collect. -/
theorem collectedTick_in_order (scheduler : Scheduler) (now : Instant) {start : Instant}
    (enabled : scheduler.settings.enabled .volume = true)
    (session : (scheduler.context.client.askAuthenticate now).outcome = .done ())
    (begins : (scheduler.context.client.askAuthenticate now).finish = start)
    {items : List VolumeRetriever}
    (ended : (enumerateVolumes scheduler.context start).outcome = .done items)
    (found : items.isEmpty = false) (exporter : MetricsExporter) :
    CollectedTick scheduler true .volume now exporter
      (volumesInOrder scheduler.context start exporter).1.length
      (volumesInOrder scheduler.context start exporter).2.meter.events
      (afterVolumes scheduler.context start exporter) := by
  refine ⟨rfl, enabled, session, 0, _, ?_, rfl, rfl⟩
  simp only [PassRun, RunAfter, volumesInOrder, begins, ended, found, Bool.false_eq_true, if_false]
  refine ⟨_, rfl, pipelineRun_iff.mpr ⟨_, _, ?_, List.Perm.refl _, rfl, rfl⟩⟩
  rw [List.map_map]
  exact List.map_id _

/-- Two volumes, each mapped to two data clients, of which the first has
statistics. -/
def mappedTwice : CollectionContext :=
  { twoClients with
    client :=
      { twoClients.client with
        sdcVolumes := fun id _ =>
          if id = "a" then ⟨0, .done [⟨"v", "", ""⟩, ⟨"w", "", ""⟩]⟩
          else ⟨0, .done [⟨"w", "", ""⟩, ⟨"v", "", ""⟩]⟩
        volumeStatistics := fun id _ =>
          if id = "v" then ⟨0, .done ⟨.empty, .empty, .empty, .empty⟩⟩
          else ⟨0, .failed .cancelled⟩ }
    discovery :=
      { twoClients.discovery with
        volumes := fun _ => .ok [⟨"v", "", "", "", "", "", ""⟩, ⟨"w", "", "", "", "", "", ""⟩] } }

/-- The same with all listings the other way round. -/
def mappedBackwards : CollectionContext :=
  { mappedTwice with
    client :=
      { mappedTwice.client with
        sdcs := fun now => ⟨now, .done [⟨"b", none, "B", "", ""⟩, ⟨"a", none, "A", "", ""⟩]⟩
        sdcVolumes := fun id _ =>
          if id = "a" then ⟨0, .done [⟨"w", "", ""⟩, ⟨"v", "", ""⟩]⟩
          else ⟨0, .done [⟨"v", "", ""⟩, ⟨"w", "", ""⟩]⟩ } }

theorem mappedTwice_reorders : mappedTwice.Reorders mappedBackwards where
  discovery := rfl
  drivers := rfl
  sdcs _ _ := .some (List.Perm.swap _ _ _)
  volumes id _ _ := by
    by_cases first : id = "a"
    · subst first
      exact .some (List.Perm.swap _ _ _)
    · simp only [mappedTwice, mappedBackwards, if_neg first]
      exact .some (List.Perm.swap _ _ _)
  pools _ _ := .some (List.Perm.refl _)

theorem mappedTwice_unambiguous : mappedTwice.Unambiguous where
  sdcs now listed ended := by
    cases ended
    decide
  volumes id now listed ended := by
    by_cases first : id = "a"
    · subst first
      cases ended
      decide
    · simp only [mappedTwice, if_neg first] at ended
      cases ended
      decide
  pools now listed ended := by
    cases ended
    decide

/-- Volumes that are mapped to two data clients, by schedulers whose gateways list
everything in opposite orders. -/
def forwards : Scheduler := ⟨mappedTwice, unlistedClients.settings⟩

def backwards : Scheduler := ⟨mappedBackwards, unlistedClients.settings⟩

/-- After a tick with the listings one way round, a tick with the listings the
other way round leaves the mappings in the labels of a volume as they were. -/
theorem backwards_keeps_labels :
    let start : MetricsExporter := .start .empty
    let after := afterVolumes forwards.context 0 start
    let events := (volumesInOrder backwards.context 0 after).2.meter.events
    Recorded (volumesInOrder forwards.context 0 start).2.meter.events (.volume, "v") ∧
      (∀ event ∈ events, Owns (.volume, "v") event.place → event.SetsValue) ∧
      (afterVolumes backwards.context 0 after).cache.labels? .volume "v" =
        after.cache.labels? .volume "v" := by
  intro start after events
  have begins : (forwards.context.client.askAuthenticate 0).finish = 0 := rfl
  have begins' : (backwards.context.client.askAuthenticate 0).finish = 0 := rfl
  have tick := collectedTick_in_order forwards 0 rfl rfl begins rfl rfl start
  have tick' := collectedTick_in_order backwards 0 rfl rfl begins' rfl rfl after
  have recorded :
      Recorded (volumesInOrder forwards.context 0 start).2.meter.events (.volume, "v") := by
    refine ⟨.set ⟨"powerflex_volume_read_bw_megabytes_per_second",
      ["v", "", "", "", "", "", "", "a__b", "__"], 0⟩ .zero, ?_, ⟨_, _, rfl⟩, ?_⟩
    · decide +kernel
    · exact ⟨by decide, rfl⟩
  have volumes : EntityKind.volume = .sdc → forwards.context.NodesApart := fun same => nomatch same
  have reorders : forwards.context.Reorders backwards.context := mappedTwice_reorders
  have stable := recorded_labels_are_stable .start reorders mappedTwice_unambiguous volumes tick
    (.refl after) tick' recorded
  rcases stable with ⟨sets, ⟨set, -, stored, labels⟩, -⟩
  refine ⟨recorded, sets, ?_⟩
  rw [labels]
  exact congrArg (Option.map InstrumentSet.labels) stored

end StorageTelemetry
