import StorageTelemetry.Proofs.Collection.Isolation

namespace StorageTelemetry

/-!
# Storage classes and their pools

A storage class is read and recorded pool by pool, and the two loops have
opposite rules for faults.  A pool that does not answer is left out; its fault
matters only if no pool answers, and then it is the last one that does.  A pool
that cannot be recorded keeps nobody after it from being recorded, but the class
fails with the fault of the first such pool.

The loops meet in the pipeline, where a class counts if neither fails.
-/

open Routine

/-! ## Reading the pools of a class -/

/-- A pool with its answer to the request for its statistics. -/
abbrev PoolAnswer := PoolRetriever × Except Fault CapacityStatistics

/-- The answers of pools that are asked one after another from some moment on,
each when the one before is done with.  A request that breaks off has none. -/
def poolAnswers (client : Client) : List PoolRetriever → Instant → List PoolAnswer
  | [], _ => []
  | pool :: rest, now =>
      let asked := (pool.statistics client).attempt now
      (asked.outcome.value?.map fun answer => (pool, answer)).toList ++
        poolAnswers client rest asked.finish

/-- The pools that answered, in order, each with its own figures. -/
def answeredPools (answers : List PoolAnswer) : List PoolCapacity :=
  answers.filterMap fun (pool, answer) =>
    answer.toOption.map fun statistics => ⟨pool.entity, statistics.normalize⟩

/-- The fault of the last pool that did not answer. -/
def lastFault? : List PoolAnswer → Option Fault
  | [] => none
  | (_, answer) :: rest =>
      (lastFault? rest).orElse fun _ => match answer with
        | .ok _ => none
        | .error fault => some fault

theorem lastFault?_cons_ok (pool : PoolRetriever) (statistics : CapacityStatistics)
    (rest : List PoolAnswer) : lastFault? ((pool, .ok statistics) :: rest) = lastFault? rest :=
  by simp [lastFault?]

theorem answeredPools_eq_nil_iff {answers : List PoolAnswer} :
    answeredPools answers = [] ↔ ∀ answer ∈ answers, ∃ fault, answer.2 = .error fault := by
  rw [answeredPools, List.filterMap_eq_nil_iff]
  refine forall_congr' fun ⟨pool, answer⟩ => forall_congr' fun _ => ?_
  cases answer <;> simp [Except.toOption]

/-- If no pool answered, the last fault is that of the last pool. -/
theorem getLast?_of_silent {answers : List PoolAnswer} (silent : answeredPools answers = []) :
    answers.getLast?.map (·.2) = (lastFault? answers).map .error := by
  induction answers with
  | nil => rfl
  | cons answer rest ih =>
      obtain ⟨pool, answer⟩ := answer
      obtain ⟨⟨fault, rfl⟩, others⟩ := List.forall_mem_cons.mp (answeredPools_eq_nil_iff.mp silent)
      rw [List.getLast?_cons, lastFault?]
      have later := ih (answeredPools_eq_nil_iff.mpr others)
      cases found : rest.getLast? with
      | none =>
          obtain rfl := List.getLast?_eq_none_iff.mp found
          rfl
      | some last =>
          rw [found] at later
          cases known : lastFault? rest with
          | none =>
              rw [known] at later
              cases later
          | some fault' =>
              rw [known] at later
              exact later

section

variable {client : Client}

/-- No request of a pool's retriever breaks off. -/
theorem PoolRetriever.exists_answer (calm : client.Calm) (pool : PoolRetriever) (now : Instant) :
    ∃ answer, ((pool.statistics client).attempt now).outcome = .done answer := by
  have whole : ∀ panic, (pool.statistics client now).outcome ≠ .panicked panic := by
    intro panic broke
    obtain ⟨entity, generation, batch⟩ := pool
    cases generation with
    | legacy =>
        have asked : (client.askPoolStatistics entity.id now).outcome =
            (client.poolStatistics entity.id now).outcome := rfl
        have steps : (PoolRetriever.mk entity .legacy batch).statistics client =
            client.askPoolStatistics entity.id >>= fun counters => done (.legacy counters) := rfl
        rw [steps] at broke
        cases ended : (client.poolStatistics entity.id now).outcome with
        | done counters =>
            rw [bind_of_done (asked.trans ended)] at broke
            cases broke
        | failed fault =>
            rw [bind_of_failed (asked.trans ended)] at broke
            cases broke
        | panicked panic => exact calm entity.id now panic ended
    | bulk =>
        have steps : (PoolRetriever.mk entity .bulk batch).statistics client =
            ofExcept (batch.resource entity.id) >>= fun resource => done (.bulk resource) := rfl
        rw [steps] at broke
        cases found : batch.resource entity.id with
        | ok resource =>
            rw [found] at broke
            cases broke
        | error fault =>
            rw [found] at broke
            cases broke
  unfold attempt
  cases ended : (pool.statistics client now).outcome with
  | done statistics => exact ⟨.ok statistics, by simp only [ended]⟩
  | failed fault => exact ⟨.error fault, by simp only [ended]⟩
  | panicked panic => exact absurd ended (whole panic)

/-- Every pool is asked once, in order. -/
theorem poolAnswers_pools (calm : client.Calm) (pools : List PoolRetriever) (now : Instant) :
    (poolAnswers client pools now).map (·.1) = pools := by
  induction pools generalizing now with
  | nil => rfl
  | cons pool rest ih =>
      obtain ⟨answer, answered⟩ := pool.exists_answer calm now
      simp [poolAnswers, answered, Outcome.value?, ih]

namespace StorageClassRetriever

/-- What asking the pools of a class gives: those that answered and the last
fault. -/
theorem outcome_answers (calm : client.Calm) (storageClass : StorageClassMeta)
    (pools : List PoolRetriever) (now : Instant) :
    (answers storageClass client pools now).outcome =
      .done (answeredPools (poolAnswers client pools now),
        lastFault? (poolAnswers client pools now)) := by
  induction pools generalizing now with
  | nil => rfl
  | cons pool rest ih =>
      obtain ⟨answer, answered⟩ := pool.exists_answer calm now
      have later := ih ((pool.statistics client).attempt now).finish
      have asked : poolAnswers client (pool :: rest) now =
          (pool, answer) ::
            poolAnswers client rest ((pool.statistics client).attempt now).finish := by
        simp [poolAnswers, answered, Outcome.value?]
      rw [answers, bind_of_done answered, asked]
      cases answer with
      | ok statistics =>
          simp only [lastFault?_cons_ok, bind_of_done later]
          rfl
      | error fault =>
          simp only [bind_report, bind_of_done later]
          rfl

/-- What a class gives, by the answers of its pools: those that answered in
order and with their own figures, unless it has pools of which none answered.
Then it fails with the fault of the last. -/
structure ReadsPools (retriever : StorageClassRetriever) (client : Client) (now : Instant)
    (answers : List PoolAnswer) : Prop where
  asked : answers.map (·.1) = retriever.pools
  done_iff : ∀ record, (retriever.record client now).outcome = .done record ↔
    (retriever.pools = [] ∨ ∃ answer ∈ answers, ∃ statistics, answer.2 = .ok statistics) ∧
      record = ⟨retriever.storageClass, answeredPools answers⟩
  failed_iff : ∀ fault, (retriever.record client now).outcome = .failed fault ↔
    (∀ answer ∈ answers, ∃ fault, answer.2 = .error fault) ∧
      answers.getLast?.map (·.2) = some (.error fault)
  whole : ∀ panic, (retriever.record client now).outcome ≠ .panicked panic

theorem readsPools (calm : client.Calm) (retriever : StorageClassRetriever) (now : Instant) :
    retriever.ReadsPools client now (poolAnswers client retriever.pools now) := by
  have asked := poolAnswers_pools calm retriever.pools now
  have ended := outcome_answers calm retriever.storageClass retriever.pools now
  generalize poolAnswers client retriever.pools now = answers at asked ended ⊢
  have answered_iff : (∃ answer ∈ answers, ∃ statistics, answer.2 = .ok statistics) ↔
      answeredPools answers ≠ [] := by
    rw [ne_eq, answeredPools_eq_nil_iff, not_forall]
    refine exists_congr fun ⟨pool, answer⟩ => ?_
    cases answer <;> simp
  have outcome : (retriever.record client now).outcome =
      (lastFault? answers).elim (.done ⟨retriever.storageClass, answeredPools answers⟩)
        fun fault => if (answeredPools answers).isEmpty then .failed fault
          else .done ⟨retriever.storageClass, answeredPools answers⟩ := by
    rw [record, bind_of_done ended]
    cases lastFault? answers with
    | none => rfl
    | some fault =>
        by_cases silent : (answeredPools answers).isEmpty = true <;> simp [silent] <;> rfl
  -- Whether a class without answers has pools shows in whether there is a fault.
  by_cases silent : answeredPools answers = []
  · have last := getLast?_of_silent silent
    have none_iff : lastFault? answers = none ↔ retriever.pools = [] := by
      rw [← asked, List.map_eq_nil_iff, ← List.getLast?_eq_none_iff,
        ← Option.map_eq_none_iff (f := Prod.snd), last, Option.map_eq_none_iff]
    have unanswered : ¬∃ answer ∈ answers, ∃ statistics, answer.2 = .ok statistics :=
      fun answered => answered_iff.mp answered silent
    refine ⟨asked, fun record => ?_, fun fault => ?_, fun panic => ?_⟩
    · rw [outcome, silent, or_iff_left unanswered, ← none_iff]
      cases lastFault? answers <;> simp [eq_comm]
    · rw [outcome, silent, last, and_iff_right (answeredPools_eq_nil_iff.mp silent)]
      cases lastFault? answers <;> simp
    · rw [outcome, silent]
      cases lastFault? answers <;> simp
  · have given : (retriever.record client now).outcome =
        .done ⟨retriever.storageClass, answeredPools answers⟩ := by
      rw [outcome]
      cases lastFault? answers <;> simp [silent]
    refine ⟨asked, fun record => ?_, fun fault => ?_, fun panic => ?_⟩
    · rw [given, and_iff_right (Or.inr (answered_iff.mpr silent))]
      simp [eq_comm]
    · rw [given, ← answeredPools_eq_nil_iff]
      simp [silent]
    · simp [given]

end StorageClassRetriever
end

/-! ## Recording the pools of a class -/

namespace Exporter

variable {μ η : Type} [Meter μ η]

/-- The exporter after pools were recorded one by one. -/
def afterPools (storageClass : StorageClassMeta) (pools : List PoolCapacity)
    (exporter : Exporter μ η) : Exporter μ η :=
  pools.foldl (fun exporter pool => (exporter.recordPool storageClass pool).2) exporter

/-- How recording pools one by one ends for each of them. -/
def poolOutcomes (storageClass : StorageClassMeta) :
    List PoolCapacity → Exporter μ η → List (PoolCapacity × Except Fault Unit)
  | [], _ => []
  | pool :: rest, exporter =>
      let recorded := exporter.recordPool storageClass pool
      (pool, recorded.1) :: poolOutcomes storageClass rest recorded.2

/-- The pools that could not be recorded, with their faults. -/
def poolFaults (outcomes : List (PoolCapacity × Except Fault Unit)) :
    List (PoolCapacity × Fault) :=
  outcomes.filterMap fun (pool, answer) => match answer with
    | .ok () => none
    | .error fault => some (pool, fault)

theorem poolOutcomes_pools (storageClass : StorageClassMeta) (pools : List PoolCapacity)
    (exporter : Exporter μ η) :
    (poolOutcomes storageClass pools exporter).map (·.1) = pools := by
  induction pools generalizing exporter with
  | nil => rfl
  | cons pool rest ih => exact congrArg (pool :: ·) (ih _)

/-- A pool is recorded on what recording the pools before it has left. -/
theorem getElem?_poolOutcomes (storageClass : StorageClassMeta) (before : List PoolCapacity)
    (pool : PoolCapacity) (after : List PoolCapacity) (exporter : Exporter μ η) :
    (poolOutcomes storageClass (before ++ pool :: after) exporter)[before.length]? =
      some (pool, ((exporter.afterPools storageClass before).recordPool storageClass pool).1) := by
  induction before generalizing exporter with
  | nil => rfl
  | cons first rest ih => exact ih _

/-- Recording the pools of a class passes over those that fail. -/
theorem recordPools_eq_outcomes (storageClass : StorageClassMeta) (pools : List PoolCapacity)
    (exporter : Exporter μ η) :
    recordPools storageClass pools exporter =
      (poolFaults (poolOutcomes storageClass pools exporter),
        exporter.afterPools storageClass pools) := by
  induction pools generalizing exporter with
  | nil => rfl
  | cons pool rest ih =>
      simp only [recordPools, poolOutcomes, afterPools, List.foldl_cons]
      rcases exporter.recordPool storageClass pool with ⟨fault | ⟨⟨⟩⟩, next⟩
      · simp only [ih]
        rfl
      · exact ih next

theorem poolFaults_eq_nil_iff {outcomes : List (PoolCapacity × Except Fault Unit)} :
    poolFaults outcomes = [] ↔ ∀ outcome ∈ outcomes, outcome.2 = .ok () := by
  rw [poolFaults, List.filterMap_eq_nil_iff]
  refine forall_congr' fun ⟨pool, answer⟩ => forall_congr' fun _ => ?_
  rcases answer with fault | ⟨⟨⟩⟩ <;> simp

/-- The first fault is that of the first pool that failed. -/
theorem poolFaults_eq_cons_iff {outcomes : List (PoolCapacity × Except Fault Unit)}
    {pool : PoolCapacity} {fault : Fault} :
    (∃ others, poolFaults outcomes = (pool, fault) :: others) ↔
      ∃ before after, outcomes = before ++ (pool, .error fault) :: after ∧
        ∀ outcome ∈ before, outcome.2 = .ok () := by
  constructor
  · rintro ⟨others, first⟩
    obtain ⟨before, ⟨pool', answer⟩, after, rfl, none, own, -⟩ :=
      List.filterMap_eq_cons_iff.mp first
    refine ⟨before, after, ?_, poolFaults_eq_nil_iff.mp (List.filterMap_eq_nil_iff.mpr none)⟩
    rcases answer with fault' | ⟨⟨⟩⟩
    · cases own
      rfl
    · cases own
  · rintro ⟨before, after, rfl, recorded⟩
    refine ⟨poolFaults after, ?_⟩
    have none : poolFaults before = [] := poolFaults_eq_nil_iff.mpr recorded
    rw [poolFaults, List.filterMap_append, ← poolFaults, none]
    rfl

/-- What recording a class comes to.  Every pool is attempted once and in order,
each on the exporter that recording the ones before has left.  The answer is a
success if all of them were, and otherwise the fault of the first that was not. -/
structure RecordsPools (exporter : Exporter μ η) (record : StorageClassRecord)
    (outcomes : List (PoolCapacity × Except Fault Unit)) : Prop where
  attempted : outcomes.map (·.1) = record.pools
  each : ∀ before pool after, record.pools = before ++ pool :: after →
    outcomes[before.length]? = some (pool,
      ((exporter.afterPools record.storageClass before).recordPool record.storageClass pool).1)
  left : (exporter.recordCapacity record).2.1 =
    exporter.afterPools record.storageClass record.pools
  ok_iff : (exporter.recordCapacity record).1 = .ok () ↔ ∀ outcome ∈ outcomes, outcome.2 = .ok ()
  error_iff : ∀ fault, (exporter.recordCapacity record).1 = .error fault ↔
    ∃ before pool after, outcomes = before ++ (pool, .error fault) :: after ∧
      ∀ outcome ∈ before, outcome.2 = .ok ()

theorem recordsPools (exporter : Exporter μ η) (record : StorageClassRecord) :
    exporter.RecordsPools record (poolOutcomes record.storageClass record.pools exporter) := by
  have ran := exporter.recordPools_eq_outcomes record.storageClass record.pools
  have attempted := exporter.poolOutcomes_pools record.storageClass record.pools
  have each : ∀ before pool after, record.pools = before ++ pool :: after →
      (poolOutcomes record.storageClass record.pools exporter)[before.length]? = some (pool,
        ((exporter.afterPools record.storageClass before).recordPool
          record.storageClass pool).1) := by
    intro before pool after parted
    rw [parted]
    exact exporter.getElem?_poolOutcomes record.storageClass before pool after
  generalize poolOutcomes record.storageClass record.pools exporter = outcomes
    at ran attempted each ⊢
  have answer : (exporter.recordCapacity record).1 = firstFault ((poolFaults outcomes).map (·.2)) ∧
      (exporter.recordCapacity record).2.1 =
        exporter.afterPools record.storageClass record.pools := by
    unfold recordCapacity
    rw [ran]
    rcases poolFaults outcomes with _ | ⟨⟨pool, fault⟩, others⟩ <;> exact ⟨rfl, rfl⟩
  refine ⟨attempted, each, answer.2, ?_, fun fault => ?_⟩
  · rw [answer.1, ← poolFaults_eq_nil_iff]
    rcases poolFaults outcomes with _ | ⟨⟨pool, fault⟩, others⟩ <;> simp [firstFault]
  · have parted : (∃ before pool after, outcomes = before ++ (pool, .error fault) :: after ∧
        ∀ outcome ∈ before, outcome.2 = .ok ()) ↔
          ∃ pool others, poolFaults outcomes = (pool, fault) :: others := by
      rw [exists_comm]
      exact exists_congr fun pool => poolFaults_eq_cons_iff.symm
    rw [answer.1, parted]
    rcases poolFaults outcomes with _ | ⟨⟨pool, fault⟩, others⟩ <;> simp [firstFault]

end Exporter

/-! ## Counting classes -/

/-- A class in a pass: the moment from which its pools were asked, and the
exporter to which it was pushed. -/
structure ClassVisit (μ η : Type) where
  retriever : StorageClassRetriever
  start : Instant
  exporter : Exporter μ η

namespace ClassVisit

variable {μ η : Type} [Meter μ η]

/-- The pools that answered. -/
def found (client : Client) (visit : ClassVisit μ η) : List PoolCapacity :=
  answeredPools (poolAnswers client visit.retriever.pools visit.start)

/-- The exporter after the pools that answered were recorded. -/
def after (client : Client) (visit : ClassVisit μ η) : Exporter μ η :=
  visit.exporter.afterPools visit.retriever.storageClass (visit.found client)

/-- Whether the class has no pools, or some pool answered and every pool that
answered was recorded. -/
def succeeds (client : Client) (visit : ClassVisit μ η) : Bool :=
  visit.retriever.pools.isEmpty ||
    !(visit.found client).isEmpty &&
      (Exporter.poolOutcomes visit.retriever.storageClass (visit.found client) visit.exporter).all
        (·.2.isOk)

/-- Visits one after another: each class is pushed to the exporter that the ones
before have left. -/
def InTurn (client : Client) : Exporter μ η → List (ClassVisit μ η) → Exporter μ η → Prop
  | exporter, [], final => final = exporter
  | exporter, visit :: rest, final =>
      visit.exporter = exporter ∧ InTurn client (visit.after client) rest final

variable {client : Client}

theorem succeeds_iff (visit : ClassVisit μ η) :
    visit.succeeds client = true ↔ visit.retriever.pools = [] ∨ visit.found client ≠ [] ∧
      ∀ outcome ∈ Exporter.poolOutcomes visit.retriever.storageClass (visit.found client)
        visit.exporter, outcome.2 = .ok () := by
  have isOk_iff : ∀ answer : Except Fault Unit, answer.isOk = true ↔ answer = .ok () := by
    rintro (fault | ⟨⟨⟩⟩) <;> simp [Except.isOk, Except.toBool]
  simp only [succeeds, Bool.or_eq_true, Bool.and_eq_true, List.isEmpty_iff, List.all_eq_true,
    isOk_iff, Bool.not_eq_true', ← Bool.not_eq_true, ne_eq]

/-- A class whose record is pushed counts if recording it succeeds. -/
theorem value?_storageClassSink (record : StorageClassRecord) (exporter : Exporter μ η) :
    (storageClassSink record exporter).1.value? =
      (exporter.recordCapacity record).1.toOption.map fun _ => record.storageClass.name := by
  have answer : (storageClassSink record exporter).1 =
      ((Outcome.ofExcept (exporter.recordCapacity record).1).mapReason Fault.message).map
        fun _ => record.storageClass.name := rfl
  rw [answer]
  rcases (exporter.recordCapacity record).1 with fault | ⟨⟨⟩⟩ <;> rfl

/-- Pushing what a visit has given records the pools that answered, and gives
an identifier if the visit succeeds. -/
theorem pushAll_visit (calm : client.Calm) (visit : ClassVisit μ η) :
    Pipeline.pushAll storageClassSink
        (visit.retriever.record client visit.start).outcome.value?.toList visit.exporter =
      (if visit.succeeds client then [visit.retriever.storageClass.name] else [],
        visit.after client) := by
  have reads := StorageClassRetriever.readsPools calm visit.retriever visit.start
  cases ended : (visit.retriever.record client visit.start).outcome with
  | done record =>
      obtain ⟨given, rfl⟩ := (reads.done_iff record).mp ended
      have records := visit.exporter.recordsPools ⟨visit.retriever.storageClass, visit.found client⟩
      have left : (storageClassSink ⟨visit.retriever.storageClass, visit.found client⟩
          visit.exporter).2.1 = visit.after client := records.left
      have succeeds : visit.succeeds client = true ↔ (visit.exporter.recordCapacity
          ⟨visit.retriever.storageClass, visit.found client⟩).1 = .ok () := by
        rw [succeeds_iff, records.ok_iff]
        by_cases pools : visit.retriever.pools = []
        · have none : visit.found client = [] := by
            rw [found, pools]
            rfl
          simp [pools, none, Exporter.poolOutcomes]
        · have some : visit.found client ≠ [] := by
            intro silent
            obtain ⟨answer, among, statistics, answered⟩ := given.resolve_left pools
            obtain ⟨fault, failed⟩ := answeredPools_eq_nil_iff.mp silent answer among
            cases answered.symm.trans failed
          simp [pools, some]
      simp only [Outcome.value?, Option.toList_some, Pipeline.pushAll, List.append_nil]
      refine Prod.ext ?_ left
      change (storageClassSink ⟨_, visit.found client⟩ visit.exporter).1.value?.toList = _
      rw [value?_storageClassSink]
      rcases recorded : (visit.exporter.recordCapacity
        ⟨visit.retriever.storageClass, visit.found client⟩).1 with fault | ⟨⟨⟩⟩
      · have fails : visit.succeeds client = false := by
          simp [← Bool.not_eq_true, succeeds, recorded]
        rw [fails]
        rfl
      · rw [succeeds.mpr recorded]
        rfl
  | failed fault =>
      obtain ⟨silent, last⟩ := (reads.failed_iff fault).mp ended
      have none : visit.found client = [] := answeredPools_eq_nil_iff.mpr silent
      have pools : visit.retriever.pools ≠ [] := by
        intro without
        have given := (reads.done_iff ⟨visit.retriever.storageClass, _⟩).mpr ⟨.inl without, rfl⟩
        cases ended.symm.trans given
      have fails : visit.succeeds client = false := by
        rw [← Bool.not_eq_true, succeeds_iff, none]
        simp [pools]
      rw [fails, after, none]
      rfl
  | panicked panic => exact absurd ended (reads.whole panic)

/-- The records that classes give when each is read from a moment on, pushed in
order: one identifier for each class that succeeds. -/
theorem exists_pushing (calm : client.Calm) (starts : List (StorageClassRetriever × Instant))
    (exporter : Exporter μ η) :
    ∃ visits : List (ClassVisit μ η),
      visits.map (fun visit => (visit.retriever, visit.start)) = starts ∧
      InTurn client exporter visits
        (Pipeline.pushAll storageClassSink (recordsFrom (·.record client) starts) exporter).2 ∧
      (Pipeline.pushAll storageClassSink (recordsFrom (·.record client) starts) exporter).1 =
        (visits.filter (·.succeeds client)).map (·.retriever.storageClass.name) := by
  induction starts generalizing exporter with
  | nil => exact ⟨[], rfl, rfl, rfl⟩
  | cons entry rest ih =>
      obtain ⟨retriever, start⟩ := entry
      let visit : ClassVisit μ η := ⟨retriever, start, exporter⟩
      have first := visit.pushAll_visit calm
      obtain ⟨visits, others, inTurn, counted⟩ := ih (visit.after client)
      have parted : recordsFrom (·.record client) ((retriever, start) :: rest) =
          (retriever.record client start).outcome.value?.toList ++
            recordsFrom (·.record client) rest := by
        cases ended : (retriever.record client start).outcome <;>
          simp [recordsFrom, ended, Outcome.value?]
      rw [parted, Pipeline.pushAll_append, first, counted]
      refine ⟨visit :: visits, congrArg ((retriever, start) :: ·) others, ⟨rfl, inTurn⟩, ?_⟩
      by_cases pushed : visit.succeeds client = true <;> simp [pushed, visit]

end ClassVisit

/-- What a pass over storage classes counts: each class is visited once, in
some order and one on what another left, and those that succeed are counted. -/
structure CountsVisits {μ η : Type} [Meter μ η] (client : Client)
    (retrievers : List StorageClassRetriever) (exporter : Exporter μ η)
    (visits : List (ClassVisit μ η)) (result : Outcome Fault Nat) (final : Exporter μ η) :
    Prop where
  each : (visits.map (·.retriever)).Perm retrievers
  inTurn : ClassVisit.InTurn client exporter visits final
  counted : result = .done (visits.countP (·.succeeds client))

section

variable {μ η : Type} [Meter μ η] {client : Client}

theorem PipelineRun.countsVisits (calm : client.Calm) {bound count : Nat}
    {retrievers : List StorageClassRetriever} {exporter final : Exporter μ η}
    (run : PipelineRun bound (·.record client) storageClassSink retrievers exporter count final) :
    ∃ visits, CountsVisits client retrievers exporter visits (.done count) final := by
  obtain ⟨starts, pushed, rfl, perm, rfl, rfl⟩ := run.exists_starts
  obtain ⟨order, ordered, rfl⟩ := exists_perm_filterMap perm
  obtain ⟨visits, visited, inTurn, counted⟩ := ClassVisit.exists_pushing calm order exporter
  refine ⟨visits, ?_, inTurn, ?_⟩
  · have retrieved : visits.map (·.retriever) = order.map (·.1) := by
      rw [← visited, List.map_map]
      rfl
    exact retrieved ▸ ordered.map _
  · have pushed := congrArg List.length counted
    rw [List.length_map, ← List.countP_eq_length_filter] at pushed
    exact congrArg Outcome.done pushed

/-- A class is read and recorded pool by pool, whatever its pools answer and
whichever of them can be recorded, and counted by what becomes of them.  It gives
a record unless it has pools of which none answered, with those that did answer
in order, and otherwise the fault of the last.  All pools of a record are
attempted, and the answer is the fault of the first that fails.  A pass counts
the classes that have no pools, and those of which some pool answered and all
that answered were recorded, in any run; the pass on the clock is one. -/
theorem classes_counted_by_their_pools (context : CollectionContext)
    (calm : context.client.Calm) :
    (∀ (retriever : StorageClassRetriever) (start : Instant),
      retriever.ReadsPools context.client start
        (poolAnswers context.client retriever.pools start)) ∧
    (∀ (exporter : Exporter μ η) (record : StorageClassRecord),
      exporter.RecordsPools record
        (Exporter.poolOutcomes record.storageClass record.pools exporter)) ∧
    ∀ (now : Instant) (exporter : Exporter μ η) (retrievers : List StorageClassRetriever),
      (enumerateStorageClasses context now).outcome = .done retrievers →
        (∀ result final, PassRun context .storagePool now exporter result final →
          ∃ visits, CountsVisits context.client retrievers exporter visits result final) ∧
        PassRun context .storagePool now exporter
          (collect context .storagePool now exporter).result
          (collect context .storagePool now exporter).exporter := by
  refine ⟨StorageClassRetriever.readsPools calm, Exporter.recordsPools,
    fun now exporter retrievers found => ⟨fun result final run => ?_,
      collect_is_run context .storagePool now exporter⟩⟩
  obtain ⟨count, rfl, ran⟩ := RunAfter.of_done run found
  exact ran.countsVisits calm

end

/-- A class with three pools on a legacy system, of which the second has no
statistics. -/
def threePools : CollectionContext where
  client :=
    { authenticate := fun _ => ⟨0, .done ()⟩
      generation := fun _ => ⟨0, .done .legacy⟩
      sdcs := fun _ => ⟨0, .done []⟩
      sdcVolumes := fun _ _ => ⟨0, .done []⟩
      sdcStatistics := fun _ _ => ⟨0, .failed .cancelled⟩
      volumeStatistics := fun _ _ => ⟨0, .failed .cancelled⟩
      pools := fun _ => ⟨0, .done (["p", "q", "r"].map fun name => ⟨name, name, ""⟩)⟩
      poolStatistics := fun id _ =>
        ⟨3, if id = "q" then .failed .cancelled else .done ⟨4, 1, 1, 2⟩⟩
      bulk := fun _ _ => ⟨0, .failed .cancelled⟩ }
  discovery :=
    { nodes := fun _ => .ok []
      volumes := fun _ => .ok []
      storageClasses := fun driver => .ok [⟨"gold", driver, "", ["p", "q", "r"]⟩] }
  bound := 2
  drivers := ["driver"]

/-- The class is counted if the pools that answer can be recorded, and not if the
meter refuses the last of them. -/
theorem threePools_counted :
    let pass := fun refused => collect threePools .storagePool 0
      (Exporter.start { Ledger.empty with refuses := fun _ _ labels => refused ∈ labels.values })
    (pass "q").result = .done 1 ∧ (pass "r").result = .done 0 := by
  have calm : threePools.client.Calm := by
    intro id now panic
    by_cases second : id = "q" <;> simp [threePools, second]
  intro pass
  have alone : ∀ refused, ∃ visit : ClassVisit Ledger LedgerInstrument,
      visit.retriever = ⟨⟨"gold", "driver", ""⟩,
        ["p", "q", "r"].map fun name => ⟨⟨name, name⟩, .legacy, .empty⟩⟩ ∧
      visit.exporter = .start
        { Ledger.empty with refuses := fun _ _ labels => refused ∈ labels.values } ∧
      (pass refused).result = .done ([visit].countP (·.succeeds threePools.client)) := by
    intro refused
    obtain ⟨-, -, counts⟩ :=
      classes_counted_by_their_pools (μ := Ledger) (η := LedgerInstrument) threePools calm
    obtain ⟨runs, clock⟩ := counts 0 _ _ rfl
    obtain ⟨visits, each, inTurn, counted⟩ := runs _ _ clock
    obtain ⟨⟨_, start, _⟩, rfl, rfl⟩ := List.map_eq_singleton_iff.mp (List.perm_singleton.mp each)
    obtain ⟨rfl, -⟩ := inTurn
    exact ⟨_, rfl, rfl, counted⟩
  constructor
  · obtain ⟨⟨_, start, _⟩, rfl, rfl, counted⟩ := alone "q"
    exact counted
  · obtain ⟨⟨_, start, _⟩, rfl, rfl, counted⟩ := alone "r"
    exact counted

end StorageTelemetry
