import StorageTelemetry.Proofs.Pipeline.ClockRun

namespace StorageTelemetry

/-!
# Every order of pushes occurs

A run of the pipeline pushes every record of the gather stage once, in some
order.  Conversely there is a run for every order, and so what a pipeline can
leave behind is what pushing its records in some order leaves.

The run is made in stages, each of which empties one place: one worker computes
all items, the records are received, the tasks push them in the order that is
wanted, and the identifiers are read.
-/

/-- The end of an item concerns the output and the log only. -/
theorem Gather.conclude_eq {ι ρ : Type} (stage : String) (state : Gather ι ρ) (worker : Nat)
    (outcome : Outcome String ρ) :
    conclude stage state worker outcome =
      { state with
        output := state.output ++ outcome.value?.toList
        log := (conclude stage state worker outcome).log } := by
  cases outcome <;> simp [conclude, Outcome.value?]

namespace Pipeline

variable {ι ρ σ : Type}

/-- Whether some moves lead from one state to another while the reader stays. -/
def Leads (stages : Stages) (work : ι → Outcome String ρ) (sink : Sink ρ σ)
    (state next : Pipeline ι ρ σ) : Prop :=
  ∃ actions, .dropReader ∉ actions ∧ run? stages work sink state actions = some next

variable {stages : Stages} {work : ι → Outcome String ρ} {sink : Sink ρ σ}
  {state next last : Pipeline ι ρ σ}

theorem Leads.refl (state : Pipeline ι ρ σ) : Leads stages work sink state state :=
  ⟨[], by simp, rfl⟩

theorem Leads.trans (leads : Leads stages work sink state next)
    (leads' : Leads stages work sink next last) : Leads stages work sink state last := by
  obtain ⟨first, kept, ran⟩ := leads
  obtain ⟨second, kept', ran'⟩ := leads'
  refine ⟨first ++ second, ?_, ?_⟩
  · exact fun member => (List.mem_append.mp member).elim kept kept'
  · rw [run?_append, ran]
    exact ran'

theorem leads_step {action : Action} (moved : state.step? stages work sink action = some next)
    (kept : action ≠ .dropReader) :
    Leads stages work sink state next := by
  refine ⟨[action], by simpa using kept.symm, ?_⟩
  simp only [run?, moved]

/-! ## Stages of a run -/

/-- A free worker takes the next item and finishes it. -/
theorem leads_gather_first (stages : Stages) (work : ι → Outcome String ρ) (sink : Sink ρ σ)
    {index : Nat} (free : state.gather.workers[index]? = some .free) {item : ι} {rest : List ι}
    (queued : state.gather.queue = item :: rest) :
    ∃ log, Leads stages work sink state { state with
      gather := { state.gather with
        queue := rest
        output := state.gather.output ++ (work item).value?.toList
        log := log } } := by
  have bound := (List.getElem?_eq_some_iff.mp free).1
  let taken : Gather ι ρ := { state.gather with
    queue := rest, workers := state.gather.workers.set index (.busy item) }
  have take : state.step? stages work sink (.gather (.take index)) =
      some { state with gather := taken } :=
    congrArg (Option.map _) (Gather.step?_eq_some_iff.mpr (.take free queued))
  have busy : taken.workers[index]? = some (.busy item) := List.getElem?_set_self bound
  have finish : step? stages work sink { state with gather := taken } (.gather (.finish index)) =
      some { state with
        gather := (Gather.conclude stages.gather
          { taken with workers := taken.workers.set index .free } index (work item)) } :=
    congrArg (Option.map _) (Gather.step?_eq_some_iff.mpr (.finish busy))
  have workers : taken.workers.set index .free = state.gather.workers := by
    obtain ⟨_, same⟩ := List.getElem?_eq_some_iff.mp free
    rw [List.set_set, ← same, List.set_getElem_self]
  rw [workers, Gather.conclude_eq] at finish
  exact ⟨_, (leads_step take (by simp)).trans (leads_step finish (by simp))⟩

/-- A free worker computes all items, in order. -/
theorem leads_gather (stages : Stages) (work : ι → Outcome String ρ) (sink : Sink ρ σ)
    {index : Nat} (free : state.gather.workers[index]? = some .free) :
    ∃ log, Leads stages work sink state { state with
      gather := { state.gather with
        queue := []
        output := state.gather.output ++ state.gather.queue.filterMap fun item => (work item).value?
        log := log } } := by
  generalize queued : state.gather.queue = queue
  induction queue generalizing state with
  | nil =>
      refine ⟨state.gather.log, ?_⟩
      rw [List.filterMap_nil, List.append_nil, ← queued]
      exact Leads.refl state
  | cons item rest ih =>
      obtain ⟨log, first⟩ := leads_gather_first stages work sink free queued
      obtain ⟨log', others⟩ := @ih { state with
        gather := { state.gather with
          queue := rest
          output := state.gather.output ++ (work item).value?.toList
          log := log } } free rfl
      refine ⟨log', first.trans ?_⟩
      have emitted : (work item).value?.toList ++ rest.filterMap (fun item => (work item).value?) =
          (item :: rest).filterMap fun item => (work item).value? := by
        cases gave : (work item).value? with
        | none => simp [gave]
        | some record => simp [gave]
      rw [← emitted, ← List.append_assoc]
      exact others

/-- What was emitted is received. -/
theorem leads_receive (stages : Stages) (work : ι → Outcome String ρ) (sink : Sink ρ σ)
    (state : Pipeline ι ρ σ) :
    Leads stages work sink state { state with
      gather := { state.gather with output := [] }
      tasks := state.tasks ++ state.gather.output } := by
  generalize waiting : state.gather.output = output
  induction output generalizing state with
  | nil =>
      rw [List.append_nil, ← waiting]
      exact Leads.refl state
  | cons record rest ih =>
      have received : state.step? stages work sink .receive = some { state with
          gather := { state.gather with output := rest }
          tasks := state.tasks ++ [record] } := by
        simp only [step?, waiting]
      refine (leads_step received (by simp)).trans ?_
      have others := ih { state with
        gather := { state.gather with output := rest }
        tasks := state.tasks ++ [record] } rfl
      rw [List.append_assoc, List.singleton_append] at others
      exact others

/-- The tasks push their records in any order. -/
theorem leads_push (stages : Stages) (work : ι → Outcome String ρ) (sink : Sink ρ σ)
    (state : Pipeline ι ρ σ) (reading : state.readerOpen = true) {order : List ρ}
    (perm : order.Perm state.tasks) :
    ∃ log, Leads stages work sink state { state with
      tasks := []
      shared := (pushAll sink order state.shared).2
      sent := state.sent ++ (pushAll sink order state.shared).1
      log := log } := by
  induction order generalizing state with
  | nil =>
      have none : state.tasks = [] := List.nil_perm.mp perm
      refine ⟨state.log, ?_⟩
      simp only [pushAll, List.append_nil]
      rw [← none]
      exact Leads.refl state
  | cons record rest ih =>
      obtain ⟨task, waiting⟩ := List.getElem?_of_mem (perm.subset List.mem_cons_self)
      have others : rest.Perm (state.tasks.eraseIdx task) :=
        (List.perm_cons record).mp (perm.trans (perm_cons_eraseIdx waiting))
      have pushed : state.step? stages work sink (.push task) =
          some (state.afterPush stages.push sink task record) := by
        simp only [step?, waiting, afterPush]
      obtain ⟨log, later⟩ := ih (state.afterPush stages.push sink task record)
        ((afterPush_readerOpen ..).trans reading) (by rwa [afterPush_tasks])
      refine ⟨log, (leads_step pushed (by simp)).trans ?_⟩
      simp only [pushAll]
      rw [← List.append_assoc, ← afterPush_sent stages.push sink reading task record,
        ← afterPush_shared stages.push sink state task record]
      rw [afterPush, conclude_eq] at later ⊢
      exact later

/-- What was sent is read. -/
theorem leads_read (stages : Stages) (work : ι → Outcome String ρ) (sink : Sink ρ σ)
    (state : Pipeline ι ρ σ) (reading : state.readerOpen = true) :
    Leads stages work sink state { state with
      sent := []
      drained := state.drained ++ state.sent } := by
  generalize waiting : state.sent = sent
  induction sent generalizing state with
  | nil =>
      rw [List.append_nil, ← waiting]
      exact Leads.refl state
  | cons id rest ih =>
      have read : state.step? stages work sink .read = some { state with
          sent := rest
          drained := state.drained ++ [id] } := by
        simp only [step?, reading, waiting]
      refine (leads_step read (by simp)).trans ?_
      have others := ih { state with sent := rest, drained := state.drained ++ [id] } reading rfl
      rw [List.append_assoc, List.singleton_append] at others
      exact others

/-! ## Runs for every order -/

theorem workerCount_pos (bound items : Nat) : 0 < Gather.workerCount bound items := by
  rw [Gather.workerCount]
  omega

/-- For every order of the records of the gather stage there is a run that
pushes them in this order, finishes, and reads all identifiers. -/
theorem exists_run_pushing (stages : Stages) (work : ι → Outcome String ρ) (sink : Sink ρ σ)
    (bound : Nat) (items : List ι) (initial : σ) {order : List ρ}
    (perm : order.Perm (items.filterMap fun item => (work item).value?)) :
    ∃ actions last, .dropReader ∉ actions ∧
      run? stages work sink (start bound items initial) actions = some last ∧
      last.finished = true ∧ last.shared = (pushAll sink order initial).2 ∧
      last.drained = (pushAll sink order initial).1 := by
  let workers : List (Worker ι) := List.replicate (Gather.workerCount bound items.length) .free
  let emitted : List ρ := items.filterMap fun item => (work item).value?
  let pushed := pushAll sink order initial
  have free : (start bound items initial : Pipeline ι ρ σ).gather.workers[0]? = some .free :=
    List.getElem?_replicate_of_lt (workerCount_pos bound items.length)
  obtain ⟨log, gathers⟩ := leads_gather stages work sink free
  have receives : Leads stages work sink
      ⟨⟨[], workers, emitted, log⟩, [], initial, [], [], true, []⟩
      ⟨⟨[], workers, [], log⟩, emitted, initial, [], [], true, []⟩ :=
    leads_receive stages work sink _
  obtain ⟨log', pushes⟩ := leads_push stages work sink
    ⟨⟨[], workers, [], log⟩, emitted, initial, [], [], true, []⟩ rfl perm
  let read : Pipeline ι ρ σ := ⟨⟨[], workers, [], log⟩, [], pushed.2, [], pushed.1, true, log'⟩
  have reads : Leads stages work sink
      ⟨⟨[], workers, [], log⟩, [], pushed.2, pushed.1, [], true, log'⟩ read :=
    leads_read stages work sink _ rfl
  have resting : read.Resting := ⟨rfl, rfl, rfl, rfl⟩
  obtain ⟨made, kept, ran⟩ := gathers.trans (receives.trans (pushes.trans reads))
  obtain ⟨stops, last, kept', stopped, finished, shared, drained⟩ :=
    exists_stopping_run stages work sink resting rfl
      fun worker member => List.eq_of_mem_replicate member
  refine ⟨made ++ stops, last, ?_, ?_, finished, shared, drained⟩
  · exact fun member => (List.mem_append.mp member).elim kept kept'
  · rw [run?_append, ran]
    exact stopped

end Pipeline
end StorageTelemetry
