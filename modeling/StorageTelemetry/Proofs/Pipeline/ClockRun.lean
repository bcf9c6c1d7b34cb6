import StorageTelemetry.Pipeline.Schedule
import StorageTelemetry.Proofs.Pipeline.Delivery

namespace StorageTelemetry

/-!
# Runs on the clock

The jobs of a schedule become moves in order of time, and the pipeline follows
each move up at once.  It is shown here that this is one of the runs of the
transition system: no move that the schedule asks for is refused, and when all
of them were made nothing is left to do but for the workers to stop.

The reason lies in the moves of each single worker.  A job begins when its
worker is free, so in order of time a worker takes and finishes in turn, and
sorting by time leaves the moves of one worker in the order in which the
schedule lists them.
-/

/-! ## Moves of single workers -/

namespace Gather

variable {ι ρ : Type}

/-- The worker that an action moves. -/
def Action.worker : Action → Nat
  | take worker | finish worker | stop worker => worker

/-- Whether actions of one worker take and finish in turn, and finish last.
The worker is busy or free at first. -/
def Alternates : Bool → List Action → Prop
  | false, [] => True
  | false, .take _ :: rest => Alternates true rest
  | true, .finish _ :: rest => Alternates false rest
  | _, _ => False

/-- Those actions that move a worker. -/
def actionsOf (worker : Nat) (actions : List Action) : List Action :=
  actions.filter fun action => action.worker = worker

/-- Whether actions fit the worker they move, if there is one. -/
def FitsWorker : Option (Worker ι) → List Action → Prop
  | some .free, actions => Alternates false actions
  | some (.busy _), actions => Alternates true actions
  | some .stopped, _ => False
  | none, actions => actions = []

/-- Whether actions fit some workers: each is moved in turn, and nobody else
is moved. -/
def Fits (workers : List (Worker ι)) (actions : List Action) : Prop :=
  ∀ index, FitsWorker workers[index]? (actionsOf index actions)

/-- How many items actions take. -/
def takes (actions : List Action) : Nat :=
  actions.countP fun action => match action with
    | .take _ => true
    | _ => false

theorem takes_take (worker : Nat) (rest : List Action) :
    takes (.take worker :: rest) = takes rest + 1 := by
  rw [takes, List.countP_cons_of_pos rfl]
  rfl

theorem actionsOf_cons (index : Nat) (action : Action) (rest : List Action) :
    actionsOf index (action :: rest) =
      if action.worker = index then action :: actionsOf index rest else actionsOf index rest := by
  by_cases own : action.worker = index <;> simp [actionsOf, own]

/-- Changing the worker that moves, in accordance with its own moves, keeps
the rest fitting. -/
theorem Fits.rest {workers : List (Worker ι)} {action : Action} {rest : List Action}
    (fits : Fits workers (action :: rest)) {changed : Worker ι}
    (bound : action.worker < workers.length)
    (own : FitsWorker (some changed) (actionsOf action.worker rest)) :
    Fits (workers.set action.worker changed) rest := by
  intro index
  by_cases here : action.worker = index
  · subst here
    rwa [List.getElem?_set_self bound]
  · have others := fits index
    rw [actionsOf_cons, if_neg here] at others
    rwa [List.getElem?_set_ne here]

/-- Actions that fit can be made: the next one takes with a free worker, or
finishes with a busy one. -/
theorem Fits.cases {workers : List (Worker ι)} {action : Action} {rest : List Action}
    (fits : Fits workers (action :: rest)) :
    (∃ index, action = .take index ∧ workers[index]? = some .free ∧
      ∀ item, Fits (workers.set index (.busy item)) rest) ∨
    ∃ index item, action = .finish index ∧ workers[index]? = some (.busy item) ∧
      Fits (workers.set index .free) rest := by
  have own := fits action.worker
  rw [actionsOf_cons, if_pos rfl] at own
  cases known : workers[action.worker]? with
  | none =>
      rw [known] at own
      cases own
  | some worker =>
      have bound : action.worker < workers.length := (List.getElem?_eq_some_iff.mp known).1
      rw [known] at own
      cases worker with
      | free =>
          cases action with
          | take index => exact Or.inl ⟨index, rfl, known, fun item => fits.rest bound own⟩
          | finish index => cases own
          | stop index => cases own
      | busy item =>
          cases action with
          | take index => cases own
          | finish index => exact Or.inr ⟨index, item, rfl, known, fits.rest bound own⟩
          | stop index => cases own
      | stopped => cases own

/-- When no action is left every worker is free. -/
theorem Fits.free_of_nil {workers : List (Worker ι)} (fits : Fits workers []) :
    ∀ worker ∈ workers, worker = .free := by
  intro worker member
  rcases List.getElem?_of_mem member with ⟨index, known⟩
  have own := fits index
  rw [known] at own
  cases worker with
  | free => rfl
  | busy item => cases own
  | stopped => cases own

/-- A step emits at most one record. -/
theorem Step.output {stage : String} {work : ι → Outcome String ρ} {state next : Gather ι ρ}
    {action : Action} (possible : Step stage work state action next) :
    next.output = state.output ∨ ∃ record, next.output = state.output ++ [record] := by
  cases possible with
  | take free queued => exact Or.inl rfl
  | @finish worker item busy =>
      rw [conclude_output]
      cases (work item).value? with
      | none => exact Or.inl (List.append_nil _)
      | some record => exact Or.inr ⟨record, rfl⟩
  | stop free empty => exact Or.inl rfl

end Gather

/-! ## Following moves up -/

namespace Pipeline

variable {ι ρ σ : Type} {stages : Stages} {work : ι → Outcome String ρ} {sink : Sink ρ σ}
  {state : Pipeline ι ρ σ}

/-- Performing actions, with those left out that are not possible, is a run. -/
theorem exists_run_of_perform (stages : Stages) (work : ι → Outcome String ρ) (sink : Sink ρ σ)
    (state : Pipeline ι ρ σ) (actions : List Action) :
    ∃ made, made.Sublist actions ∧ run? stages work sink state made =
      some (actions.foldl (perform stages work sink) state) := by
  induction actions generalizing state with
  | nil => exact ⟨[], List.Sublist.refl _, rfl⟩
  | cons action rest ih =>
      cases moved : state.step? stages work sink action with
      | none =>
          rcases ih state with ⟨made, among, ran⟩
          refine ⟨made, among.cons action, ?_⟩
          rw [List.foldl_cons, perform, moved]
          exact ran
      | some next =>
          rcases ih next with ⟨made, among, ran⟩
          refine ⟨action :: made, among.cons_cons action, ?_⟩
          rw [List.foldl_cons, perform, moved, run?, moved]
          exact ran

/-- Whether nothing is on its way between the gather stage and the reader. -/
structure Resting (state : Pipeline ι ρ σ) : Prop where
  output : state.gather.output = []
  tasks : state.tasks = []
  sent : state.sent = []
  readerOpen : state.readerOpen = true

/-- The state after a gather move and what follows it up. -/
def followUp (stages : Stages) (work : ι → Outcome String ρ) (sink : Sink ρ σ)
    (state : Pipeline ι ρ σ) (action : Gather.Action) : Pipeline ι ρ σ :=
  (withFollowUp action).foldl (perform stages work sink) state

theorem perform_of_some {action : Action} {next : Pipeline ι ρ σ}
    (moved : state.step? stages work sink action = some next) :
    state.perform stages work sink action = next := by
  rw [perform, moved, Option.getD_some]

theorem perform_of_none {action : Action} (stuck : state.step? stages work sink action = none) :
    state.perform stages work sink action = state := by
  rw [perform, stuck, Option.getD_none]

/-- A task that is alone pushes its record. -/
theorem perform_push {record : ρ} (tasks : state.tasks = [record]) :
    state.perform stages work sink (.push 0) = state.afterPush stages.push sink 0 record := by
  refine perform_of_some ?_
  simp only [step?, tasks, List.getElem?_cons_zero, afterPush]

/-- An identifier that is alone is read, and if there is none nothing happens. -/
theorem perform_read {id : Option String} (readerOpen : state.readerOpen = true)
    (sent : state.sent = id.toList) :
    state.perform stages work sink .read =
      { state with sent := [], drained := state.drained ++ id.toList } := by
  cases id with
  | none =>
      rw [perform_of_none (by simp [step?, sent])]
      cases state
      simp_all
  | some id =>
      refine perform_of_some ?_
      simp [step?, sent, readerOpen]

/-- The record of a task that is alone is pushed, and what comes of it is read. -/
theorem perform_push_read (stages : Stages) (work : ι → Outcome String ρ) (sink : Sink ρ σ)
    (state : Pipeline ι ρ σ) {record : ρ} (output : state.gather.output = [])
    (tasks : state.tasks = [record]) (sent : state.sent = []) (reading : state.readerOpen = true) :
    ((state.perform stages work sink (.push 0)).perform stages work sink .read).Resting ∧
      ((state.perform stages work sink (.push 0)).perform stages work sink .read).gather =
        state.gather := by
  have waits := afterPush_sent stages.push sink reading 0 record
  rw [sent, List.nil_append] at waits
  have reads := (afterPush_readerOpen stages.push sink state 0 record).trans reading
  have pushed := afterPush_tasks stages.push sink state 0 record
  rw [tasks, List.eraseIdx_cons_zero] at pushed
  have gather := afterPush_gather stages.push sink state 0 record
  rw [perform_push tasks, perform_read reads waits]
  exact ⟨⟨(congrArg Gather.output gather).trans output, pushed, rfl, reads⟩, gather⟩

/-- What a gather move emits is followed up to the end. -/
theorem Resting.followUp (sink : Sink ρ σ) (resting : state.Resting) {action : Gather.Action}
    {next : Gather ι ρ} (moved : state.gather.step? stages.gather work action = some next) :
    (state.followUp stages work sink action).Resting ∧
      (state.followUp stages work sink action).gather.queue = next.queue ∧
      (state.followUp stages work sink action).gather.workers = next.workers := by
  have gathered : state.perform stages work sink (.gather action) =
      { state with gather := next } :=
    perform_of_some (congrArg (Option.map _) moved)
  unfold Pipeline.followUp withFollowUp
  simp only [List.foldl_cons, List.foldl_nil, gathered]
  rcases (Gather.step?_eq_some_iff.mp moved).output with silent | ⟨record, emitted⟩
  · rw [resting.output] at silent
    have still : ∀ action ∈ [Action.receive, .push 0, .read],
        Pipeline.perform stages work sink { state with gather := next } action =
          { state with gather := next } := by
      intro action listed
      refine perform_of_none ?_
      simp only [List.mem_cons, List.not_mem_nil, or_false] at listed
      rcases listed with rfl | rfl | rfl
      · simp [step?, silent]
      · simp [step?, resting.tasks]
      · simp [step?, resting.sent]
    rw [still _ (by simp), still _ (by simp), still _ (by simp)]
    exact ⟨⟨silent, resting.tasks, resting.sent, resting.readerOpen⟩, rfl, rfl⟩
  · rw [resting.output, List.nil_append] at emitted
    let handed : Pipeline ι ρ σ :=
      { state with gather := { next with output := [] }, tasks := [record] }
    have received : Pipeline.perform stages work sink { state with gather := next } .receive =
        handed :=
      perform_of_some (by simp [step?, emitted, resting.tasks, handed])
    obtain ⟨rested, gather⟩ :=
      perform_push_read stages work sink handed rfl rfl resting.sent resting.readerOpen
    rw [received, gather]
    exact ⟨rested, rfl, rfl⟩

theorem lastState_cons (initial : Pipeline ι ρ σ) (entry : Instant × Pipeline ι ρ σ)
    (rest : List (Instant × Pipeline ι ρ σ)) :
    lastState initial (entry :: rest) = lastState entry.2 rest := by
  simp only [lastState, List.getLast?_cons, Option.map_some, Option.getD_some]
  cases rest.getLast? <;> rfl

/-- The state after following up timed moves. -/
theorem lastState_statesAlong (stages : Stages) (work : ι → Outcome String ρ) (sink : Sink ρ σ)
    (state : Pipeline ι ρ σ) (moves : List (Instant × Gather.Action)) :
    lastState state (statesAlong stages work sink state moves) =
      (moves.map (·.2)).foldl (Pipeline.followUp stages work sink) state := by
  induction moves generalizing state with
  | nil => rfl
  | cons move rest ih =>
      rw [List.map_cons, List.foldl_cons, ← ih, statesAlong, lastState_cons]
      rfl

/-- Moves that fit the workers and take no more than there is can all be made
and followed up. -/
theorem Resting.follow (stages : Stages) (work : ι → Outcome String ρ) (sink : Sink ρ σ)
    (resting : state.Resting) {actions : List Gather.Action}
    (fits : Gather.Fits state.gather.workers actions)
    (enough : Gather.takes actions = state.gather.queue.length) :
    ∃ made, .dropReader ∉ made ∧
      run? stages work sink state made =
        some (actions.foldl (Pipeline.followUp stages work sink) state) ∧
      (actions.foldl (Pipeline.followUp stages work sink) state).Resting ∧
      (actions.foldl (Pipeline.followUp stages work sink) state).gather.queue = [] ∧
      ∀ worker ∈ (actions.foldl (Pipeline.followUp stages work sink) state).gather.workers,
        worker = .free := by
  induction actions generalizing state with
  | nil =>
      have empty : state.gather.queue = [] := List.eq_nil_of_length_eq_zero enough.symm
      exact ⟨[], by simp, rfl, resting, empty, fits.free_of_nil⟩
  | cons action rest ih =>
      have step : ∃ next, state.gather.step? stages.gather work action = some next ∧
          Gather.Fits next.workers rest ∧ Gather.takes rest = next.queue.length := by
        rcases fits.cases with ⟨index, rfl, free, later⟩ | ⟨index, item, rfl, busy, later⟩
        · rw [Gather.takes_take] at enough
          cases queued : state.gather.queue with
          | nil => simp [queued] at enough
          | cons item queue =>
              rw [queued, List.length_cons] at enough
              exact ⟨_, Gather.step?_eq_some_iff.mpr (.take free queued), later item,
                Nat.succ.inj enough⟩
        · refine ⟨_, Gather.step?_eq_some_iff.mpr (.finish busy), ?_, ?_⟩
          · rwa [Gather.conclude_workers]
          · rw [Gather.conclude_queue]
            exact enough
      rcases step with ⟨next, moved, later, others⟩
      obtain ⟨rested, queue, workers⟩ := resting.followUp sink moved
      rw [← workers] at later
      rw [← queue] at others
      rcases ih rested later others with ⟨made, kept, ran, final⟩
      rcases exists_run_of_perform stages work sink state (withFollowUp action) with
        ⟨first, among, began⟩
      refine ⟨first ++ made, ?_, ?_, final⟩
      · intro member
        rcases List.mem_append.mp member with early | late
        · simpa [withFollowUp] using among.subset early
        · exact kept late
      · rw [run?_append, began]
        exact ran

/-- With an empty queue free workers stop, and nothing else changes. -/
theorem exists_stopping_run (stages : Stages) (work : ι → Outcome String ρ) (sink : Sink ρ σ)
    (resting : state.Resting) (queue : state.gather.queue = [])
    (workers : ∀ worker ∈ state.gather.workers, worker = .free) :
    ∃ stops final, .dropReader ∉ stops ∧ run? stages work sink state stops = some final ∧
      final.finished = true ∧ final.shared = state.shared ∧ final.drained = state.drained := by
  have partly : ∀ count done (state : Pipeline ι ρ σ), state.Resting → state.gather.queue = [] →
      state.gather.workers = List.replicate done .stopped ++ List.replicate count .free →
      ∃ stops final, .dropReader ∉ stops ∧ run? stages work sink state stops = some final ∧
        final.finished = true ∧ final.shared = state.shared ∧ final.drained = state.drained := by
    intro count
    induction count with
    | zero =>
        intro done state resting _ workers
        refine ⟨[], state, by simp, rfl, finished_iff.mpr ⟨?_, resting.output, resting.tasks,
          resting.sent⟩, rfl, rfl⟩
        refine Gather.closed_iff.mpr fun worker member => ?_
        rw [workers, List.replicate_zero, List.append_nil] at member
        exact List.eq_of_mem_replicate member
    | succ count ih =>
        intro done state resting queue workers
        have free : state.gather.workers[done]? = some .free := by
          simp [workers]
        have stopped : state.gather.workers.set done .stopped =
            List.replicate (done + 1) .stopped ++ List.replicate count .free := by
          rw [workers, List.set_append_right _ _ (by simp), List.replicate_succ,
            List.replicate_succ']
          simp
        have moved : state.gather.step? stages.gather work (.stop done) =
            some { state.gather with workers := state.gather.workers.set done .stopped } :=
          Gather.step?_eq_some_iff.mpr (.stop free queue)
        rcases ih (done + 1) { state with gather := { state.gather with
          workers := state.gather.workers.set done .stopped } }
          ⟨resting.output, resting.tasks, resting.sent, resting.readerOpen⟩ queue stopped with
          ⟨stops, final, kept, ran, finished⟩
        refine ⟨.gather (.stop done) :: stops, final, ?_, ?_, finished⟩
        · simpa using kept
        · simp only [run?, step?, moved, Option.map_some]
          exact ran
  have all : state.gather.workers = List.replicate state.gather.workers.length .free :=
    List.eq_replicate_iff.mpr ⟨rfl, workers⟩
  exact partly state.gather.workers.length 0 state resting queue (by simpa using all)

end Pipeline
end StorageTelemetry
