import Mathlib.Algebra.GroupWithZero.Nat
import Mathlib.Data.List.Perm.Subperm
import StorageTelemetry.Proofs.Pipeline.Delivery

namespace StorageTelemetry

/-!
# Draining the pipeline

To the pipeline a sink call is one move.  Here it is followed more closely: a
task begins its call at one moment and ends it at another, so that many calls
are under way at once.  Nor does the reader see whether the pipeline is
finished.  It reads until the channel of identifiers is closed, and that is
the case once the receiver that makes the tasks and every task have given up
their ends of it.

What is followed stays a run of the pipeline, in which a call counts at its
end.  The account of what the pipeline delivers is extended by the tasks: the
calls that were begun are those that ended and those under way.  The receiver
gives up its end only when the gather stage is closed and all its records were
received, so after that no task is made, and when the last task has ended the
account of all records is settled.
-/

namespace Pipeline

variable {ι ρ σ : Type}

/-- How far a task has come with its record. -/
inductive Task (ρ : Type)
  | waiting (record : ρ)
  | calling (record : ρ)
deriving DecidableEq

namespace Task

def record : Task ρ → ρ
  | waiting record | calling record => record

/-- The record of a sink call under way. -/
def called? : Task ρ → Option ρ
  | waiting _ => none
  | calling record => some record

/-- The moves that a task still has to make, and the identifier it may send. -/
def remaining : Task ρ → Nat
  | waiting _ => 3
  | calling _ => 2

end Task

/-- A pipeline together with what was seen of it: its tasks, whether the
receiver still holds its end of the channel of identifiers, the records with
which sink calls were begun, the calls that ended, each with its outcome, and
what draining returned. -/
structure Watched (ι ρ σ : Type) where
  state : Pipeline ι ρ σ
  tasks : List (Task ρ)
  receiving : Bool
  begun : List ρ
  ended : List (ρ × Outcome String String)
  returned : Option (List String)

/-- A move of a gather worker, of the receiver, of a task, or of the reader.
The receiver hangs up when it finds its input closed, and the reader finishes
when it finds the channel of identifiers closed. -/
inductive Move
  | gather (action : Gather.Action)
  | receive
  | hangUp
  | beginCall (task : Nat)
  | endCall (task : Nat)
  | read
  | finish
  | dropReader
deriving DecidableEq

/-- What a move is to the pipeline. -/
def Move.actions : Move → List Action
  | gather action => [.gather action]
  | receive => [.receive]
  | endCall task => [.push task]
  | read => [.read]
  | dropReader => [.dropReader]
  | hangUp | beginCall _ | finish => []

namespace Watched

/-- Before anything happened. -/
def start (bound : Nat) (items : List ι) (initial : σ) : Watched ι ρ σ where
  state := .start bound items initial
  tasks := []
  receiving := true
  begun := []
  ended := []
  returned := none

/-- The records of the sink calls under way. -/
def underWay (watched : Watched ι ρ σ) : List ρ := watched.tasks.filterMap Task.called?

/-- Whether nobody can send an identifier any more. -/
def hungUp (watched : Watched ι ρ σ) : Bool := !watched.receiving && watched.tasks.isEmpty

/-- Whether the reader is still reading. -/
def reading (watched : Watched ι ρ σ) : Bool :=
  watched.state.readerOpen && watched.returned.isNone

/-- What is seen after a move, if the move is possible. -/
def step? (stages : Stages) (work : ι → Outcome String ρ) (sink : Sink ρ σ)
    (watched : Watched ι ρ σ) : Move → Option (Watched ι ρ σ)
  | .gather action =>
      (watched.state.step? stages work sink (.gather action)).map fun state =>
        { watched with state }
  | .receive =>
      match watched.state.gather.output with
      | record :: _ =>
          (watched.state.step? stages work sink .receive).map fun state =>
            { watched with state, tasks := watched.tasks ++ [.waiting record] }
      | [] => none
  | .hangUp =>
      if watched.receiving && watched.state.gather.closed && watched.state.gather.output.isEmpty
      then some { watched with receiving := false }
      else none
  | .beginCall task =>
      match watched.tasks[task]? with
      | some (.waiting record) =>
          some { watched with
            tasks := watched.tasks.set task (.calling record)
            begun := watched.begun ++ [record] }
      | _ => none
  | .endCall task =>
      match watched.tasks[task]? with
      | some (.calling record) =>
          (watched.state.step? stages work sink (.push task)).map fun state =>
            { watched with
              state
              tasks := watched.tasks.eraseIdx task
              ended := watched.ended ++ [(record, (sink record watched.state.shared).1)] }
      | _ => none
  | .read =>
      (watched.state.step? stages work sink .read).map fun state => { watched with state }
  | .finish =>
      if watched.reading && watched.hungUp && watched.state.sent.isEmpty
      then some { watched with returned := some watched.state.drained }
      else none
  | .dropReader =>
      if watched.reading
      then (watched.state.step? stages work sink .dropReader).map fun state =>
        { watched with state }
      else none

/-- What is seen after a list of moves, if each is possible in its turn. -/
def run? (stages : Stages) (work : ι → Outcome String ρ) (sink : Sink ρ σ) :
    Watched ι ρ σ → List Move → Option (Watched ι ρ σ)
  | watched, [] => some watched
  | watched, move :: rest =>
      (watched.step? stages work sink move).bind fun next => next.run? stages work sink rest

/-- The possible moves, with what is seen after them. -/
inductive Step (stages : Stages) (work : ι → Outcome String ρ) (sink : Sink ρ σ)
    (watched : Watched ι ρ σ) : Move → Watched ι ρ σ → Prop
  | gather {action : Gather.Action} {next : Gather ι ρ}
      (possible : Gather.Step stages.gather work watched.state.gather action next) :
      Step stages work sink watched (.gather action)
        { watched with state := { watched.state with gather := next } }
  | receive {record : ρ} {rest : List ρ} (emitted : watched.state.gather.output = record :: rest) :
      Step stages work sink watched .receive
        { watched with
          state := { watched.state with
            gather := { watched.state.gather with output := rest }
            tasks := watched.state.tasks ++ [record] }
          tasks := watched.tasks ++ [.waiting record] }
  | hangUp (receiving : watched.receiving = true) (closed : watched.state.gather.closed = true)
      (output : watched.state.gather.output = []) :
      Step stages work sink watched .hangUp { watched with receiving := false }
  | beginCall {task : Nat} {record : ρ} (waiting : watched.tasks[task]? = some (.waiting record)) :
      Step stages work sink watched (.beginCall task)
        { watched with
          tasks := watched.tasks.set task (.calling record)
          begun := watched.begun ++ [record] }
  | endCall {task : Nat} {record : ρ} (calling : watched.tasks[task]? = some (.calling record))
      (known : watched.state.tasks[task]? = some record) :
      Step stages work sink watched (.endCall task)
        { watched with
          state := watched.state.afterPush stages.push sink task record
          tasks := watched.tasks.eraseIdx task
          ended := watched.ended ++ [(record, (sink record watched.state.shared).1)] }
  | read {id : String} {rest : List String} (isOpen : watched.state.readerOpen = true)
      (sent : watched.state.sent = id :: rest) :
      Step stages work sink watched .read
        { watched with
          state := { watched.state with sent := rest, drained := watched.state.drained ++ [id] } }
  | finish (reading : watched.reading = true) (hungUp : watched.hungUp = true)
      (sent : watched.state.sent = []) :
      Step stages work sink watched .finish
        { watched with returned := some watched.state.drained }
  | dropReader (reading : watched.reading = true) :
      Step stages work sink watched .dropReader
        { watched with state := { watched.state with readerOpen := false, sent := [] } }

/-- How what is seen is tied to the pipeline. -/
structure Accounted (bound : Nat) (items : List ι) (work : ι → Outcome String ρ)
    (sink : Sink ρ σ) (initial : σ) (watched : Watched ι ρ σ) : Prop where
  pipeline : ∃ seen, watched.state.Accounted bound items work sink initial seen
    (watched.ended.map (·.1))
  tasks : watched.tasks.map Task.record = watched.state.tasks
  begun : (watched.ended.map (·.1) ++ watched.underWay).Perm watched.begun
  answered : watched.ended.filterMap (fun call => call.2.value?) =
    (pushAll sink (watched.ended.map (·.1)) initial).1
  called : ∀ call ∈ watched.ended, ∃ shared, call.2 = (sink call.1 shared).1
  received : watched.receiving = false →
    watched.state.gather.closed = true ∧ watched.state.gather.output = []
  returned : ∀ ids, watched.returned = some ids →
    watched.hungUp = true ∧ watched.state.readerOpen = true ∧ watched.state.sent = [] ∧
      ids = watched.state.drained

variable {bound : Nat} {items : List ι} {stages : Stages} {work : ι → Outcome String ρ}
  {sink : Sink ρ σ} {initial : σ} {watched next : Watched ι ρ σ}

theorem accounted_start (bound : Nat) (items : List ι) (work : ι → Outcome String ρ)
    (sink : Sink ρ σ) (initial : σ) :
    (start bound items initial).Accounted bound items work sink initial where
  pipeline := ⟨_, Pipeline.accounted_start bound items work sink initial⟩
  tasks := rfl
  begun := List.Perm.refl _
  answered := rfl
  called := by simp [start]
  received := by simp [start]
  returned := by simp [start]

/-- A task's record is the one that the pipeline holds in its place. -/
theorem getElem?_tasks (tasks : watched.tasks.map Task.record = watched.state.tasks) {index : Nat}
    {task : Task ρ} (known : watched.tasks[index]? = some task) :
    watched.state.tasks[index]? = some task.record := by
  rw [← tasks, List.getElem?_map, known, Option.map_some]

theorem step?_eq_some_iff (tasks : watched.tasks.map Task.record = watched.state.tasks)
    {move : Move} :
    watched.step? stages work sink move = some next ↔
      Step stages work sink watched move next := by
  constructor
  · intro ran
    cases move with
    | gather action =>
        rcases Option.map_eq_some_iff.mp ran with ⟨state, moved, rfl⟩
        rcases Option.map_eq_some_iff.mp moved with ⟨gather, possible, rfl⟩
        exact .gather (Gather.step?_eq_some_iff.mp possible)
    | receive =>
        simp only [step?] at ran
        split at ran
        · rename_i record rest emitted
          simp only [Pipeline.step?, emitted, Option.map_some] at ran
          cases ran
          exact .receive emitted
        · cases ran
    | hangUp =>
        simp only [step?] at ran
        split at ran
        · rename_i ready
          cases ran
          simp only [Bool.and_eq_true, List.isEmpty_iff] at ready
          exact .hangUp ready.1.1 ready.1.2 ready.2
        · cases ran
    | beginCall task =>
        simp only [step?] at ran
        split at ran
        · rename_i record waiting
          cases ran
          exact .beginCall waiting
        · cases ran
    | endCall task =>
        simp only [step?] at ran
        split at ran
        · rename_i record calling
          have known := getElem?_tasks tasks calling
          simp only [Pipeline.step?, known, Option.map_some] at ran
          cases ran
          exact .endCall calling known
        · cases ran
    | read =>
        rcases Option.map_eq_some_iff.mp ran with ⟨state, moved, rfl⟩
        simp only [Pipeline.step?] at moved
        split at moved
        · rename_i isOpen sent
          cases moved
          exact .read isOpen sent
        · cases moved
    | finish =>
        simp only [step?] at ran
        split at ran
        · rename_i ready
          cases ran
          simp only [Bool.and_eq_true, List.isEmpty_iff] at ready
          exact .finish ready.1.1 ready.1.2 ready.2
        · cases ran
    | dropReader =>
        simp only [step?] at ran
        split at ran
        · rename_i reading
          cases ran
          exact .dropReader reading
        · cases ran
  · intro possible
    cases possible with
    | gather possible =>
        simp only [step?, Pipeline.step?, Gather.step?_eq_some_iff.mpr possible, Option.map_some]
    | receive emitted => simp only [step?, Pipeline.step?, emitted, Option.map_some]
    | hangUp receiving closed output =>
        simp only [step?, receiving, closed, output, List.isEmpty_nil, Bool.and_self, if_true]
    | beginCall waiting => simp only [step?, waiting]
    | endCall calling known =>
        simp only [step?, Pipeline.step?, calling, known, Option.map_some, afterPush]
    | read isOpen sent => simp only [step?, Pipeline.step?, isOpen, sent, Option.map_some]
    | finish reading hungUp sent =>
        simp only [step?, reading, hungUp, sent, List.isEmpty_nil, Bool.and_self, if_true]
    | dropReader reading => simp only [step?, Pipeline.step?, reading, if_true, Option.map_some]

/-! ## Tasks -/

/-- What takes a task's place stands beside the others. -/
theorem set_perm_cons_eraseIdx {α : Type} {entries : List α} {index : Nat} {entry : α}
    (known : entries[index]? = some entry) (changed : α) :
    (entries.set index changed).Perm (changed :: entries.eraseIdx index) := by
  have bound := (List.getElem?_eq_some_iff.mp known).1
  have placed : (entries.set index changed)[index]? = some changed :=
    List.getElem?_set_self bound
  have others := perm_cons_eraseIdx placed
  rwa [List.eraseIdx_set_eq] at others

/-- A call that a task begins is under way. -/
theorem underWay_begin {tasks : List (Task ρ)} {index : Nat} {record : ρ}
    (waiting : tasks[index]? = some (.waiting record)) :
    ((tasks.set index (.calling record)).filterMap Task.called?).Perm
      (tasks.filterMap Task.called? ++ [record]) := by
  have after := (set_perm_cons_eraseIdx waiting (.calling record)).filterMap Task.called?
  have before := (perm_cons_eraseIdx waiting).filterMap Task.called?
  simp only [List.filterMap_cons, Task.called?] at after before
  exact after.trans ((before.cons record).symm.trans (List.perm_append_singleton record _).symm)

/-- A call that a task ends was under way. -/
theorem underWay_end {tasks : List (Task ρ)} {index : Nat} {record : ρ}
    (calling : tasks[index]? = some (.calling record)) :
    (tasks.filterMap Task.called?).Perm
      (record :: (tasks.eraseIdx index).filterMap Task.called?) :=
  (perm_cons_eraseIdx calling).filterMap Task.called?

theorem underWay_sublist (tasks : List (Task ρ)) :
    (tasks.filterMap Task.called?).Sublist (tasks.map Task.record) := by
  induction tasks with
  | nil => exact List.Sublist.refl _
  | cons task rest ih =>
      cases task with
      | waiting record => exact ih.cons record
      | calling record => exact ih.cons_cons record

/-! ## The account -/

theorem hungUp_iff : watched.hungUp = true ↔ watched.receiving = false ∧ watched.tasks = [] := by
  simp [hungUp]

theorem reading_iff :
    watched.reading = true ↔ watched.state.readerOpen = true ∧ watched.returned = none := by
  simp [reading]

/-- A followed move is a run of the pipeline. -/
theorem Step.actions {move : Move} (possible : Step stages work sink watched move next) :
    Pipeline.run? stages work sink watched.state move.actions = some next.state := by
  cases possible with
  | gather possible =>
      simp only [Move.actions, Pipeline.run?, Pipeline.step?,
        Gather.step?_eq_some_iff.mpr possible, Option.map_some]
  | receive emitted => simp only [Move.actions, Pipeline.run?, Pipeline.step?, emitted]
  | hangUp | beginCall | finish => rfl
  | endCall calling known =>
      simp only [Move.actions, Pipeline.run?, Pipeline.step?, known, afterPush]
  | read isOpen sent => simp only [Move.actions, Pipeline.run?, Pipeline.step?, isOpen, sent]
  | dropReader => rfl

/-- Where no call ends, the same records are pushed. -/
theorem Step.pipeline {move : Move} (possible : Step stages work sink watched move next)
    (others : ∀ task, move ≠ .endCall task) {pushed : List ρ}
    (pipeline : ∃ seen, watched.state.Accounted bound items work sink initial seen pushed) :
    ∃ seen, next.state.Accounted bound items work sink initial seen pushed := by
  rcases pipeline with ⟨seen, accounted⟩
  have pushless : ∀ task, .push task ∉ move.actions := by
    intro task member
    cases move with
    | endCall task => exact others task rfl
    | gather action | receive | hangUp | beginCall index | read | finish | dropReader =>
        simp [Move.actions] at member
  exact accounted.run_of_not_push pushless possible.actions

/-- A task that ends its call pushed its record. -/
theorem Accounted.endCall (accounted : watched.Accounted bound items work sink initial)
    (stages : Stages) {task : Nat} {record : ρ}
    (calling : watched.tasks[task]? = some (.calling record))
    (known : watched.state.tasks[task]? = some record) :
    Accounted bound items work sink initial { watched with
      state := watched.state.afterPush stages.push sink task record
      tasks := watched.tasks.eraseIdx task
      ended := watched.ended ++ [(record, (sink record watched.state.shared).1)] } := by
  rcases accounted.pipeline with ⟨seen, pipeline⟩
  have busy : watched.tasks ≠ [] := by
    intro none
    simp [none] at calling
  constructor
  · rw [List.map_append]
    exact ⟨seen, pipeline.push stages.push known⟩
  · rw [afterPush_tasks, ← accounted.tasks, List.eraseIdx_map]
  · have ends := underWay_end calling
    have begun := accounted.begun
    rw [underWay] at begun
    rw [List.map_append, List.map_singleton, List.append_assoc, List.singleton_append, underWay]
    exact (ends.symm.append_left _).trans begun
  · have own : ∀ outcome : Outcome String String,
        [(record, outcome)].filterMap (fun call => call.2.value?) = outcome.value?.toList := by
      intro outcome
      cases outcome <;> rfl
    rw [List.filterMap_append, List.map_append, List.map_singleton, pushAll_concat,
      accounted.answered, ← pipeline.shared, own]
  · intro call member
    rcases List.mem_append.mp member with before | own
    · exact accounted.called call before
    · exact ⟨watched.state.shared, by rw [List.mem_singleton.mp own]⟩
  · rw [afterPush_gather]
    exact accounted.received
  · intro ids returned
    have hungUp := hungUp_iff.mp (accounted.returned ids returned).1
    exact absurd hungUp.2 busy

/-- Whatever moves, the account is kept. -/
theorem Accounted.step (accounted : watched.Accounted bound items work sink initial) {move : Move}
    (ran : watched.step? stages work sink move = some next) :
    next.Accounted bound items work sink initial := by
  have possible := (step?_eq_some_iff accounted.tasks).mp ran
  have drained : ∀ ids, watched.returned = some ids →
      watched.receiving = false ∧ watched.tasks = [] := by
    intro ids returned
    exact hungUp_iff.mp (accounted.returned ids returned).1
  have kept : (∀ task, move ≠ .endCall task) → ∃ seen,
      next.state.Accounted bound items work sink initial seen (watched.ended.map (·.1)) := by
    intro others
    exact possible.pipeline others accounted.pipeline
  cases possible with
  | gather moved =>
      refine ⟨kept (by simp), accounted.tasks, accounted.begun,
        accounted.answered, accounted.called, ?_, accounted.returned⟩
      intro stopped
      exact absurd (accounted.received stopped).1 (by simp [moved.not_closed])
  | @receive record rest emitted =>
      have going : watched.receiving ≠ false := by
        intro stopped
        simp [(accounted.received stopped).2] at emitted
      refine ⟨kept (by simp), ?_, ?_, accounted.answered,
        accounted.called, ?_, ?_⟩
      · rw [List.map_append, accounted.tasks]
        rfl
      · have same : (watched.tasks ++ [Task.waiting record]).filterMap Task.called? =
            watched.underWay := by
          rw [List.filterMap_append, underWay]
          exact List.append_nil _
        rw [underWay, same]
        exact accounted.begun
      · intro stopped
        exact absurd stopped going
      · intro ids returned
        exact absurd (drained ids returned).1 going
  | hangUp receiving closed output =>
      refine ⟨accounted.pipeline, accounted.tasks, accounted.begun, accounted.answered,
        accounted.called, fun _ => ⟨closed, output⟩, ?_⟩
      intro ids returned
      have stopped := (drained ids returned).1
      rw [receiving] at stopped
      cases stopped
  | @beginCall task record waiting =>
      have busy : watched.tasks ≠ [] := by
        intro none
        simp [none] at waiting
      refine ⟨accounted.pipeline, ?_, ?_, accounted.answered, accounted.called,
        accounted.received, ?_⟩
      · have known := getElem?_tasks accounted.tasks waiting
        rcases List.getElem?_eq_some_iff.mp known with ⟨bound, own⟩
        rw [List.map_set, accounted.tasks]
        exact (congrArg _ own.symm).trans (List.set_getElem_self bound)
      · have begins := underWay_begin waiting
        rw [underWay]
        refine (begins.append_left _).trans ?_
        rw [← List.append_assoc]
        exact accounted.begun.append_right _
      · intro ids returned
        exact absurd (drained ids returned).2 busy
  | endCall calling known => exact accounted.endCall stages calling known
  | @read id rest isOpen sent =>
      refine ⟨kept (by simp), accounted.tasks, accounted.begun,
        accounted.answered, accounted.called, accounted.received, ?_⟩
      intro ids returned
      have none := (accounted.returned ids returned).2.2.1
      rw [sent] at none
      cases none
  | finish reading hungUp sent =>
      refine ⟨accounted.pipeline, accounted.tasks, accounted.begun, accounted.answered,
        accounted.called, accounted.received, ?_⟩
      intro ids returned
      cases returned
      exact ⟨hungUp, (reading_iff.mp reading).1, sent, rfl⟩
  | dropReader reading =>
      refine ⟨kept (by simp), accounted.tasks, accounted.begun,
        accounted.answered, accounted.called, accounted.received, ?_⟩
      intro ids returned
      have none := (reading_iff.mp reading).2
      rw [returned] at none
      cases none

/-- What is followed along a run is a run of the pipeline, and its account is
kept. -/
theorem Accounted.run (accounted : watched.Accounted bound items work sink initial)
    {moves : List Move} (ran : watched.run? stages work sink moves = some next) :
    next.Accounted bound items work sink initial ∧
      Pipeline.run? stages work sink watched.state (moves.flatMap Move.actions) =
        some next.state := by
  induction moves generalizing watched with
  | nil =>
      cases ran
      exact ⟨accounted, rfl⟩
  | cons move rest ih =>
      rcases Option.bind_eq_some_iff.mp ran with ⟨middle, moved, ran⟩
      have possible := (step?_eq_some_iff accounted.tasks).mp moved
      have later := ih (accounted.step moved) ran
      refine ⟨later.1, ?_⟩
      rw [List.flatMap_cons, run?_append, possible.actions]
      exact later.2

/-! ## What is still to be done -/

/-- A record that is received is given to a task, which begins and ends its
call; then its identifier is read.  The receiver is to hang up, and the reader
to finish or to go away. -/
def remaining (watched : Watched ι ρ σ) : Nat :=
  Gather.Watched.remaining watched.state.gather + 3 * watched.state.gather.expected +
    (watched.tasks.map Task.remaining).sum + watched.state.sent.length +
    watched.receiving.toNat + watched.reading.toNat

theorem remaining_start (bound : Nat) (items : List ι) (initial : σ) :
    remaining (start bound items initial : Watched ι ρ σ) =
      6 * items.length + Gather.workerCount bound items.length + 2 := by
  have gather := Gather.Watched.remaining_start (ρ := ρ) bound items
  have held : Gather.held (.start bound items : Gather ι ρ) = [] :=
    Gather.heldFrom_replicate_free _ 0
  have expected : Gather.expected (.start bound items : Gather ι ρ) = items.length := by
    rw [Gather.expected, held]
    rfl
  have worker : Gather.Watched.remaining (.start bound items : Gather ι ρ) =
      3 * items.length + Gather.workerCount bound items.length := gather
  have reading : (start bound items initial : Watched ι ρ σ).reading = true := rfl
  rw [remaining, reading]
  simp only [start, Pipeline.start, worker, expected, List.map_nil, List.sum_nil,
    List.length_nil, Bool.toNat_true]
  omega

/-- What tasks still have to do, with one of them in front. -/
theorem sum_remaining {tasks : List (Task ρ)} {index : Nat} {task : Task ρ}
    (known : tasks[index]? = some task) :
    (tasks.map Task.remaining).sum =
      task.remaining + ((tasks.eraseIdx index).map Task.remaining).sum := by
  have inFront := (perm_cons_eraseIdx known).map Task.remaining
  rw [inFront.sum_nat, List.map_cons, List.sum_cons]

/-- Every move leaves less to be done. -/
theorem Step.remaining_lt {move : Move} (possible : Step stages work sink watched move next) :
    next.remaining + 1 ≤ watched.remaining := by
  cases possible with
  | @gather action gather moved =>
      let alone : Gather.Watched ι ρ := ⟨watched.state.gather, [], [], [], []⟩
      have ran : alone.step? stages.gather work (.worker action) = some _ :=
        congrArg (Option.map _) (Gather.step?_eq_some_iff.mpr moved)
      have less : Gather.Watched.remaining gather + 1 ≤
          Gather.Watched.remaining watched.state.gather := Gather.Watched.remaining_step ran
      have expected := moved.expected_le
      simp only [remaining, reading] at less ⊢
      omega
  | @receive record rest emitted =>
      simp only [remaining, reading, Gather.Watched.remaining, Gather.expected, Gather.held,
        emitted, List.length_cons, List.map_append, List.sum_append, List.map_singleton,
        List.sum_singleton, Task.remaining]
      omega
  | hangUp receiving closed output =>
      simp only [remaining, reading, receiving, Bool.toNat_true, Bool.toNat_false]
      omega
  | @beginCall task record waiting =>
      have bound := (List.getElem?_eq_some_iff.mp waiting).1
      have before := sum_remaining waiting
      have after := sum_remaining (List.getElem?_set_self (a := Task.calling record) bound)
      rw [List.eraseIdx_set_eq] at after
      simp only [remaining, reading, Task.remaining] at before after ⊢
      omega
  | @endCall task record calling known =>
      have before := sum_remaining calling
      have sends : (watched.state.afterPush stages.push sink task record).sent.length ≤
          watched.state.sent.length + 1 := by
        have single : (sink record watched.state.shared).1.value?.toList.length ≤ 1 := by
          cases (sink record watched.state.shared).1.value? <;> simp
        rw [afterPush, conclude_eq]
        dsimp only
        split
        · rw [List.length_append]
          omega
        · omega
      simp only [remaining, reading, Task.remaining, afterPush_gather, afterPush_readerOpen]
        at before ⊢
      omega
  | @read id rest isOpen sent =>
      simp only [remaining, reading, sent, List.length_cons]
      omega
  | finish reading hungUp sent =>
      have ends := (reading_iff.mp reading)
      simp only [remaining, Watched.reading, ends, Option.isNone_none, Option.isNone_some,
        Bool.and_true, Bool.and_false, Bool.toNat_true, Bool.toNat_false]
      omega
  | dropReader reading =>
      have ends := (reading_iff.mp reading)
      simp only [remaining, Watched.reading, ends, Option.isNone_none, Bool.and_true,
        Bool.toNat_true, Bool.toNat_false, List.length_nil]
      omega

/-- As long as somebody may still send an identifier, or the reader reads,
there is a move to be made other than dropping the reader. -/
theorem Accounted.exists_move (accounted : watched.Accounted bound items work sink initial)
    (stages : Stages) (going : ¬(watched.hungUp = true ∧ watched.reading = false)) :
    ∃ move next, move ≠ .dropReader ∧ watched.step? stages work sink move = some next := by
  have possible : ∃ move next, move ≠ .dropReader ∧
      Step stages work sink watched move next := by
    cases tasks : watched.tasks with
    | cons task rest =>
        have first : watched.tasks[0]? = some task := by rw [tasks, List.getElem?_cons_zero]
        cases task with
        | waiting record => exact ⟨.beginCall 0, _, by simp, .beginCall first⟩
        | calling record =>
            exact ⟨.endCall 0, _, by simp, .endCall first (getElem?_tasks accounted.tasks first)⟩
    | nil =>
        cases receiving : watched.receiving with
        | true =>
            cases closed : watched.state.gather.closed with
            | false =>
                rcases Gather.exists_step_of_not_closed stages.gather work closed with
                  ⟨action, gather, moved⟩
                exact ⟨.gather action, _, by simp, .gather (Gather.step?_eq_some_iff.mp moved)⟩
            | true =>
                cases output : watched.state.gather.output with
                | nil => exact ⟨.hangUp, _, by simp, .hangUp receiving closed output⟩
                | cons record rest => exact ⟨.receive, _, by simp, .receive output⟩
        | false =>
            have hungUp : watched.hungUp = true := hungUp_iff.mpr ⟨receiving, tasks⟩
            have reading : watched.reading = true := by
              by_contra idle
              exact going ⟨hungUp, Bool.eq_false_iff.mpr idle⟩
            have isOpen := (reading_iff.mp reading).1
            cases sent : watched.state.sent with
            | nil => exact ⟨.finish, _, by simp, .finish reading hungUp sent⟩
            | cons id rest => exact ⟨.read, _, by simp, .read isOpen sent⟩
  rcases possible with ⟨move, next, kept, possible⟩
  exact ⟨move, next, kept, (step?_eq_some_iff accounted.tasks).mpr possible⟩

/-- Along a run there is less to be done by the number of its moves. -/
theorem remaining_run (accounted : watched.Accounted bound items work sink initial)
    {moves : List Move} (ran : watched.run? stages work sink moves = some next) :
    moves.length + next.remaining ≤ watched.remaining := by
  induction moves generalizing watched with
  | nil =>
      cases ran
      simp
  | cons move rest ih =>
      rcases Option.bind_eq_some_iff.mp ran with ⟨middle, moved, ran⟩
      have later := ih (accounted.step moved) ran
      have less := ((step?_eq_some_iff accounted.tasks).mp moved).remaining_lt
      rw [List.length_cons]
      omega

/-! ## Exactly once -/

/-- No call is begun with anything but a record of some item, nor twice with
any. -/
theorem Accounted.begun_subperm (accounted : watched.Accounted bound items work sink initial) :
    watched.begun.Subperm (items.filterMap fun item => (work item).value?) := by
  rcases accounted.pipeline with ⟨seen, pipeline⟩
  have among : (watched.ended.map (·.1) ++ watched.underWay).Subperm
      (watched.ended.map (·.1) ++ watched.state.tasks) := by
    rw [← accounted.tasks]
    exact ((List.Sublist.refl _).append (underWay_sublist watched.tasks)).subperm
  have received : seen.received.Subperm seen.emitted := by
    rw [← pipeline.accounted.output]
    exact (List.sublist_append_left _ _).subperm
  have begun := accounted.begun.symm.subperm.trans among
  have handled := begun.trans pipeline.handled.subperm
  exact (handled.trans received).trans pipeline.accounted.emitted_subperm

/-- When nobody can send an identifier any more, every call has ended and
every record was handed over in one call. -/
theorem Accounted.ended_of_hungUp (accounted : watched.Accounted bound items work sink initial)
    (hungUp : watched.hungUp = true) :
    (watched.ended.map (·.1)).Perm (items.filterMap fun item => (work item).value?) ∧
      watched.underWay = [] := by
  obtain ⟨stopped, idle⟩ := hungUp_iff.mp hungUp
  obtain ⟨closed, output⟩ := accounted.received stopped
  have none : watched.state.tasks = [] := by
    rw [← accounted.tasks, idle, List.map_nil]
  rcases accounted.pipeline with ⟨seen, pipeline⟩
  constructor
  · exact pipeline.pushed_of_closed closed output none
  · rw [underWay, idle, List.filterMap_nil]

theorem Accounted.begun_of_hungUp (accounted : watched.Accounted bound items work sink initial)
    (hungUp : watched.hungUp = true) :
    watched.begun.Perm (items.filterMap fun item => (work item).value?) := by
  obtain ⟨ended, idle⟩ := accounted.ended_of_hungUp hungUp
  have begun := accounted.begun
  rw [idle, List.append_nil] at begun
  exact begun.symm.trans ended

/-- What draining returns are the identifiers of the calls that gave one. -/
theorem Accounted.returned_perm (accounted : watched.Accounted bound items work sink initial)
    {ids : List String} (returned : watched.returned = some ids) :
    ids.Perm (watched.ended.filterMap fun call => call.2.value?) := by
  obtain ⟨_, isOpen, sent, rfl⟩ := accounted.returned ids returned
  rcases accounted.pipeline with ⟨seen, pipeline⟩
  have delivered := pipeline.delivered isOpen
  rw [sent, List.append_nil, ← accounted.answered] at delivered
  exact List.Perm.of_eq delivered

end Watched

/-- For every list of items, bound on workers, work, sink and run of moves of
workers, receiver, tasks and reader:

* what is followed is a run of the pipeline, and its length is bounded;
* at any moment the sink was called at most once for each record of the items,
  every call that was begun has ended or is under way, and one that has ended
  did so as the sink says;
* when nothing can move any more, but that the reader might still be dropped,
  the sink was called once for every record and all calls have ended, whether
  or not the reader is there; and if it is there, draining has returned;
* when draining has returned, the sink was called once for every record and
  all calls have ended, and the identifiers are those of exactly the calls that
  gave one.

The outcome of a call may depend on what earlier calls left behind, so calls
with equal records may end differently. -/
theorem sink_called_once_for_every_record (bound : Nat) (items : List ι) (stages : Stages)
    (work : ι → Outcome String ρ) (sink : Sink ρ σ) (initial : σ) (moves : List Move)
    (watched : Watched ι ρ σ)
    (ran : (Watched.start bound items initial).run? stages work sink moves = some watched) :
    let records := items.filterMap fun item => (work item).value?
    let handedOver := watched.begun.Perm records ∧ (watched.ended.map (·.1)).Perm records ∧
      watched.underWay = []
    (run? stages work sink (.start bound items initial) (moves.flatMap Move.actions) =
        some watched.state ∧
      moves.length ≤ 6 * items.length + min (max bound 1) (max items.length 1) + 2) ∧
    (watched.begun.Subperm records ∧
      (watched.ended.map (·.1) ++ watched.underWay).Perm watched.begun ∧
      ∀ call ∈ watched.ended, ∃ shared, call.2 = (sink call.1 shared).1) ∧
    ((∀ move, move ≠ .dropReader → watched.step? stages work sink move = none) →
      handedOver ∧ (watched.state.readerOpen = true → ∃ ids, watched.returned = some ids)) ∧
    ∀ ids, watched.returned = some ids →
      handedOver ∧ ids.Perm (watched.ended.filterMap fun call => call.2.value?) := by
  intro records handedOver
  have started := Watched.accounted_start bound items work sink initial
  obtain ⟨accounted, followed⟩ := started.run ran
  have settled : watched.hungUp = true → handedOver := by
    intro hungUp
    have ended := accounted.ended_of_hungUp hungUp
    exact ⟨accounted.begun_of_hungUp hungUp, ended.1, ended.2⟩
  refine ⟨⟨followed, ?_⟩, ⟨accounted.begun_subperm, accounted.begun, accounted.called⟩,
    fun stuck => ?_, fun ids returned => ?_⟩
  · have length := Watched.remaining_run started ran
    rw [Watched.remaining_start, Gather.workerCount] at length
    exact Nat.le_of_add_right_le length
  · have drained : watched.hungUp = true ∧ watched.reading = false := by
      by_contra going
      rcases accounted.exists_move stages going with ⟨move, next, kept, moved⟩
      rw [stuck move kept] at moved
      cases moved
    refine ⟨settled drained.1, fun isOpen => ?_⟩
    have returned : watched.returned.isNone = false := by
      have idle := drained.2
      rwa [Watched.reading, isOpen, Bool.true_and] at idle
    exact Option.isSome_iff_exists.mp (Option.isNone_eq_false_iff.mp returned)
  · exact ⟨settled (accounted.returned ids returned).1, accounted.returned_perm returned⟩

/-- Three items, of which one has no record and one a record on which the sink
breaks off: both calls are under way at once, and draining returns the one
identifier. -/
theorem sink_called_once_beside_broken_call :
    let work : Nat → Outcome String Nat := fun item =>
      if item = 2 then .failed "no record" else .done item
    let sink : Sink Nat Unit := fun record _ =>
      (if record = 1 then .panicked .unknown else .done "three", (), [])
    let moves : List Move :=
      [.gather (.take 0), .gather (.finish 0), .receive, .beginCall 0, .gather (.take 1),
       .gather (.take 0), .gather (.finish 0), .receive, .beginCall 1, .gather (.finish 1),
       .gather (.stop 0), .gather (.stop 1), .hangUp, .endCall 1, .read, .endCall 0, .finish]
    ∃ watched, (Watched.start 2 [1, 2, 3] ()).run? ⟨"gather", "push"⟩ work sink moves =
        some watched ∧
      watched.returned = some ["three"] ∧ watched.begun.Perm [1, 3] ∧
      ["three"].Perm (watched.ended.filterMap fun call => call.2.value?) := by
  intro work sink moves
  have once := sink_called_once_for_every_record 2 [1, 2, 3] ⟨"gather", "push"⟩ work sink () moves
    _ rfl
  have drained := once.2.2.2 ["three"] rfl
  exact ⟨_, rfl, rfl, drained.1.1, drained.2⟩

end Pipeline
end StorageTelemetry
