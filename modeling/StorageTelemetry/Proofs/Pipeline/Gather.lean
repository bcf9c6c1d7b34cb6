import Mathlib.Data.List.Perm.Basic
import StorageTelemetry.Pipeline.Gather

namespace StorageTelemetry

/-!
# The gather stage under every interleaving

The stage is watched while it runs: which worker took which item, which
computations ended, and which records were emitted and received.  A run is any
list of moves of workers and of a reader, each possible in its turn; a run in
which the reader never moves is one in which nobody reads.

What is seen is tied to the state by one invariant.  The items that were taken
are the beginning of the list of items, so none is taken twice and none is
passed over.  What was taken is either computed or in the hands of the worker
that took it.  What was emitted are the records of what was computed.  And a
worker has stopped only if the queue was empty.
-/

namespace Gather

variable {ι ρ : Type}

/-! ## Single steps -/

/-- The possible moves of workers, with the states they lead to. -/
inductive Step (stage : String) (work : ι → Outcome String ρ) (state : Gather ι ρ) :
    Action → Gather ι ρ → Prop
  | take {worker : Nat} {item : ι} {rest : List ι} (free : state.workers[worker]? = some .free)
      (queued : state.queue = item :: rest) :
      Step stage work state (.take worker)
        { state with queue := rest, workers := state.workers.set worker (.busy item) }
  | finish {worker : Nat} {item : ι} (busy : state.workers[worker]? = some (.busy item)) :
      Step stage work state (.finish worker)
        (conclude stage { state with workers := state.workers.set worker .free } worker (work item))
  | stop {worker : Nat} (free : state.workers[worker]? = some .free) (empty : state.queue = []) :
      Step stage work state (.stop worker)
        { state with workers := state.workers.set worker .stopped }

theorem step?_eq_some_iff {stage : String} {work : ι → Outcome String ρ}
    {state next : Gather ι ρ} {action : Action} :
    state.step? stage work action = some next ↔ Step stage work state action next := by
  constructor
  · intro ran
    cases action with
    | take worker =>
        simp only [step?] at ran
        split at ran
        · rename_i free queued
          cases ran
          exact .take free queued
        · cases ran
    | finish worker =>
        simp only [step?] at ran
        split at ran
        · rename_i busy
          cases ran
          exact .finish busy
        · cases ran
    | stop worker =>
        simp only [step?] at ran
        split at ran
        · rename_i free empty
          cases ran
          exact .stop free empty
        · cases ran
  · intro possible
    cases possible with
    | take free queued => simp only [step?, free, queued]
    | finish busy => simp only [step?, busy]
    | stop free empty => simp only [step?, free, empty]

@[simp] theorem conclude_queue (stage : String) (state : Gather ι ρ) (worker : Nat)
    (outcome : Outcome String ρ) : (conclude stage state worker outcome).queue = state.queue := by
  cases outcome <;> rfl

@[simp] theorem conclude_workers (stage : String) (state : Gather ι ρ) (worker : Nat)
    (outcome : Outcome String ρ) :
    (conclude stage state worker outcome).workers = state.workers := by
  cases outcome <;> rfl

@[simp] theorem conclude_output (stage : String) (state : Gather ι ρ) (worker : Nat)
    (outcome : Outcome String ρ) :
    (conclude stage state worker outcome).output = state.output ++ outcome.value?.toList := by
  cases outcome <;> simp [conclude, Outcome.value?]

/-- A known worker splits the list of workers. -/
theorem exists_split_workers {workers : List (Worker ι)} {index : Nat} {worker : Worker ι}
    (known : workers[index]? = some worker) :
    ∃ before after, before.length = index ∧ workers = before ++ worker :: after ∧
      ∀ changed, workers.set index changed = before ++ changed :: after := by
  rcases List.getElem?_eq_some_iff.mp known with ⟨bound, same⟩
  refine ⟨workers.take index, workers.drop (index + 1), ?_, ?_, fun changed => ?_⟩
  · exact List.length_take_of_le (Nat.le_of_lt bound)
  · rw [← same, ← List.drop_eq_getElem_cons bound, List.take_append_drop]
  · rw [List.set_eq_take_append_cons_drop, if_pos bound]

/-! ## What workers hold -/

/-- The items in the hands of workers, numbered from a first worker on. -/
def heldFrom : Nat → List (Worker ι) → List (Nat × ι)
  | _, [] => []
  | first, .busy item :: rest => (first, item) :: heldFrom (first + 1) rest
  | first, .free :: rest | first, .stopped :: rest => heldFrom (first + 1) rest

/-- The items being computed, with the workers that took them. -/
def held (state : Gather ι ρ) : List (Nat × ι) := heldFrom 0 state.workers

theorem heldFrom_append (first : Nat) (before after : List (Worker ι)) :
    heldFrom first (before ++ after) =
      heldFrom first before ++ heldFrom (first + before.length) after := by
  induction before generalizing first with
  | nil => rfl
  | cons worker rest ih =>
      have shifted : first + (rest.length + 1) = first + 1 + rest.length := by omega
      cases worker <;> simp only [List.cons_append, heldFrom, ih, List.length_cons, shifted]

/-- A free worker that takes an item holds it. -/
theorem heldFrom_take {workers : List (Worker ι)} {index : Nat}
    (free : workers[index]? = some .free) (item : ι) :
    (heldFrom 0 (workers.set index (.busy item))).Perm
      (heldFrom 0 workers ++ [(index, item)]) := by
  rcases exists_split_workers free with ⟨before, after, length, split, changed⟩
  rw [changed, split, heldFrom_append, heldFrom_append, length, Nat.zero_add]
  simp only [heldFrom, List.append_assoc]
  exact List.Perm.append_left _ (List.perm_append_singleton (index, item) _).symm

/-- A busy worker that finishes no longer holds its item. -/
theorem heldFrom_finish {workers : List (Worker ι)} {index : Nat} {item : ι}
    (busy : workers[index]? = some (.busy item)) :
    (heldFrom 0 workers).Perm ((index, item) :: heldFrom 0 (workers.set index .free)) := by
  rcases exists_split_workers busy with ⟨before, after, length, split, changed⟩
  rw [changed, split, heldFrom_append, heldFrom_append, length, Nat.zero_add]
  simp only [heldFrom]
  exact List.perm_middle

theorem heldFrom_stop {workers : List (Worker ι)} {index : Nat}
    (free : workers[index]? = some .free) :
    heldFrom 0 (workers.set index .stopped) = heldFrom 0 workers := by
  rcases exists_split_workers free with ⟨before, after, _, split, changed⟩
  rw [changed, split, heldFrom_append, heldFrom_append]
  rfl

theorem heldFrom_eq_nil {workers : List (Worker ι)}
    (stopped : ∀ worker ∈ workers, worker = .stopped) (first : Nat) :
    heldFrom first workers = [] := by
  induction workers generalizing first with
  | nil => rfl
  | cons worker rest ih =>
      have head := stopped worker List.mem_cons_self
      subst head
      exact ih (fun worker member => stopped worker (List.mem_cons_of_mem _ member)) _

theorem heldFrom_replicate_free (count first : Nat) :
    heldFrom first (List.replicate count (Worker.free (ι := ι))) = [] := by
  induction count generalizing first with
  | zero => rfl
  | succ count ih => exact ih (first + 1)

/-- The stage is closed exactly if all workers have stopped. -/
theorem closed_iff {state : Gather ι ρ} :
    state.closed = true ↔ ∀ worker ∈ state.workers, worker = .stopped := by
  rw [closed, List.all_eq_true]
  refine forall₂_congr fun worker _ => ?_
  cases worker <;> simp

/-- As long as the stage is not closed some worker can move. -/
theorem exists_step_of_not_closed (stage : String) (work : ι → Outcome String ρ)
    {state : Gather ι ρ} (going : state.closed = false) :
    ∃ action next, state.step? stage work action = some next := by
  have unfinished : ∃ worker ∈ state.workers, worker ≠ .stopped := by
    by_contra none
    refine Bool.false_ne_true (going.symm.trans (closed_iff.mpr fun worker member => ?_))
    by_contra moving
    exact none ⟨worker, member, moving⟩
  rcases unfinished with ⟨worker, member, moving⟩
  rcases List.getElem?_of_mem member with ⟨index, known⟩
  cases worker with
  | free =>
      cases queued : state.queue with
      | nil => exact ⟨_, _, step?_eq_some_iff.mpr (.stop known queued)⟩
      | cons item rest => exact ⟨_, _, step?_eq_some_iff.mpr (.take known queued)⟩
  | busy item => exact ⟨_, _, step?_eq_some_iff.mpr (.finish known)⟩
  | stopped => exact absurd rfl moving

/-- In a closed stage no worker moves. -/
theorem Step.not_closed {stage : String} {work : ι → Outcome String ρ} {state next : Gather ι ρ}
    {action : Action} (possible : Step stage work state action next) : state.closed = false := by
  have moving : ∃ worker ∈ state.workers, worker ≠ .stopped := by
    cases possible with
    | take free queued => exact ⟨_, List.mem_of_getElem? free, by simp⟩
    | finish busy => exact ⟨_, List.mem_of_getElem? busy, by simp⟩
    | stop free empty => exact ⟨_, List.mem_of_getElem? free, by simp⟩
  rcases moving with ⟨worker, member, unfinished⟩
  refine Bool.eq_false_iff.mpr fun closed => unfinished ?_
  exact closed_iff.mp closed worker member

/-- How many records there may still be that were not received. -/
def expected (state : Gather ι ρ) : Nat :=
  state.queue.length + state.held.length + state.output.length

/-- What a worker does brings no records beyond those expected. -/
theorem Step.expected_le {stage : String} {work : ι → Outcome String ρ} {state next : Gather ι ρ}
    {action : Action} (possible : Step stage work state action next) :
    next.expected ≤ state.expected := by
  cases possible with
  | @take worker item rest free queued =>
      have held := (heldFrom_take free item).length_eq
      simp only [List.length_append, List.length_singleton] at held
      simp only [expected, Gather.held, queued, held, List.length_cons]
      omega
  | @finish worker item busy =>
      have held := (heldFrom_finish busy).length_eq
      have records : (work item).value?.toList.length ≤ 1 := by
        cases (work item).value? <;> simp
      simp only [List.length_cons] at held
      simp only [expected, Gather.held, conclude_queue, conclude_workers, conclude_output,
        List.length_append]
      omega
  | stop free empty => simp only [expected, Gather.held, heldFrom_stop free, Nat.le_refl]

/-! ## The stage as it is seen -/

/-- The stage together with what was seen of it: which worker took which item,
which computations ended, and which records were emitted and received. -/
structure Watched (ι ρ : Type) where
  state : Gather ι ρ
  taken : List (Nat × ι)
  computed : List (Nat × ι)
  emitted : List ρ
  received : List ρ

/-- A move of a worker, or of a reader that receives one record. -/
inductive Move
  | worker (action : Action)
  | receive
deriving DecidableEq

/-- What an action takes from the queue. -/
def takenBy (state : Gather ι ρ) : Action → List (Nat × ι)
  | .take worker => (state.queue.take 1).map fun item => (worker, item)
  | .finish _ | .stop _ => []

/-- The computation that an action ends. -/
def computedBy (state : Gather ι ρ) : Action → List (Nat × ι)
  | .finish worker =>
      match state.workers[worker]? with
      | some (.busy item) => [(worker, item)]
      | _ => []
  | .take _ | .stop _ => []

namespace Watched

/-- Before anything happened. -/
def start (bound : Nat) (items : List ι) : Watched ι ρ := ⟨.start bound items, [], [], [], []⟩

/-- What is seen after a move, if the move is possible. -/
def step? (stage : String) (work : ι → Outcome String ρ) (watched : Watched ι ρ) :
    Move → Option (Watched ι ρ)
  | .worker action =>
      (watched.state.step? stage work action).map fun next =>
        { watched with
          state := next
          taken := watched.taken ++ watched.state.takenBy action
          computed := watched.computed ++ watched.state.computedBy action
          emitted := watched.emitted ++ next.output.drop watched.state.output.length }
  | .receive =>
      match watched.state.output with
      | record :: rest =>
          some { watched with
            state := { watched.state with output := rest }
            received := watched.received ++ [record] }
      | [] => none

/-- What is seen after a list of moves, if each is possible in its turn. -/
def run? (stage : String) (work : ι → Outcome String ρ) :
    Watched ι ρ → List Move → Option (Watched ι ρ)
  | watched, [] => some watched
  | watched, move :: rest =>
      (watched.step? stage work move).bind fun next => next.run? stage work rest

/-- How what is seen is tied to the state. -/
structure Accounted (bound : Nat) (items : List ι) (work : ι → Outcome String ρ)
    (watched : Watched ι ρ) : Prop where
  workers : watched.state.workers.length = workerCount bound items.length
  queued : watched.taken.map (·.2) ++ watched.state.queue = items
  computing : (watched.computed ++ watched.state.held).Perm watched.taken
  emitted : watched.emitted = watched.computed.filterMap fun entry => (work entry.2).value?
  output : watched.received ++ watched.state.output = watched.emitted
  stopped : .stopped ∈ watched.state.workers → watched.state.queue = []

/-- The moves that workers still have to make, and the record that a busy one may emit. -/
def remainingWork : List (Worker ι) → Nat
  | [] => 0
  | .free :: rest => 1 + remainingWork rest
  | .busy _ :: rest => 3 + remainingWork rest
  | .stopped :: rest => remainingWork rest

theorem remainingWork_append (before after : List (Worker ι)) :
    remainingWork (before ++ after) = remainingWork before + remainingWork after := by
  induction before with
  | nil => exact (Nat.zero_add _).symm
  | cons worker rest ih =>
      cases worker with
      | free => rw [List.cons_append, remainingWork, remainingWork, ih, Nat.add_assoc]
      | busy item => rw [List.cons_append, remainingWork, remainingWork, ih, Nat.add_assoc]
      | stopped => exact ih

theorem remainingWork_replicate_free (count : Nat) :
    remainingWork (List.replicate count (Worker.free (ι := ι))) = count := by
  induction count with
  | zero => rfl
  | succ count ih => rw [List.replicate_succ, remainingWork, ih, Nat.add_comm]

/-- How much is still to be done: an item in the queue is to be taken,
finished and received, and every worker is to stop. -/
def remaining (state : Gather ι ρ) : Nat :=
  3 * state.queue.length + remainingWork state.workers + state.output.length

variable {bound : Nat} {items : List ι} {stage : String} {work : ι → Outcome String ρ}
  {watched next : Watched ι ρ}

theorem accounted_start (bound : Nat) (items : List ι) (work : ι → Outcome String ρ) :
    (start bound items).Accounted bound items work := by
  refine ⟨List.length_replicate, rfl, ?_, rfl, rfl, fun stopped => ?_⟩
  · exact List.Perm.of_eq (heldFrom_replicate_free _ 0)
  · cases List.eq_of_mem_replicate stopped

theorem remaining_start (bound : Nat) (items : List ι) :
    remaining (start bound items : Watched ι ρ).state =
      3 * items.length + workerCount bound items.length := by
  simp [start, Gather.start, remaining, remainingWork_replicate_free]

/-- What an action does keeps the account. -/
theorem Accounted.worker (accounted : watched.Accounted bound items work) {action : Action}
    {state : Gather ι ρ} (possible : Step stage work watched.state action state) :
    Accounted bound items work { watched with
      state := state
      taken := watched.taken ++ watched.state.takenBy action
      computed := watched.computed ++ watched.state.computedBy action
      emitted := watched.emitted ++ state.output.drop watched.state.output.length } := by
  cases possible with
  | @take worker item rest free queued =>
      have taken : watched.state.takenBy (.take worker) = [(worker, item)] := by
        simp [takenBy, queued]
      refine ⟨?_, ?_, ?_, ?_, ?_, fun member => ?_⟩
      · simpa using accounted.workers
      · rw [taken, ← accounted.queued, queued]
        simp
      · rw [taken, computedBy, List.append_nil]
        refine (List.Perm.append_left _ (heldFrom_take free item)).trans ?_
        rw [← List.append_assoc]
        exact accounted.computing.append_right _
      · simpa [computedBy] using accounted.emitted
      · simpa using accounted.output
      · rcases List.mem_or_eq_of_mem_set member with old | new
        · exact absurd (queued.symm.trans (accounted.stopped old)) (by simp)
        · cases new
  | @finish worker item busy =>
      have computed : watched.state.computedBy (.finish worker) = [(worker, item)] := by
        simp [computedBy, busy]
      have emitted : (conclude stage { watched.state with
          workers := watched.state.workers.set worker .free } worker (work item)).output.drop
            watched.state.output.length = (work item).value?.toList := by
        simp
      refine ⟨?_, ?_, ?_, ?_, ?_, fun member => ?_⟩
      · simpa using accounted.workers
      · simpa [takenBy] using accounted.queued
      · rw [computed, takenBy, List.append_nil, List.append_assoc, List.singleton_append]
        refine List.Perm.trans ?_ accounted.computing
        refine List.Perm.append_left _ ?_
        rw [held, conclude_workers]
        exact (heldFrom_finish busy).symm
      · have record : [(worker, item)].filterMap (fun entry => (work entry.2).value?) =
            (work item).value?.toList := by
          cases found : (work item).value? <;> simp [found]
        rw [computed, emitted, List.filterMap_append, record]
        exact congrArg (· ++ _) accounted.emitted
      · rw [emitted, conclude_output, ← List.append_assoc, accounted.output]
      · rw [conclude_queue]
        rw [conclude_workers] at member
        rcases List.mem_or_eq_of_mem_set member with old | new
        · exact accounted.stopped old
        · cases new
  | @stop worker free empty =>
      refine ⟨?_, ?_, ?_, ?_, ?_, fun _ => empty⟩
      · simpa using accounted.workers
      · simpa [takenBy] using accounted.queued
      · rw [computedBy, takenBy, List.append_nil, List.append_nil, held, heldFrom_stop free]
        exact accounted.computing
      · simpa [computedBy] using accounted.emitted
      · simpa using accounted.output

/-- Whatever moves, the account is kept. -/
theorem Accounted.step (accounted : watched.Accounted bound items work) {move : Move}
    (ran : watched.step? stage work move = some next) : next.Accounted bound items work := by
  cases move with
  | worker action =>
      rcases Option.map_eq_some_iff.mp ran with ⟨state, moved, rfl⟩
      exact accounted.worker (step?_eq_some_iff.mp moved)
  | receive =>
      simp only [step?] at ran
      split at ran
      · rename_i record rest waiting
        cases ran
        refine ⟨accounted.workers, accounted.queued, accounted.computing, accounted.emitted, ?_,
          accounted.stopped⟩
        rw [← accounted.output, waiting, List.append_assoc, List.singleton_append]
      · cases ran

/-- Every move leaves less to be done. -/
theorem remaining_step {move : Move} (ran : watched.step? stage work move = some next) :
    remaining next.state + 1 ≤ remaining watched.state := by
  cases move with
  | worker action =>
      rcases Option.map_eq_some_iff.mp ran with ⟨state, moved, rfl⟩
      cases step?_eq_some_iff.mp moved with
      | take free queued =>
          rcases exists_split_workers free with ⟨before, after, _, split, changed⟩
          simp only [remaining, changed, queued]
          rw [split]
          simp only [remainingWork_append, remainingWork, List.length_cons]
          omega
      | @finish worker item busy =>
          rcases exists_split_workers busy with ⟨before, after, _, split, changed⟩
          have records : (work item).value?.toList.length ≤ 1 := by
            cases (work item).value? <;> simp
          simp only [remaining, conclude_queue, conclude_workers, conclude_output, changed,
            List.length_append]
          rw [split]
          simp only [remainingWork_append, remainingWork]
          omega
      | stop free empty =>
          rcases exists_split_workers free with ⟨before, after, _, split, changed⟩
          simp only [remaining, changed]
          rw [split]
          simp only [remainingWork_append, remainingWork]
          omega
  | receive =>
      simp only [step?] at ran
      split at ran
      · rename_i record rest waiting
        cases ran
        simp only [remaining, waiting, List.length_cons]
        omega
      · cases ran

/-- The account is kept and the rest of the work shrinks along a whole run. -/
theorem Accounted.run (accounted : watched.Accounted bound items work) {moves : List Move}
    (ran : watched.run? stage work moves = some next) :
    next.Accounted bound items work ∧
      moves.length + remaining next.state ≤ remaining watched.state := by
  induction moves generalizing watched with
  | nil =>
      cases ran
      exact ⟨accounted, by simp⟩
  | cons move rest ih =>
      rcases Option.bind_eq_some_iff.mp ran with ⟨middle, moved, ran⟩
      have later := ih (accounted.step moved) ran
      have less := remaining_step moved
      refine ⟨later.1, ?_⟩
      rw [List.length_cons]
      omega

/-- Once the stage is closed everything was computed, by the worker that took
it. -/
theorem Accounted.computed_of_closed (accounted : watched.Accounted bound items work)
    (closed : watched.state.closed = true) :
    watched.computed.Perm watched.taken ∧ watched.taken.map (·.2) = items := by
  have stopped := closed_iff.mp closed
  constructor
  · have computing := accounted.computing
    rwa [held, heldFrom_eq_nil stopped, List.append_nil] at computing
  · have queued := accounted.queued
    have some : 0 < watched.state.workers.length := by
      rw [accounted.workers, workerCount]
      omega
    rcases List.exists_mem_of_length_pos some with ⟨worker, member⟩
    rwa [accounted.stopped (stopped worker member ▸ member), List.append_nil] at queued

/-- No record is emitted that is not one of the items', nor any twice. -/
theorem Accounted.emitted_subperm (accounted : watched.Accounted bound items work) :
    watched.emitted.Subperm (items.filterMap fun item => (work item).value?) := by
  have computed : ((watched.computed ++ watched.state.held).filterMap
      fun entry => (work entry.2).value?).Subperm
        (watched.taken.filterMap fun entry => (work entry.2).value?) :=
    (accounted.computing.filterMap _).subperm
  have taken : (watched.taken.filterMap fun entry => (work entry.2).value?).Subperm
      (items.filterMap fun item => (work item).value?) := by
    rw [← accounted.queued, List.filterMap_append, List.filterMap_map]
    exact (List.sublist_append_left _ _).subperm
  rw [List.filterMap_append, ← accounted.emitted] at computed
  exact ((List.sublist_append_left _ _).subperm.trans computed).trans taken

/-- Once the stage is closed the emitted records are those of the items that
have one. -/
theorem Accounted.emitted_of_closed (accounted : watched.Accounted bound items work)
    (closed : watched.state.closed = true) :
    watched.emitted.Perm (items.filterMap fun item => (work item).value?) := by
  obtain ⟨computed, taken⟩ := accounted.computed_of_closed closed
  have records : (items.filterMap fun item => (work item).value?) =
      watched.taken.filterMap fun entry => (work entry.2).value? := by
    rw [← taken, List.filterMap_map]
    rfl
  rw [accounted.emitted, records]
  exact computed.filterMap _

end Watched

/-- For every list of items, bound on workers, work on the items and run of
moves:

* no more items are being computed than the bound allows, nor than there are;
* the items that were taken are the beginning of the list, each taken once,
  and the rest is still in the queue;
* the run is finite, its length being bounded by the items and workers;
* unless the stage is closed some worker can move, whether or not anybody reads;
* once it is closed, every item was taken and then computed by the worker that
  took it, once, and the emitted records are those of the items that have one.

Items may be anything, so they may carry their positions, and then work on
equal items may end differently. -/
theorem gather_accounts_for_every_item (bound : Nat) (items : List ι) (stage : String)
    (work : ι → Outcome String ρ) (moves : List Move) (watched : Watched ι ρ)
    (ran : (Watched.start bound items).run? stage work moves = some watched) :
    watched.state.inFlight ≤ min (max bound 1) (max items.length 1) ∧
      watched.taken.map (·.2) ++ watched.state.queue = items ∧
      moves.length ≤ 3 * items.length + min (max bound 1) (max items.length 1) ∧
      (watched.state.closed = false →
        ∃ action next, watched.state.step? stage work action = some next) ∧
      (watched.state.closed = true →
        watched.taken.map (·.2) = items ∧ watched.computed.Perm watched.taken ∧
          watched.emitted.Perm (items.filterMap fun item => (work item).value?)) := by
  obtain ⟨accounted, length⟩ := (Watched.accounted_start bound items work).run ran
  refine ⟨?_, accounted.queued, ?_, exists_step_of_not_closed stage work, fun closed => ?_⟩
  · have workers := accounted.workers
    rw [workerCount] at workers
    rw [← workers]
    exact List.countP_le_length
  · rw [Watched.remaining_start] at length
    exact Nat.le_of_add_right_le length
  · obtain ⟨computed, taken⟩ := accounted.computed_of_closed closed
    exact ⟨taken, computed, accounted.emitted_of_closed closed⟩

/-- Two workers, of which one breaks off while the other emits a record. -/
theorem gather_accounts_for_broken_item :
    let work : Nat → Outcome String Nat := fun item =>
      if item = 1 then .panicked .unknown else .done item
    let moves : List Move :=
      [.worker (.take 0), .worker (.take 1), .worker (.finish 1), .worker (.stop 1),
       .worker (.finish 0), .worker (.stop 0)]
    ∃ watched, (Watched.start 4 [1, 2]).run? "stage" work moves = some watched ∧
      watched.state.closed = true ∧ watched.state.output = [2] ∧ watched.emitted.Perm [2] := by
  intro work moves
  have accounts := gather_accounts_for_every_item 4 [1, 2] "stage" work moves _ rfl
  exact ⟨_, rfl, rfl, rfl, (accounts.2.2.2.2 rfl).2.2⟩

end Gather
end StorageTelemetry
