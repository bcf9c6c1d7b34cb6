import Mathlib.Data.Nat.Find
import StorageTelemetry.Proofs.Moves
import StorageTelemetry.Proofs.Pipeline.ListScheduling

namespace StorageTelemetry

/-!
# The gather stage on the clock

Here a clock stands beside the gather stage, and work on an item takes as long
as the item says, however it ends.  At one moment the workers move in any
order.  The clock goes on by any span, but not while a worker that is free
could take an item, nor past the end of any work.

The jobs that come about are then given out greedily, and so the bounds on
greedy lists of jobs hold of every run of the stage.
-/

namespace Worker

variable {ι : Type}

def isFree : Worker ι → Bool
  | free => true
  | busy _ | stopped => false

def isBusy : Worker ι → Bool
  | busy _ => true
  | free | stopped => false

end Worker

namespace Gather

variable {ι ρ : Type}

/-- What an action of a worker leaves is less to be done. -/
theorem Step.remaining_lt {stage : String} {work : ι → Outcome String ρ}
    {state next : Gather ι ρ} {action : Action} (possible : Step stage work state action next) :
    Watched.remaining next + 1 ≤ Watched.remaining state := by
  let alone : Watched ι ρ := ⟨state, [], [], [], []⟩
  have ran : alone.step? stage work (.worker action) = some _ :=
    congrArg (Option.map _) (step?_eq_some_iff.mpr possible)
  exact Watched.remaining_step ran

/-- A gather stage and the time, with the moments from which the workers are
free and the jobs that were begun. -/
structure Timed (ι ρ : Type) where
  clock : Instant
  state : Gather ι ρ
  free : List Instant
  jobs : List (Job ι (Outcome String ρ))

namespace Timed

/-- A move: of a worker or of the clock. -/
inductive Move
  | act (action : Action)
  | pass (moment : Instant)
deriving DecidableEq

/-- Before anything happened. -/
def start (now : Instant) (bound : Nat) (items : List ι) : Timed ι ρ where
  clock := now
  state := .start bound items
  free := List.replicate (workerCount bound items.length) now
  jobs := []

/-- Whether the time allows an action: work ends when its time is over. -/
def allows (timed : Timed ι ρ) : Action → Bool
  | .finish worker => timed.free[worker]? = some timed.clock
  | .take _ | .stop _ => true

/-- Whether the clock may go on to a moment. -/
def mayPass (timed : Timed ι ρ) (moment : Instant) : Bool :=
  timed.clock ≤ moment && (timed.state.queue.isEmpty || !timed.state.workers.any Worker.isFree) &&
    (timed.state.workers.zip timed.free).all fun (worker, due) => !worker.isBusy || moment ≤ due

section

variable (stage : String) (work : ι → Outcome String ρ) (delay : ι → Nat)

/-- What is known after an action that led to a state. -/
def after (timed : Timed ι ρ) (state : Gather ι ρ) : Action → Timed ι ρ
  | .take worker =>
      match timed.state.queue with
      | item :: _ =>
          let due := timed.clock + delay item
          { timed with
            state := state
            free := timed.free.set worker due
            jobs := timed.jobs ++ [⟨item, worker, timed.clock, due, work item⟩] }
      | [] => { timed with state := state }
  | .finish _ | .stop _ => { timed with state := state }

/-- The stage after a move, if the move is possible. -/
def step? (timed : Timed ι ρ) : Move → Option (Timed ι ρ)
  | .act action =>
      if timed.allows action then
        (timed.state.step? stage work action).map fun state => timed.after work delay state action
      else none
  | .pass moment => if timed.mayPass moment then some { timed with clock := moment } else none

/-- The stage after a list of moves, if each is possible in its turn. -/
abbrev run? (timed : Timed ι ρ) (moves : List Move) : Option (Timed ι ρ) :=
  Moves.run? (step? stage work delay) timed moves

end

variable {stage : String} {work : ι → Outcome String ρ} {delay : ι → Nat}
  {timed next last : Timed ι ρ} {move : Move} {moves : List Move} {worker : Nat}

/-- The possible moves, with the stages they lead to. -/
inductive Step (stage : String) (work : ι → Outcome String ρ) (delay : ι → Nat)
    (timed : Timed ι ρ) : Move → Timed ι ρ → Prop
  | act {action : Action} {state : Gather ι ρ} (allowed : timed.allows action = true)
      (possible : Gather.Step stage work timed.state action state) :
      Step stage work delay timed (.act action) (timed.after work delay state action)
  | pass {moment : Instant} (allowed : timed.mayPass moment = true) :
      Step stage work delay timed (.pass moment) { timed with clock := moment }

theorem step?_eq_some_iff :
    timed.step? stage work delay move = some next ↔ Step stage work delay timed move next := by
  constructor
  · intro ran
    cases move with
    | act action =>
        rcases Option.ite_none_right_eq_some.mp ran with ⟨allowed, ran⟩
        rcases Option.map_eq_some_iff.mp ran with ⟨state, moved, rfl⟩
        exact .act allowed (Gather.step?_eq_some_iff.mp moved)
    | pass moment =>
        rcases Option.ite_none_right_eq_some.mp ran with ⟨allowed, ran⟩
        cases ran
        exact .pass allowed
  · intro possible
    cases possible with
    | act allowed possible =>
        simp only [step?, if_pos allowed, Gather.step?_eq_some_iff.mpr possible, Option.map_some]
    | pass allowed => simp only [step?, if_pos allowed]

theorem allows_finish_iff :
    timed.allows (.finish worker) = true ↔ timed.free[worker]? = some timed.clock :=
  decide_eq_true_iff

/-- No item waits for a worker that is free. -/
def Idle (timed : Timed ι ρ) : Prop :=
  timed.state.queue = [] ∨ ∀ worker ∈ timed.state.workers, worker ≠ .free

/-- No work ends before a moment. -/
def Undue (timed : Timed ι ρ) (moment : Instant) : Prop :=
  ∀ (worker : Nat) (item : ι) (due : Instant),
    timed.state.workers[worker]? = some (Worker.busy item) → timed.free[worker]? = some due →
      moment ≤ due

theorem mayPass_iff {moment : Instant} :
    timed.mayPass moment = true ↔
      timed.clock ≤ moment ∧ timed.Idle ∧ timed.Undue moment := by
  have idle : (timed.state.queue.isEmpty || !timed.state.workers.any Worker.isFree) = true ↔
      timed.Idle := by
    rw [Bool.or_eq_true, List.isEmpty_iff, Bool.not_eq_true', List.any_eq_false]
    refine or_congr_right (forall₂_congr fun worker _ => ?_)
    cases worker <;> simp [Worker.isFree]
  have undue : ((timed.state.workers.zip timed.free).all fun (worker, due) =>
      !worker.isBusy || moment ≤ due) = true ↔ timed.Undue moment := by
    rw [List.all_eq_true]
    constructor
    · intro all worker item due busy until'
      have paired : (timed.state.workers.zip timed.free)[worker]? = some (.busy item, due) :=
        List.getElem?_zip_eq_some.mpr ⟨busy, until'⟩
      simpa [Worker.isBusy] using all _ (List.mem_of_getElem? paired)
    · intro undue pair member
      rcases List.getElem?_of_mem member with ⟨index, known⟩
      rcases List.getElem?_zip_eq_some.mp known with ⟨known, until'⟩
      cases doing : pair.1 with
      | busy item =>
          have later := undue index item pair.2 (doing ▸ known) until'
          simpa [doing, Worker.isBusy] using later
      | free | stopped => simp [doing, Worker.isBusy]
  rw [mayPass, Bool.and_eq_true, Bool.and_eq_true, decide_eq_true_iff, idle, undue, and_assoc]

/-! ## Jobs are given out greedily -/

/-- How a stage that was started at some moment relates to the clock. -/
structure Kept (now : Instant) (bound : Nat) (items : List ι) (work : ι → Outcome String ρ)
    (delay : ι → Nat) (timed : Timed ι ρ) : Prop where
  workers : timed.state.workers.length = workerCount bound items.length
  queued : timed.jobs.map (·.item) ++ timed.state.queue = items
  greedy : Job.Greedy delay (List.replicate (workerCount bound items.length) now) timed.jobs
    timed.free
  results : ∀ job ∈ timed.jobs, job.result = work job.item
  stopped : .stopped ∈ timed.state.workers → timed.state.queue = []
  undue : timed.Undue timed.clock
  waiting : ∀ worker : Nat, timed.state.workers[worker]? = some Worker.free →
    timed.state.queue ≠ [] → timed.free[worker]? = some timed.clock
  past : ∀ (worker : Nat) (due : Instant), timed.free[worker]? = some due →
    (∀ item, timed.state.workers[worker]? ≠ some (Worker.busy item)) → due ≤ timed.clock

section

variable {now : Instant} {bound : Nat} {items : List ι}

theorem kept_start (now : Instant) (bound : Nat) (items : List ι) (work : ι → Outcome String ρ)
    (delay : ι → Nat) : (start now bound items).Kept now bound items work delay where
  workers := List.length_replicate
  queued := rfl
  greedy := .nil _
  results := List.forall_mem_nil _
  stopped := by
    intro member
    cases List.eq_of_mem_replicate member
  undue := by
    intro worker item due busy
    cases List.eq_of_mem_replicate (List.mem_of_getElem? busy)
  waiting := by
    intro worker free waits
    have known := (List.getElem?_eq_some_iff.mp free).1
    rw [Gather.Timed.start, Gather.start, List.length_replicate] at known
    exact List.getElem?_replicate_of_lt known
  past := by
    intro worker due known idle
    exact Nat.le_of_eq (List.eq_of_mem_replicate (List.mem_of_getElem? known))

/-- While something waits nobody was free before now. -/
theorem Kept.clock_le (kept : timed.Kept now bound items work delay)
    (waits : timed.state.queue ≠ []) : ∀ moment ∈ timed.free, timed.clock ≤ moment := by
  intro moment member
  rcases List.getElem?_of_mem member with ⟨index, known⟩
  have within : index < timed.state.workers.length := by
    rw [kept.workers, ← kept.greedy.length_of_replicate]
    exact (List.getElem?_eq_some_iff.mp known).1
  have there := List.getElem?_eq_getElem within
  cases doing : timed.state.workers[index] with
  | free =>
      have from' := kept.waiting index (doing ▸ there) waits
      exact Nat.le_of_eq (Option.some.inj (from'.symm.trans known))
  | busy item => exact kept.undue index item moment (doing ▸ there) known
  | stopped => exact absurd (kept.stopped (doing ▸ List.getElem_mem within)) waits

/-- An item is given out by the rule. -/
theorem Kept.take (kept : timed.Kept now bound items work delay) {item : ι} {rest : List ι}
    (free : timed.state.workers[worker]? = some .free) (queued : timed.state.queue = item :: rest) :
    Kept now bound items work delay (timed.after work delay
      { timed.state with
        queue := rest
        workers := timed.state.workers.set worker (.busy item) } (.take worker)) := by
  have waits : timed.state.queue ≠ [] := by simp [queued]
  have place := kept.waiting worker free waits
  have within := (List.getElem?_eq_some_iff.mp free).1
  simp only [after, queued]
  refine ⟨?_, ?_, ?_, ?_, ?_, ?_, ?_, ?_⟩
  · rw [List.length_set, kept.workers]
  · rw [List.map_append, List.append_assoc, ← kept.queued, queued]
    rfl
  · exact kept.greedy.concat place (kept.clock_le waits) rfl
  · intro job member
    rcases List.mem_append.mp member with old | new
    · exact kept.results job old
    · rw [List.mem_singleton.mp new]
  · intro member
    rcases List.mem_or_eq_of_mem_set member with old | new
    · exact absurd (kept.stopped old) waits
    · cases new
  · intro other item' due busy until'
    by_cases own : worker = other
    · subst own
      rw [List.getElem?_set_self (List.getElem?_eq_some_iff.mp place).1] at until'
      exact Option.some.inj until' ▸ Nat.le_add_right _ _
    · rw [List.getElem?_set_ne own] at busy until'
      exact kept.undue other item' due busy until'
  · intro other free' _
    by_cases own : worker = other
    · subst own
      rw [List.getElem?_set_self within] at free'
      cases free'
    · rw [List.getElem?_set_ne own] at free' ⊢
      exact kept.waiting other free' waits
  · intro other due known idle
    by_cases own : worker = other
    · subst own
      exact absurd (List.getElem?_set_self within) (idle item)
    · rw [List.getElem?_set_ne own] at known
      simp only [List.getElem?_set_ne own] at idle
      exact kept.past other due known idle

/-- A worker ends its work when it is due, or stops when nothing waits. -/
theorem Kept.rest (kept : timed.Kept now bound items work delay) {state : Gather ι ρ}
    {changed : Worker ι} (known : worker < timed.state.workers.length)
    (workers : state.workers = timed.state.workers.set worker changed)
    (queue : state.queue = timed.state.queue) (idle : changed.isBusy = false)
    (stopped : changed = .stopped → timed.state.queue = [])
    (waiting : changed = .free → timed.free[worker]? = some timed.clock)
    (past : ∀ due, timed.free[worker]? = some due → due ≤ timed.clock) :
    Kept now bound items work delay { timed with state := state } := by
  refine ⟨?_, ?_, kept.greedy, kept.results, ?_, ?_, ?_, ?_⟩
  · rw [workers, List.length_set, kept.workers]
  · rw [queue, kept.queued]
  · rw [workers, queue]
    intro member
    rcases List.mem_or_eq_of_mem_set member with old | new
    · exact kept.stopped old
    · exact stopped new.symm
  · intro other item due busy
    rw [workers] at busy
    by_cases own : worker = other
    · subst own
      rw [List.getElem?_set_self known] at busy
      rw [Option.some.inj busy] at idle
      cases idle
    · rw [List.getElem?_set_ne own] at busy
      exact kept.undue other item due busy
  · intro other free
    rw [workers] at free
    rw [queue]
    by_cases own : worker = other
    · subst own
      rw [List.getElem?_set_self known] at free
      exact fun _ => waiting (Option.some.inj free)
    · rw [List.getElem?_set_ne own] at free
      exact kept.waiting other free
  · intro other due until' idle'
    rw [workers] at idle'
    by_cases own : worker = other
    · subst own
      exact past due until'
    · simp only [List.getElem?_set_ne own] at idle'
      exact kept.past other due until' idle'

theorem Kept.step (kept : timed.Kept now bound items work delay)
    (possible : Step stage work delay timed move next) :
    next.Kept now bound items work delay := by
  cases possible with
  | act allowed possible =>
      cases possible with
      | take free queued => exact kept.take free queued
      | @finish worker item busy =>
          have ends := allows_finish_iff.mp allowed
          refine kept.rest (List.getElem?_eq_some_iff.mp busy).1 (conclude_workers ..)
            (conclude_queue ..) rfl nofun (fun _ => ends) ?_
          intro due known
          exact Nat.le_of_eq (Option.some.inj (known.symm.trans ends))
      | @stop worker free empty =>
          refine kept.rest (List.getElem?_eq_some_iff.mp free).1 rfl rfl rfl (fun _ => empty)
            nofun ?_
          intro due known
          refine kept.past worker due known fun item busy => ?_
          cases free.symm.trans busy
  | @pass moment allowed =>
      rcases mayPass_iff.mp allowed with ⟨onward, idle, undue⟩
      refine ⟨kept.workers, kept.queued, kept.greedy, kept.results, kept.stopped, undue, ?_, ?_⟩
      · intro worker free waits
        rcases idle with empty | none
        · exact absurd empty waits
        · exact absurd rfl (none _ (List.mem_of_getElem? free))
      · intro worker due known idle'
        exact Nat.le_trans (kept.past worker due known idle') onward

theorem Kept.run (kept : timed.Kept now bound items work delay)
    (ran : timed.run? stage work delay moves = some last) :
    last.Kept now bound items work delay :=
  Moves.run_induction _ ran kept fun _ _ _ kept moved => kept.step (step?_eq_some_iff.mp moved)

/-! ## Every run can be brought to an end -/

@[simp] theorem state_after (timed : Timed ι ρ) (state : Gather ι ρ) (action : Action) :
    (timed.after work delay state action).state = state := by
  cases action with
  | take worker => cases queued : timed.state.queue <;> simp [after, queued]
  | finish worker | stop worker => rfl

theorem run?_single (possible : Step stage work delay timed move next) :
    timed.run? stage work delay [move] = some next :=
  Moves.run?_cons_eq_some_iff.mpr ⟨next, step?_eq_some_iff.mpr possible, rfl⟩

/-- If somebody works, somebody ends first. -/
theorem Kept.exists_first (kept : timed.Kept now bound items work delay) {item : ι}
    (busy : timed.state.workers[worker]? = some (.busy item)) :
    ∃ (first : Nat) (item : ι) (due : Instant),
      timed.state.workers[first]? = some (.busy item) ∧ timed.free[first]? = some due ∧
        timed.Undue due := by
  classical
  have within : worker < timed.free.length := by
    rw [kept.greedy.length_of_replicate, ← kept.workers]
    exact (List.getElem?_eq_some_iff.mp busy).1
  have ends : ∃ (due first : Nat) (item : ι),
      timed.state.workers[first]? = some (.busy item) ∧ timed.free[first]? = some due :=
    ⟨_, worker, item, busy, List.getElem?_eq_getElem within⟩
  rcases Nat.find_spec ends with ⟨first, item, busy, until'⟩
  refine ⟨first, item, _, busy, until', ?_⟩
  intro other item' due busy' until'
  exact Nat.find_min' ends ⟨other, item', busy', until'⟩

/-- As long as the stage is not closed there are moves that leave less to be
done. -/
theorem Kept.exists_onward (kept : timed.Kept now bound items work delay) (stage : String)
    (going : timed.state.closed = false) :
    ∃ moves next, timed.run? stage work delay moves = some next ∧
      Watched.remaining next.state < Watched.remaining timed.state := by
  have act : ∀ {action : Action} {state : Gather ι ρ}, timed.allows action = true →
      Gather.Step stage work timed.state action state →
      ∃ moves next, timed.run? stage work delay moves = some next ∧
        Watched.remaining next.state < Watched.remaining timed.state := by
    intro action state allowed possible
    refine ⟨_, _, run?_single (.act allowed possible), ?_⟩
    rw [state_after]
    exact possible.remaining_lt
  rcases exists_step_of_not_closed stage work going with ⟨action, state, moved⟩
  cases Gather.step?_eq_some_iff.mp moved with
  | take free queued => exact act rfl (.take free queued)
  | stop free empty => exact act rfl (.stop free empty)
  | finish busy =>
      by_cases idle : timed.Idle
      · -- nobody can take anything: the clock goes on to the end of some work
        rcases kept.exists_first busy with ⟨first, item, due, busy, until', undue⟩
        have onward : timed.mayPass due = true :=
          mayPass_iff.mpr ⟨kept.undue first item due busy until', idle, undue⟩
        let later : Timed ι ρ := { timed with clock := due }
        have passed : timed.run? stage work delay [.pass due] = some later :=
          run?_single (.pass onward)
        have ended : Gather.Step stage work later.state (.finish first) _ := .finish busy
        have finished : later.run? stage work delay [.act (.finish first)] = some _ :=
          run?_single (.act (allows_finish_iff.mpr until') ended)
        refine ⟨_, _, Moves.run?_append_eq_some_iff.mpr ⟨later, passed, finished⟩, ?_⟩
        exact ended.remaining_lt
      · have waits : timed.state.queue ≠ [] := fun empty => idle (Or.inl empty)
        have someone : ∃ worker ∈ timed.state.workers, worker = .free := by
          by_contra none
          exact idle (Or.inr fun worker member free => none ⟨worker, member, free⟩)
        rcases someone with ⟨_, member, rfl⟩
        rcases List.getElem?_of_mem member with ⟨worker, free⟩
        rcases List.exists_cons_of_ne_nil waits with ⟨item, rest, queued⟩
        exact act rfl (.take free queued)

theorem Kept.exists_closing (kept : timed.Kept now bound items work delay) (stage : String) :
    ∃ moves last, timed.run? stage work delay moves = some last ∧ last.state.closed = true := by
  induction left : Watched.remaining timed.state using Nat.strong_induction_on
    generalizing timed with
  | _ left ih =>
      subst left
      cases going : timed.state.closed with
      | true => exact ⟨[], timed, rfl, going⟩
      | false =>
          rcases kept.exists_onward stage going with ⟨first, next, ran, less⟩
          rcases ih _ less (kept.run ran) rfl with ⟨second, last, ran', closed⟩
          exact ⟨first ++ second, last, Moves.run?_append_eq_some_iff.mpr ⟨next, ran, ran'⟩, closed⟩

/-! ## At the end -/

/-- Once the stage is closed every item was begun. -/
theorem Kept.items_of_closed (kept : timed.Kept now bound items work delay)
    (closed : timed.state.closed = true) : timed.jobs.map (·.item) = items := by
  have some : 0 < timed.state.workers.length := by
    rw [kept.workers, workerCount]
    omega
  rcases List.exists_mem_of_length_pos some with ⟨worker, member⟩
  have empty := kept.stopped (closed_iff.mp closed worker member ▸ member)
  rw [← kept.queued, empty, List.append_nil]

/-- Once the stage is closed all work is over. -/
theorem Kept.finish_le_of_closed (kept : timed.Kept now bound items work delay)
    (closed : timed.state.closed = true) : ∀ job ∈ timed.jobs, job.finish ≤ timed.clock := by
  intro job member
  have within := kept.greedy.worker_lt job member
  rw [List.length_replicate] at within
  have until' := kept.greedy.getElem?_last (List.getElem?_replicate_of_lt within)
  have last : job.finish ≤ Job.freeFrom now timed.jobs job.worker :=
    Job.finish_le_lastFinish now (List.mem_filter.mpr ⟨member, decide_eq_true rfl⟩)
  refine Nat.le_trans last (kept.past job.worker _ until' fun item busy => ?_)
  cases closed_iff.mp closed _ (List.mem_of_getElem? busy)

/-- Once the stage is closed the items were worked on when the schedule says. -/
theorem Kept.times_of_closed (kept : timed.Kept now bound items work delay)
    (closed : timed.state.closed = true) :
    timed.jobs.map Job.times =
      (Job.schedule bound now (fun start item => (start + delay item, work item)) items).map
        Job.times := by
  have workers : List.replicate (workerCount bound items.length) now ≠ [] := by
    have positive : workerCount bound items.length ≠ 0 := by
      rw [workerCount]
      omega
    simpa using positive
  rcases Job.greedy_assign (fun start item => (start + delay item, work item)) delay
    (fun _ _ => rfl) items workers with ⟨last, scheduled⟩
  refine kept.greedy.times_eq scheduled (List.Perm.refl _) ?_
  exact (kept.items_of_closed closed).trans (Job.items_assign _ _ _).symm

/-- The delays of all items, and the time that passes until all are done. -/
theorem Kept.bounds_of_closed (kept : timed.Kept now bound items work delay)
    (closed : timed.state.closed = true) :
    let workers := workerCount bound items.length
    let total := (items.map delay).sum
    let longest := (items.map delay).max?.getD 0
    let time := Job.lastFinish now timed.jobs - now
    longest ≤ time ∧ total ≤ workers * time ∧ workers * time ≤ total + (workers - 1) * longest := by
  intro workers total longest time
  have begun := kept.items_of_closed closed
  have delays : (timed.jobs.map fun job => delay job.item) = items.map delay := by
    rw [← begun, List.map_map]
    rfl
  have passed : workers * Job.lastFinish now timed.jobs = workers * now + workers * time := by
    rw [← Nat.mul_add, Nat.add_sub_of_le (Job.le_lastFinish now timed.jobs)]
  refine ⟨?_, ?_, ?_⟩
  · cases most : (items.map delay).max? with
    | none => simp [longest, most]
    | some delay' =>
        rcases List.mem_map.mp (delays ▸ List.max?_mem most) with ⟨job, member, rfl⟩
        have each := kept.greedy.now_add_delay_le job member
        simp only [longest, most, Option.getD_some]
        exact Nat.le_sub_of_add_le' each
  · have enough := kept.greedy.add_sum_le
    rw [delays, passed] at enough
    exact Nat.le_of_add_le_add_left enough
  · have short : ∀ job ∈ timed.jobs, delay job.item ≤ longest := by
      intro job member
      exact List.le_max?_getD_of_mem (delays ▸ List.mem_map_of_mem member)
    have close := kept.greedy.mul_lastFinish_le short
    rw [delays, passed, Nat.add_assoc] at close
    exact Nat.le_of_add_le_add_left close

end

end Timed

open Timed in
/-- For every list of items, bound on workers, work on the items and time that
it takes, and for every run on the clock:

* the run can be brought to an end;
* items are begun in the order of the list, and one that was begun occupies a
  worker for its own time, however its work ends;
* when an item is begun its worker is free, and was not free later than any
  other: until then every worker was always at work on an item begun before;
* when the stage is closed all work is over, every item having been worked on
  exactly when the schedule of the pipeline says;
* the time that passed then is no shorter than the longest item takes, nor
  than the workers need together, and no longer than the longest item takes
  after the workers have shared all the rest. -/
theorem gather_conserves_work (bound : Nat) (items : List ι) (stage : String)
    (work : ι → Outcome String ρ) (delay : ι → Nat) (now : Instant)
    (moves : List Timed.Move) (timed : Timed ι ρ)
    (ran : (Timed.start now bound items).run? stage work delay moves = some timed) :
    let workers := min (max bound 1) (max items.length 1)
    let total := (items.map delay).sum
    let longest := (items.map delay).max?.getD 0
    let time := Job.lastFinish now timed.jobs - now
    (∃ later last, timed.run? stage work delay later = some last ∧ last.state.closed = true) ∧
    (timed.jobs.map (·.item) ++ timed.state.queue = items ∧
      (timed.jobs.Pairwise fun job other => job.start ≤ other.start) ∧
      ∀ job ∈ timed.jobs, job.worker < workers ∧ job.finish = job.start + delay job.item ∧
        job.result = work job.item) ∧
    (∀ before job after, timed.jobs = before ++ job :: after →
      job.start = Job.freeFrom now before job.worker ∧
      ∀ worker < workers, job.start ≤ Job.freeFrom now before worker ∧
        ∀ moment, now ≤ moment → moment < job.start →
          ∃ other ∈ before, other.worker = worker ∧ other.start ≤ moment ∧ moment < other.finish) ∧
    (timed.state.closed = true →
      (∀ job ∈ timed.jobs, job.finish ≤ timed.clock) ∧
      timed.jobs.map Job.times =
        (Job.schedule bound now (fun start item => (start + delay item, work item)) items).map
          Job.times ∧
      longest ≤ time ∧ total ≤ workers * time ∧
        workers * time ≤ total + (workers - 1) * longest) := by
  intro workers total longest time
  have kept := (kept_start now bound items work delay).run ran
  refine ⟨kept.exists_closing stage, ⟨kept.queued, kept.greedy.starts_ordered, ?_⟩, ?_, ?_⟩
  · intro job member
    have within := kept.greedy.worker_lt job member
    rw [List.length_replicate] at within
    exact ⟨within, kept.greedy.finish_eq job member, kept.results job member⟩
  · intro before job after split
    have greedy := split ▸ kept.greedy
    rcases greedy.split with ⟨middle, begun, place, earliest⟩
    have free : ∀ worker < workers, middle[worker]? = some (Job.freeFrom now before worker) :=
      fun worker within => begun.getElem?_last (List.getElem?_replicate_of_lt within)
    have within : job.worker < workers :=
      Nat.lt_of_lt_of_eq (List.getElem?_eq_some_iff.mp place).1 begun.length_of_replicate
    refine ⟨Option.some.inj (place.symm.trans (free job.worker within)), ?_⟩
    intro worker within
    have late := earliest _ (List.mem_of_getElem? (free worker within))
    refine ⟨late, fun moment from' until' => ?_⟩
    exact begun.exists_busy (List.getElem?_replicate_of_lt within) (free worker within) from'
      (Nat.lt_of_lt_of_le until' late)
  · intro closed
    exact ⟨kept.finish_le_of_closed closed, kept.times_of_closed closed,
      kept.bounds_of_closed closed⟩

/-- Two workers and three items that take 100, 200 and 300 milliseconds: the
first breaks off after its own time, and the third is begun by the same worker. -/
theorem gather_conserves_work_beside_broken_item :
    let work : Nat → Outcome String Nat := fun item =>
      if item = 100 then .panicked .unknown else .done item
    let moves : List Timed.Move :=
      [.act (.take 0), .act (.take 1), .pass 100, .act (.finish 0), .act (.take 0), .pass 200,
       .act (.finish 1), .act (.stop 1), .pass 400, .act (.finish 0), .act (.stop 0)]
    ∃ timed, (Timed.start 0 2 [100, 200, 300]).run? "timing" work id moves = some timed ∧
      timed.state.closed = true ∧ timed.jobs.map (·.start) = [0, 0, 100] ∧
      Job.lastFinish 0 timed.jobs = 400 ∧ 300 ≤ 400 ∧ 600 ≤ 2 * 400 ∧ 2 * 400 ≤ 600 + 1 * 300 := by
  intro work moves
  have conserves := gather_conserves_work 2 [100, 200, 300] "timing" work id 0 moves _ rfl
  exact ⟨_, rfl, rfl, rfl, rfl, (conserves.2.2.2 rfl).2.2⟩

end Gather
end StorageTelemetry
