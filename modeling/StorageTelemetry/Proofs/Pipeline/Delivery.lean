import StorageTelemetry.Pipeline.Basic
import StorageTelemetry.Proofs.Pipeline.Gather

namespace StorageTelemetry

/-!
# What the pipeline delivers

A record on its way through the pipeline is in the output of the gather stage,
then with a task, then pushed.  The account of the gather stage is continued
here: the records that were received are those that wait with a task and those
that were pushed, the shared state is what pushing left of it, and as long as
the reader is there, what was read and what can still be read are the
identifiers that pushing gave.

The order of pushing is the only thing about the shared state that a run can
choose.
-/

namespace Pipeline

variable {ι ρ σ : Type}

/-- Pushes records one after another: the identifiers of the calls that gave
one, and the shared state that is left. -/
def pushAll (sink : Sink ρ σ) : List ρ → σ → List String × σ
  | [], shared => ([], shared)
  | record :: rest, shared =>
      let called := sink record shared
      let others := pushAll sink rest called.2.1
      (called.1.value?.toList ++ others.1, others.2)

theorem pushAll_append (sink : Sink ρ σ) (first second : List ρ) (shared : σ) :
    pushAll sink (first ++ second) shared =
      ((pushAll sink first shared).1 ++ (pushAll sink second (pushAll sink first shared).2).1,
        (pushAll sink second (pushAll sink first shared).2).2) := by
  induction first generalizing shared with
  | nil => rfl
  | cons head rest ih => simp only [List.cons_append, pushAll, ih, List.append_assoc]

theorem pushAll_concat (sink : Sink ρ σ) (records : List ρ) (record : ρ) (shared : σ) :
    pushAll sink (records ++ [record]) shared =
      ((pushAll sink records shared).1 ++
          (sink record (pushAll sink records shared).2).1.value?.toList,
        (sink record (pushAll sink records shared).2).2.1) := by
  simp only [pushAll_append, pushAll, List.append_nil]

theorem run?_append {stages : Stages} {work : ι → Outcome String ρ} {sink : Sink ρ σ}
    (state : Pipeline ι ρ σ) (first second : List Action) :
    run? stages work sink state (first ++ second) =
      (run? stages work sink state first).bind fun middle =>
        run? stages work sink middle second := by
  induction first generalizing state with
  | nil => rfl
  | cons action rest ih =>
      simp only [List.cons_append, run?]
      cases state.step? stages work sink action with
      | none => rfl
      | some next => exact ih next

/-- An entry that is known by its index comes first, up to the order. -/
theorem perm_cons_eraseIdx {α : Type} {entries : List α} {index : Nat} {entry : α}
    (known : entries[index]? = some entry) : entries.Perm (entry :: entries.eraseIdx index) := by
  rcases List.getElem?_eq_some_iff.mp known with ⟨bound, rfl⟩
  exact (List.getElem_cons_eraseIdx_perm bound).symm

/-- How the state of a pipeline is tied to what was seen of its gather stage
and to the records that were pushed. -/
structure Accounted (bound : Nat) (items : List ι) (work : ι → Outcome String ρ)
    (sink : Sink ρ σ) (initial : σ) (state : Pipeline ι ρ σ) (watched : Gather.Watched ι ρ)
    (pushed : List ρ) : Prop where
  gather : watched.state = state.gather
  accounted : watched.Accounted bound items work
  handled : (pushed ++ state.tasks).Perm watched.received
  shared : state.shared = (pushAll sink pushed initial).2
  delivered : state.readerOpen = true →
    state.drained ++ state.sent = (pushAll sink pushed initial).1

variable {bound : Nat} {items : List ι} {stages : Stages} {work : ι → Outcome String ρ}
  {sink : Sink ρ σ} {initial : σ} {state next : Pipeline ι ρ σ}
  {watched : Gather.Watched ι ρ} {pushed : List ρ}

theorem accounted_start (bound : Nat) (items : List ι) (work : ι → Outcome String ρ)
    (sink : Sink ρ σ) (initial : σ) :
    (start bound items initial).Accounted bound items work sink initial
      (.start bound items) [] :=
  ⟨rfl, Gather.Watched.accounted_start bound items work, List.Perm.refl _, rfl, fun _ => rfl⟩

/-- The end of a sink call concerns what is sent and the log only. -/
theorem conclude_eq (stage : String) (state : Pipeline ι ρ σ) (outcome : Outcome String String) :
    conclude stage state outcome =
      { state with
        sent := if state.readerOpen then state.sent ++ outcome.value?.toList else state.sent
        log := (conclude stage state outcome).log } := by
  cases outcome with
  | done id =>
      cases reading : state.readerOpen with
      | true => simp [conclude, reading, Outcome.value?]
      | false =>
          cases state
          cases reading
          rfl
  | failed reason => simp [conclude, Outcome.value?]
  | panicked panic => simp [conclude, Outcome.value?]

/-- The state after a task pushed its record. -/
def afterPush (stage : String) (sink : Sink ρ σ) (state : Pipeline ι ρ σ) (task : Nat)
    (record : ρ) : Pipeline ι ρ σ :=
  conclude stage { state with
    tasks := state.tasks.eraseIdx task
    shared := (sink record state.shared).2.1
    log := state.log ++ (sink record state.shared).2.2 } (sink record state.shared).1

@[simp] theorem afterPush_gather (stage : String) (sink : Sink ρ σ) (state : Pipeline ι ρ σ)
    (task : Nat) (record : ρ) : (state.afterPush stage sink task record).gather = state.gather := by
  rw [afterPush, conclude_eq]

@[simp] theorem afterPush_tasks (stage : String) (sink : Sink ρ σ) (state : Pipeline ι ρ σ)
    (task : Nat) (record : ρ) :
    (state.afterPush stage sink task record).tasks = state.tasks.eraseIdx task := by
  rw [afterPush, conclude_eq]

@[simp] theorem afterPush_shared (stage : String) (sink : Sink ρ σ) (state : Pipeline ι ρ σ)
    (task : Nat) (record : ρ) :
    (state.afterPush stage sink task record).shared = (sink record state.shared).2.1 := by
  rw [afterPush, conclude_eq]

@[simp] theorem afterPush_drained (stage : String) (sink : Sink ρ σ) (state : Pipeline ι ρ σ)
    (task : Nat) (record : ρ) :
    (state.afterPush stage sink task record).drained = state.drained := by
  rw [afterPush, conclude_eq]

@[simp] theorem afterPush_readerOpen (stage : String) (sink : Sink ρ σ) (state : Pipeline ι ρ σ)
    (task : Nat) (record : ρ) :
    (state.afterPush stage sink task record).readerOpen = state.readerOpen := by
  rw [afterPush, conclude_eq]

theorem afterPush_sent (stage : String) (sink : Sink ρ σ) {state : Pipeline ι ρ σ}
    (reading : state.readerOpen = true) (task : Nat) (record : ρ) :
    (state.afterPush stage sink task record).sent =
      state.sent ++ (sink record state.shared).1.value?.toList := by
  rw [afterPush, conclude_eq]
  exact if_pos reading

/-- A task that pushes its record keeps the account. -/
theorem Accounted.push
    (accounted : state.Accounted bound items work sink initial watched pushed) (stage : String)
    {task : Nat} {record : ρ} (waiting : state.tasks[task]? = some record) :
    (state.afterPush stage sink task record).Accounted bound items work sink initial watched
      (pushed ++ [record]) := by
  refine ⟨?_, accounted.accounted, ?_, ?_, fun stillOpen => ?_⟩
  · rw [afterPush_gather]
    exact accounted.gather
  · rw [afterPush_tasks, List.append_assoc, List.singleton_append]
    exact ((perm_cons_eraseIdx waiting).symm.append_left pushed).trans accounted.handled
  · rw [afterPush_shared, pushAll_concat, ← accounted.shared]
  · rw [afterPush_readerOpen] at stillOpen
    rw [afterPush_drained, afterPush_sent stage sink stillOpen, pushAll_concat, ← accounted.shared,
      ← accounted.delivered stillOpen, List.append_assoc]

/-- A move that is not a push keeps the account, with the same records pushed. -/
theorem Accounted.step_of_not_push
    (accounted : state.Accounted bound items work sink initial watched pushed) {action : Action}
    (other : ∀ task, action ≠ .push task)
    (ran : state.step? stages work sink action = some next) :
    ∃ watched', next.Accounted bound items work sink initial watched' pushed := by
  cases action with
  | gather action =>
      rcases Option.map_eq_some_iff.mp ran with ⟨stage, moved, rfl⟩
      have possible := Gather.step?_eq_some_iff.mp (accounted.gather ▸ moved)
      exact ⟨_, rfl, accounted.accounted.worker possible, accounted.handled, accounted.shared,
        accounted.delivered⟩
  | receive =>
      simp only [step?] at ran
      split at ran
      · rename_i record rest waiting
        cases ran
        have received : watched.step? stages.gather work .receive = some { watched with
            state := { watched.state with output := rest }
            received := watched.received ++ [record] } := by
          simp only [Gather.Watched.step?, accounted.gather, waiting]
        refine ⟨_, ?_, accounted.accounted.step received, ?_, accounted.shared,
          accounted.delivered⟩
        · rw [accounted.gather]
        · rw [← List.append_assoc]
          exact accounted.handled.append_right _
      · cases ran
  | push task => exact absurd rfl (other task)
  | read =>
      simp only [step?] at ran
      split at ran
      · rename_i id rest reading sent
        cases ran
        refine ⟨watched, accounted.gather, accounted.accounted, accounted.handled,
          accounted.shared, fun isOpen => ?_⟩
        rw [← accounted.delivered isOpen, sent, List.append_assoc, List.singleton_append]
      · cases ran
  | dropReader =>
      cases ran
      exact ⟨watched, accounted.gather, accounted.accounted, accounted.handled, accounted.shared,
        fun impossible => absurd impossible Bool.false_ne_true⟩

/-- Whatever moves, the account is kept. -/
theorem Accounted.step
    (accounted : state.Accounted bound items work sink initial watched pushed) {action : Action}
    (ran : state.step? stages work sink action = some next) :
    ∃ watched' pushed', next.Accounted bound items work sink initial watched' pushed' := by
  by_cases pushes : ∃ task, action = .push task
  · rcases pushes with ⟨task, rfl⟩
    simp only [step?] at ran
    split at ran
    · rename_i record waiting
      cases ran
      exact ⟨watched, pushed ++ [record], accounted.push stages.push waiting⟩
    · cases ran
  · have other : ∀ task, action ≠ .push task := fun task same => pushes ⟨task, same⟩
    rcases accounted.step_of_not_push other ran with ⟨watched', accounted'⟩
    exact ⟨watched', pushed, accounted'⟩

theorem Accounted.run
    (accounted : state.Accounted bound items work sink initial watched pushed)
    {actions : List Action} (ran : run? stages work sink state actions = some next) :
    ∃ watched' pushed', next.Accounted bound items work sink initial watched' pushed' := by
  induction actions generalizing state watched pushed with
  | nil =>
      cases ran
      exact ⟨watched, pushed, accounted⟩
  | cons action rest ih =>
      simp only [run?] at ran
      split at ran
      · rename_i middle moved
        rcases accounted.step moved with ⟨watched', pushed', accounted'⟩
        exact ih accounted' ran
      · cases ran

/-- A run without pushes keeps the account, with the same records pushed. -/
theorem Accounted.run_of_not_push
    (accounted : state.Accounted bound items work sink initial watched pushed)
    {actions : List Action} (others : ∀ task, .push task ∉ actions)
    (ran : run? stages work sink state actions = some next) :
    ∃ watched', next.Accounted bound items work sink initial watched' pushed := by
  induction actions generalizing state watched with
  | nil =>
      cases ran
      exact ⟨watched, accounted⟩
  | cons action rest ih =>
      simp only [run?] at ran
      split at ran
      · rename_i middle moved
        have first : ∀ task, action ≠ .push task := by
          intro task same
          exact others task (same ▸ List.mem_cons_self)
        have later : ∀ task, .push task ∉ rest := by
          intro task member
          exact others task (List.mem_cons_of_mem _ member)
        rcases accounted.step_of_not_push first moved with ⟨watched', accounted'⟩
        exact ih accounted' later ran
      · cases ran

/-- The reader stays until it is dropped. -/
theorem step?_readerOpen {action : Action} (kept : action ≠ .dropReader)
    (ran : state.step? stages work sink action = some next) :
    next.readerOpen = state.readerOpen := by
  cases action with
  | gather action =>
      rcases Option.map_eq_some_iff.mp ran with ⟨stage, moved, rfl⟩
      rfl
  | receive =>
      simp only [step?] at ran
      split at ran <;> cases ran
      rfl
  | push task =>
      simp only [step?] at ran
      split at ran
      · rename_i record waiting
        cases ran
        exact afterPush_readerOpen stages.push sink state task record
      · cases ran
  | read =>
      simp only [step?] at ran
      split at ran <;> cases ran
      rfl
  | dropReader => exact absurd rfl kept

theorem run?_readerOpen {actions : List Action} (kept : .dropReader ∉ actions)
    (ran : run? stages work sink state actions = some next) :
    next.readerOpen = state.readerOpen := by
  induction actions generalizing state with
  | nil =>
      cases ran
      rfl
  | cons action rest ih =>
      simp only [run?] at ran
      split at ran
      · rename_i middle moved
        have first : action ≠ .dropReader := fun same => kept (same ▸ List.mem_cons_self)
        have others := ih (fun member => kept (List.mem_cons_of_mem _ member)) ran
        exact others.trans (step?_readerOpen first moved)
      · cases ran

theorem finished_iff {state : Pipeline ι ρ σ} :
    state.finished = true ↔ state.gather.closed = true ∧ state.gather.output = [] ∧
      state.tasks = [] ∧ state.sent = [] := by
  simp [finished, and_assoc]

/-- Once nothing is on its way any more, every record of the gather stage was
pushed once. -/
theorem Accounted.pushed_of_closed
    (accounted : state.Accounted bound items work sink initial watched pushed)
    (closed : state.gather.closed = true) (output : state.gather.output = [])
    (tasks : state.tasks = []) :
    pushed.Perm (items.filterMap fun item => (work item).value?) := by
  have handled := accounted.handled
  have received := accounted.accounted.output
  rw [tasks, List.append_nil] at handled
  rw [accounted.gather, output, List.append_nil] at received
  refine handled.trans ((List.Perm.of_eq received).trans ?_)
  exact accounted.accounted.emitted_of_closed (accounted.gather ▸ closed)

/-- A run that is finished and kept its reader pushed every record of the
gather stage once, in some order: the shared state is what pushing in that
order leaves, and the identifiers it gave were all read. -/
theorem exists_pushed_of_finished {actions : List Action} (kept : .dropReader ∉ actions)
    (ran : run? stages work sink (start bound items initial) actions = some next)
    (finished : next.finished = true) :
    ∃ pushed, pushed.Perm (items.filterMap fun item => (work item).value?) ∧
      next.shared = (pushAll sink pushed initial).2 ∧
      next.drained = (pushAll sink pushed initial).1 := by
  rcases (accounted_start bound items work sink initial).run ran with ⟨watched, pushed, accounted⟩
  obtain ⟨closed, output, tasks, sent⟩ := finished_iff.mp finished
  refine ⟨pushed, accounted.pushed_of_closed closed output tasks, accounted.shared, ?_⟩
  have isOpen : next.readerOpen = true := (run?_readerOpen kept ran).trans rfl
  have delivered := accounted.delivered isOpen
  rwa [sent, List.append_nil] at delivered

end Pipeline
end StorageTelemetry
