import Mathlib.Algebra.Order.BigOperators.Group.List
import Mathlib.Algebra.Order.Ring.Nat
import StorageTelemetry.Proofs.Pipeline.Drain
import StorageTelemetry.Proofs.Pipeline.Timeline

namespace StorageTelemetry

/-!
# Jobs given out from a list

Items wait in a list, and each is begun by a worker that is free before all
others, at the moment from which it is free.  Then no worker idles as long as
something waits, and the time until everything is done is close to what the
workers could do at best.

The argument counts the moments from which workers are free.  Beginning an item
moves one of them on by the delay of the item, so together they are always what
they were at first and the delays of all items begun.  When the item is begun
that ends last, every worker has been busy until then; so up to that moment the
workers together have worked no more than the delays of the other items.
-/

namespace Job

variable {ι β : Type}

/-- Whether jobs are given out so, and from which moments the workers are free
before and after them. -/
inductive Greedy (delay : ι → Nat) : List Instant → List (Job ι β) → List Instant → Prop
  | nil (free : List Instant) : Greedy delay free [] free
  | cons {free last : List Instant} {job : Job ι β} {rest : List (Job ι β)}
      (place : free[job.worker]? = some job.start)
      (earliest : ∀ moment ∈ free, job.start ≤ moment)
      (lasts : job.finish = job.start + delay job.item)
      (others : Greedy delay (free.set job.worker job.finish) rest last) :
      Greedy delay free (job :: rest) last

/-- From when a worker is free that was free from some moment and then did its
share of some jobs. -/
def freeFrom (moment : Instant) (jobs : List (Job ι β)) (worker : Nat) : Instant :=
  lastFinish moment (jobs.filter fun job => job.worker = worker)

/-! ## The last end -/

theorem lastFinish_cons (moment : Instant) (job : Job ι β) (rest : List (Job ι β)) :
    lastFinish moment (job :: rest) = lastFinish (max moment job.finish) rest := rfl

theorem le_lastFinish (moment : Instant) (jobs : List (Job ι β)) :
    moment ≤ lastFinish moment jobs := by
  induction jobs generalizing moment with
  | nil => exact Nat.le_refl moment
  | cons job rest ih =>
      rw [lastFinish_cons]
      exact Nat.le_trans (Nat.le_max_left _ _) (ih _)

theorem finish_le_lastFinish (moment : Instant) {jobs : List (Job ι β)} {job : Job ι β}
    (member : job ∈ jobs) : job.finish ≤ lastFinish moment jobs := by
  induction jobs generalizing moment with
  | nil => cases member
  | cons first rest ih =>
      rw [lastFinish_cons]
      rcases List.mem_cons.mp member with same | later
      · rw [same]
        exact Nat.le_trans (Nat.le_max_right _ _) (le_lastFinish _ rest)
      · exact ih _ later

/-- The last end is that of some job, unless there was nothing to do. -/
theorem lastFinish_mem (moment : Instant) (jobs : List (Job ι β)) :
    lastFinish moment jobs = moment ∨ ∃ job ∈ jobs, lastFinish moment jobs = job.finish := by
  induction jobs generalizing moment with
  | nil => exact Or.inl rfl
  | cons job rest ih =>
      rw [lastFinish_cons]
      rcases ih (max moment job.finish) with still | ⟨other, later, ends⟩
      · rw [still]
        rcases Nat.le_total moment job.finish with up | down
        · exact Or.inr ⟨job, List.mem_cons_self, Nat.max_eq_right up⟩
        · exact Or.inl (Nat.max_eq_left down)
      · exact Or.inr ⟨other, List.mem_cons_of_mem _ later, ends⟩

namespace Greedy

variable {delay : ι → Nat} {free middle last : List Instant} {jobs first second : List (Job ι β)}
  {job : Job ι β} {worker : Nat} {moment : Instant}

theorem append (greedy : Greedy delay free first middle)
    (others : Greedy delay middle second last) :
    Greedy delay free (first ++ second) last := by
  induction greedy with
  | nil => exact others
  | cons place earliest lasts _ ih => exact .cons place earliest lasts (ih others)

/-- One more job. -/
theorem concat (greedy : Greedy delay free jobs middle)
    (place : middle[job.worker]? = some job.start)
    (earliest : ∀ moment ∈ middle, job.start ≤ moment)
    (lasts : job.finish = job.start + delay job.item) :
    Greedy delay free (jobs ++ [job]) (middle.set job.worker job.finish) :=
  greedy.append (.cons place earliest lasts (.nil _))

/-- How things stand when a job is begun. -/
theorem split {before after : List (Job ι β)}
    (greedy : Greedy delay free (before ++ job :: after) last) :
    ∃ middle, Greedy delay free before middle ∧ middle[job.worker]? = some job.start ∧
      ∀ moment ∈ middle, job.start ≤ moment := by
  induction before generalizing free with
  | nil =>
      cases greedy with
      | cons place earliest lasts others => exact ⟨free, .nil free, place, earliest⟩
  | cons other rest ih =>
      cases greedy with
      | cons place earliest lasts others =>
          rcases ih others with ⟨middle, begun, there⟩
          exact ⟨middle, .cons place earliest lasts begun, there⟩

theorem length_eq (greedy : Greedy delay free jobs last) : last.length = free.length := by
  induction greedy with
  | nil => rfl
  | cons place earliest lasts _ ih => rw [ih, List.length_set]

theorem start_le_finish {job : Job ι β} {span : Nat} (lasts : job.finish = job.start + span) :
    job.start ≤ job.finish :=
  Nat.le_trans (Nat.le_add_right _ span) (Nat.le_of_eq lasts.symm)

theorem finish_eq (greedy : Greedy delay free jobs last) :
    ∀ job ∈ jobs, job.finish = job.start + delay job.item := by
  induction greedy with
  | nil => exact List.forall_mem_nil _
  | cons place earliest lasts _ ih => exact List.forall_mem_cons.mpr ⟨lasts, ih⟩

theorem worker_lt (greedy : Greedy delay free jobs last) :
    ∀ job ∈ jobs, job.worker < free.length := by
  induction greedy with
  | nil => exact List.forall_mem_nil _
  | cons place earliest lasts _ ih =>
      have bound := (List.getElem?_eq_some_iff.mp place).1
      rw [List.length_set] at ih
      exact List.forall_mem_cons.mpr ⟨bound, ih⟩

/-- No job is begun before a moment before which nobody is free. -/
theorem le_start (greedy : Greedy delay free jobs last) (late : ∀ from' ∈ free, moment ≤ from') :
    ∀ job ∈ jobs, moment ≤ job.start := by
  induction greedy with
  | nil => exact List.forall_mem_nil _
  | @cons free last job rest place earliest lasts _ ih =>
      have begun : moment ≤ job.start := late _ (List.mem_of_getElem? place)
      refine List.forall_mem_cons.mpr ⟨begun, ih ?_⟩
      intro from' member
      rcases List.mem_or_eq_of_mem_set member with old | new
      · exact late from' old
      · rw [new]
        exact Nat.le_trans begun (start_le_finish lasts)

/-- Jobs are begun in their order. -/
theorem starts_ordered (greedy : Greedy delay free jobs last) :
    jobs.Pairwise fun job other => job.start ≤ other.start := by
  induction greedy with
  | nil => exact List.Pairwise.nil
  | @cons free last job rest place earliest lasts others ih =>
      refine List.pairwise_cons.mpr ⟨others.le_start ?_, ih⟩
      intro from' member
      rcases List.mem_or_eq_of_mem_set member with old | new
      · exact earliest from' old
      · rw [new]
        exact start_le_finish lasts

/-- Every worker is free from the end of its last job. -/
theorem getElem?_last (greedy : Greedy delay free jobs last) (known : free[worker]? = some moment) :
    last[worker]? = some (freeFrom moment jobs worker) := by
  induction greedy generalizing moment with
  | nil => exact known
  | @cons free last job rest place earliest lasts _ ih =>
      have bound := (List.getElem?_eq_some_iff.mp place).1
      by_cases own : job.worker = worker
      · subst own
        have begun : job.start = moment := Option.some.inj (place.symm.trans known)
        have onward : max moment job.finish = job.finish :=
          Nat.max_eq_right (begun ▸ start_le_finish lasts)
        rw [freeFrom, List.filter_cons_of_pos (by simp), lastFinish_cons, onward]
        exact ih (List.getElem?_set_self bound)
      · rw [freeFrom, List.filter_cons_of_neg (by simpa using own)]
        exact ih ((List.getElem?_set_ne own).trans known)

/-- Between the moment from which a worker was free at first and the one from
which it is free after its last job, it is always at one of its jobs. -/
theorem exists_busy (greedy : Greedy delay free jobs last) {from' until' : Instant}
    (begins : free[worker]? = some from') (ends : last[worker]? = some until')
    (after : from' ≤ moment) (before : moment < until') :
    ∃ job ∈ jobs, job.worker = worker ∧ job.start ≤ moment ∧ moment < job.finish := by
  induction greedy generalizing from' with
  | nil =>
      have same : from' = until' := Option.some.inj (begins.symm.trans ends)
      exact absurd (Nat.lt_of_lt_of_le before (same ▸ after)) (Nat.lt_irrefl moment)
  | @cons free last job rest place earliest lasts _ ih =>
      have bound := (List.getElem?_eq_some_iff.mp place).1
      have later : ∀ {from' : Instant}, (free.set job.worker job.finish)[worker]? = some from' →
          from' ≤ moment →
          ∃ other ∈ job :: rest, other.worker = worker ∧ other.start ≤ moment ∧
            moment < other.finish := by
        intro from' begins after
        rcases ih begins ends after with ⟨other, member, busy⟩
        exact ⟨other, List.mem_cons_of_mem _ member, busy⟩
      by_cases own : job.worker = worker
      · subst own
        have begun : job.start = from' := Option.some.inj (place.symm.trans begins)
        by_cases under : moment < job.finish
        · exact ⟨job, List.mem_cons_self, rfl, begun ▸ after, under⟩
        · exact later (List.getElem?_set_self bound) (Nat.le_of_not_lt under)
      · exact later ((List.getElem?_set_ne own).trans begins) after

/-! ## Totals -/

/-- Changing one moment changes their sum accordingly. -/
theorem sum_set {free : List Nat} {index old : Nat} (known : free[index]? = some old) (new : Nat) :
    (free.set index new).sum + old = free.sum + new := by
  have before := (Pipeline.perm_cons_eraseIdx known).sum_eq
  have after := (Pipeline.Watched.set_perm_cons_eraseIdx known new).sum_eq
  rw [List.sum_cons] at before after
  omega

/-- The moments from which workers are free grow by the delays. -/
theorem sum_eq (greedy : Greedy delay free jobs last) :
    last.sum = free.sum + (jobs.map fun job => delay job.item).sum := by
  induction greedy with
  | nil => simp
  | @cons free last job rest place earliest lasts _ ih =>
      have changed : (free.set job.worker job.finish).sum + job.start =
          free.sum + delay job.item + job.start := by
        rw [sum_set place, lasts, Nat.add_comm job.start, Nat.add_assoc]
      rw [ih, List.map_cons, List.sum_cons, Nat.add_right_cancel changed, Nat.add_assoc]

/-! ## Bounds on the last end -/

section

variable {workers : Nat} {now : Instant}

/-- The workers were all free from one moment on. -/
theorem sum_eq_of_replicate (greedy : Greedy delay (List.replicate workers now) jobs last) :
    last.sum = workers * now + (jobs.map fun job => delay job.item).sum := by
  rw [greedy.sum_eq, List.sum_replicate, Nat.nsmul_eq_mul]

theorem length_of_replicate (greedy : Greedy delay (List.replicate workers now) jobs last) :
    last.length = workers := by
  rw [greedy.length_eq, List.length_replicate]

/-- Nothing is begun before the first moment. -/
theorem now_le_start (greedy : Greedy delay (List.replicate workers now) jobs last) :
    ∀ job ∈ jobs, now ≤ job.start := by
  apply greedy.le_start
  intro moment member
  exact Nat.le_of_eq (List.eq_of_mem_replicate member).symm

/-- Every single item is waited for. -/
theorem now_add_delay_le (greedy : Greedy delay (List.replicate workers now) jobs last) :
    ∀ job ∈ jobs, now + delay job.item ≤ lastFinish now jobs := by
  intro job member
  calc
    now + delay job.item ≤ job.start + delay job.item :=
      Nat.add_le_add_right (greedy.now_le_start job member) _
    _ = job.finish := (greedy.finish_eq job member).symm
    _ ≤ lastFinish now jobs := finish_le_lastFinish now member

/-- No worker is at work after the last end. -/
theorem le_lastFinish_of_mem (greedy : Greedy delay (List.replicate workers now) jobs last) :
    ∀ moment ∈ last, moment ≤ lastFinish now jobs := by
  intro moment member
  rcases List.getElem?_of_mem member with ⟨worker, known⟩
  have bound : worker < workers :=
    greedy.length_of_replicate ▸ (List.getElem?_eq_some_iff.mp known).1
  have ends := greedy.getElem?_last (List.getElem?_replicate_of_lt bound)
  rw [Option.some.inj (known.symm.trans ends), freeFrom]
  rcases lastFinish_mem now (jobs.filter fun job => job.worker = worker) with
    still | ⟨job, own, finished⟩
  · rw [still]
    exact le_lastFinish now jobs
  · rw [finished]
    exact finish_le_lastFinish now (List.mem_filter.mp own).1

/-- The workers together have the time for all items. -/
theorem add_sum_le (greedy : Greedy delay (List.replicate workers now) jobs last) :
    workers * now + (jobs.map fun job => delay job.item).sum ≤
      workers * lastFinish now jobs := by
  have each := List.sum_le_card_nsmul last _ greedy.le_lastFinish_of_mem
  rwa [greedy.sum_eq_of_replicate, greedy.length_of_replicate, Nat.nsmul_eq_mul] at each

/-- When a job is begun, the workers have only worked on the jobs before. -/
theorem mul_start_le {before after : List (Job ι β)}
    (greedy : Greedy delay (List.replicate workers now) (before ++ job :: after) last) :
    workers * job.start ≤ workers * now + (before.map fun job => delay job.item).sum := by
  rcases greedy.split with ⟨middle, begun, place, earliest⟩
  have each := List.card_nsmul_le_sum middle job.start earliest
  rwa [begun.sum_eq_of_replicate, begun.length_of_replicate, Nat.nsmul_eq_mul] at each

/-- The last end is no later than if the last item had waited until all others
were done by all workers together. -/
theorem mul_lastFinish_le (greedy : Greedy delay (List.replicate workers now) jobs last)
    {longest : Nat} (short : ∀ job ∈ jobs, delay job.item ≤ longest) :
    workers * lastFinish now jobs ≤
      workers * now + (jobs.map fun job => delay job.item).sum + (workers - 1) * longest := by
  rcases lastFinish_mem now jobs with still | ⟨job, member, ends⟩
  · rw [still, Nat.add_assoc]
    exact Nat.le_add_right _ _
  · rcases List.append_of_mem member with ⟨before, after, rfl⟩
    have pooled := greedy.mul_start_le
    have span : workers * delay job.item ≤ delay job.item + (workers - 1) * longest := by
      cases workers with
      | zero => simp
      | succ others =>
          rw [Nat.succ_mul, Nat.add_comm]
          exact Nat.add_le_add_left (Nat.mul_le_mul_left others (short job member)) _
    have whole : (before.map fun job => delay job.item).sum + delay job.item ≤
        ((before ++ job :: after).map fun job => delay job.item).sum := by
      rw [List.map_append, List.sum_append, List.map_cons, List.sum_cons, ← Nat.add_assoc]
      exact Nat.le_add_right _ _
    calc
      workers * lastFinish now (before ++ job :: after) =
          workers * job.start + workers * delay job.item := by
        rw [ends, greedy.finish_eq job member, Nat.mul_add]
      _ ≤ workers * now + (before.map fun job => delay job.item).sum +
          (delay job.item + (workers - 1) * longest) := Nat.add_le_add pooled span
      _ = workers * now + ((before.map fun job => delay job.item).sum + delay job.item) +
          (workers - 1) * longest := by simp only [Nat.add_assoc]
      _ ≤ _ := Nat.add_le_add_right (Nat.add_le_add_left whole _) _

end

end Greedy

/-! ## One timetable -/

/-- What is worked on, and when. -/
def times (job : Job ι β) : ι × Instant × Instant := (job.item, job.start, job.finish)

/-- The rule leaves open which of several free workers begins an item, but not
when: it is the same timetable in any case. -/
theorem Greedy.times_eq {γ : Type} {delay : ι → Nat} {free free' last last' : List Instant}
    {jobs : List (Job ι β)} {others : List (Job ι γ)} (greedy : Greedy delay free jobs last)
    (greedy' : Greedy delay free' others last') (perm : free.Perm free')
    (items : jobs.map (·.item) = others.map (·.item)) :
    jobs.map times = others.map times := by
  induction greedy generalizing free' others with
  | nil =>
      cases others with
      | nil => rfl
      | cons other rest => cases items
  | @cons free last job rest place earliest lasts _ ih =>
      cases greedy' with
      | nil => cases items
      | @cons _ _ other rest' place' earliest' lasts' greedy' =>
          rw [List.map_cons, List.map_cons, List.cons.injEq] at items
          have starts : job.start = other.start := by
            apply Nat.le_antisymm
            · exact earliest _ (perm.symm.subset (List.mem_of_getElem? place'))
            · exact earliest' _ (perm.subset (List.mem_of_getElem? place))
          have ends : job.finish = other.finish := by rw [lasts, lasts', starts, items.1]
          have moved : (free.set job.worker job.finish).Perm
              (free'.set other.worker other.finish) := by
            have first := Pipeline.perm_cons_eraseIdx place
            have second := Pipeline.perm_cons_eraseIdx place'
            have left := (first.symm.trans perm).trans second
            rw [starts] at left
            have changed := Pipeline.Watched.set_perm_cons_eraseIdx place job.finish
            have changed' := Pipeline.Watched.set_perm_cons_eraseIdx place' other.finish
            rw [ends] at changed ⊢
            exact (changed.trans (((List.perm_cons _).mp left).cons _)).trans changed'.symm
          rw [List.map_cons, List.map_cons, ih greedy' moved items.2]
          exact congrArg (· :: _) (Prod.ext items.1 (Prod.ext starts ends))

/-- The earliest of some moments is before all of them. -/
theorem earliest_le {free : List Instant} : ∀ moment ∈ free, (earliest free).2 ≤ moment := by
  induction free with
  | nil => exact List.forall_mem_nil _
  | cons time rest ih =>
      cases rest with
      | nil => simp [earliest]
      | cons next rest =>
          unfold earliest
          by_cases first : time ≤ (earliest (next :: rest)).2
          · simp only [first, if_true]
            refine List.forall_mem_cons.mpr ⟨Nat.le_refl time, ?_⟩
            exact fun moment member => Nat.le_trans first (ih moment member)
          · simp only [first, if_false]
            exact List.forall_mem_cons.mpr ⟨Nat.le_of_not_le first, ih⟩

/-- The schedule of the pipeline goes by the rule, if work takes its delay. -/
theorem greedy_assign (work : Instant → ι → Instant × β) (delay : ι → Nat)
    (lasts : ∀ start item, (work start item).1 = start + delay item) (items : List ι)
    {free : List Instant} (some : free ≠ []) :
    ∃ last, Greedy delay free (assign work free items) last := by
  induction items generalizing free with
  | nil => exact ⟨free, .nil free⟩
  | cons item rest ih =>
      have left : free.set (earliest free).1 (work (earliest free).2 item).1 ≠ [] := by
        simpa using some
      rcases ih left with ⟨last, others⟩
      exact ⟨last, .cons (earliest_spec some) earliest_le (lasts _ item) others⟩

end Job
end StorageTelemetry
