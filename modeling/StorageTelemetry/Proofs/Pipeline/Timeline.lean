import StorageTelemetry.Proofs.Pipeline.ClockRun

namespace StorageTelemetry

/-!
# The moves of a schedule

A schedule gives an item to the worker that is free first, from the moment at
which it is free.  So the jobs of one worker follow each other in time, and
its moves in order of time are those of its jobs one after the other.
-/

namespace Job

variable {ι β : Type}

/-- The moves of one worker, job by job. -/
def movesOf (index : Nat) (jobs : List (Job ι β)) : List (Instant × Gather.Action) :=
  (jobs.flatMap moves).filter fun move => move.2.worker = index

theorem movesOf_cons (index : Nat) (job : Job ι β) (rest : List (Job ι β)) :
    movesOf index (job :: rest) =
      if job.worker = index then
        (job.start, .take job.worker) :: (job.finish, .finish job.worker) :: movesOf index rest
      else movesOf index rest := by
  by_cases own : job.worker = index <;>
    simp [movesOf, moves, Gather.Action.worker, own]

/-- The earliest of some moments is one of them, at its place. -/
theorem earliest_spec {free : List Instant} (some : free ≠ []) :
    free[(earliest free).1]? = .some (earliest free).2 := by
  induction free with
  | nil => exact absurd rfl some
  | cons time rest ih =>
      cases rest with
      | nil => rfl
      | cons next rest =>
          have later := ih (by simp)
          unfold earliest
          by_cases first : time ≤ (earliest (next :: rest)).2
          · simp [first]
          · simpa [first] using later

/-- How the moves of one worker look that is free from some moment on: they
take and finish in turn, in order of time, and not before that moment. -/
structure InTurn (moment : Instant) (moves : List (Instant × Gather.Action)) : Prop where
  alternates : Gather.Alternates false (moves.map (·.2))
  ordered : moves.Pairwise fun first second => first.1 ≤ second.1
  later : ∀ move ∈ moves, moment ≤ move.1

theorem inTurn_nil (moment : Instant) : InTurn moment [] := ⟨trivial, List.Pairwise.nil, by simp⟩

/-- One more job before the others. -/
theorem InTurn.cons {start finish : Instant} {worker : Nat}
    {moves : List (Instant × Gather.Action)} (inTurn : InTurn finish moves)
    (forward : start ≤ finish) :
    InTurn start ((start, .take worker) :: (finish, .finish worker) :: moves) := by
  refine ⟨inTurn.alternates, ?_, ?_⟩
  · refine List.pairwise_cons.mpr ⟨fun move member => ?_, List.pairwise_cons.mpr
      ⟨inTurn.later, inTurn.ordered⟩⟩
    rcases List.mem_cons.mp member with own | later
    · exact own ▸ forward
    · exact Nat.le_trans forward (inTurn.later move later)
  · intro move member
    rcases List.mem_cons.mp member with own | member
    · exact own ▸ Nat.le_refl _
    · rcases List.mem_cons.mp member with own | later
      · exact own ▸ forward
      · exact Nat.le_trans forward (inTurn.later move later)

/-- In a schedule the moves of every worker are in turn. -/
theorem inTurn_assign {work : Instant → ι → Instant × β}
    (forward : ∀ start item, start ≤ (work start item).1) (items : List ι)
    {free : List Instant} (some : free ≠ []) (index : Nat) :
    match free[index]? with
    | .some moment => InTurn moment (movesOf index (assign work free items))
    | none => movesOf index (assign work free items) = [] := by
  induction items generalizing free with
  | nil =>
      cases free[index]? with
      | none => rfl
      | some moment => exact inTurn_nil moment
  | cons item rest ih =>
      have there := earliest_spec some
      have bound := (List.getElem?_eq_some_iff.mp there).1
      have others := @ih (free.set (earliest free).1 (work (earliest free).2 item).1)
        (by simpa using some)
      simp only [assign, movesOf_cons]
      by_cases own : (earliest free).1 = index
      · subst own
        rw [List.getElem?_set_self bound] at others
        rw [if_pos rfl, there]
        exact others.cons (forward _ item)
      · rw [List.getElem?_set_ne own] at others
        rw [if_neg own]
        exact others

/-- In order of time the moves of a worker are those of its jobs. -/
theorem filter_timeline {jobs : List (Job ι β)} {index : Nat}
    (ordered : (movesOf index jobs).Pairwise fun first second => first.1 ≤ second.1) :
    (timeline jobs).filter (fun move => move.2.worker = index) = movesOf index jobs := by
  have listed : (movesOf index jobs).Sublist (timeline jobs) := by
    refine List.sublist_mergeSort ?_ ?_ (ordered.imp fun before => decide_eq_true before)
      List.filter_sublist
    · intro a b c first second
      simp only [decide_eq_true_eq] at first second ⊢
      exact Nat.le_trans first second
    · intro a b
      simpa using Nat.le_total a.1 b.1
  have own : (movesOf index jobs).filter (fun move => move.2.worker = index) =
      movesOf index jobs := by
    rw [movesOf, List.filter_filter]
    simp
  have among := listed.filter fun move : Instant × Gather.Action => decide (move.2.worker = index)
  rw [own] at among
  have unsorted := (List.mergeSort_perm (jobs.flatMap moves) fun a b => a.1 ≤ b.1).filter
    fun move : Instant × Gather.Action => decide (move.2.worker = index)
  exact (among.eq_of_length unsorted.length_eq.symm).symm

/-- The moves of a schedule fit workers that are all free. -/
theorem fits_schedule (work : Instant → ι → Instant × β)
    (forward : ∀ start item, start ≤ (work start item).1) (bound : Nat) (now : Instant)
    (items : List ι) (κ : Type) :
    Gather.Fits (List.replicate (Gather.workerCount bound items.length) (.free : Worker κ))
      ((timeline (schedule bound now work items)).map (·.2)) := by
  intro index
  have workers : List.replicate (Gather.workerCount bound items.length) now ≠ [] := by
    have positive : Gather.workerCount bound items.length ≠ 0 := by
      rw [Gather.workerCount]
      omega
    simpa using positive
  have inTurn := inTurn_assign forward items workers index
  have actions : Gather.actionsOf index ((timeline (schedule bound now work items)).map (·.2)) =
      ((timeline (schedule bound now work items)).filter fun move =>
        move.2.worker = index).map (·.2) := by
    rw [Gather.actionsOf, List.filter_map]
    rfl
  rw [actions]
  by_cases known : index < Gather.workerCount bound items.length
  · rw [List.getElem?_replicate_of_lt known] at inTurn ⊢
    have own : InTurn now (movesOf index (schedule bound now work items)) := inTurn
    rw [filter_timeline own.ordered]
    exact own.alternates
  · have unknown : Gather.workerCount bound items.length ≤ index := Nat.le_of_not_lt known
    rw [List.getElem?_eq_none (by simpa using unknown)] at inTurn ⊢
    have none : movesOf index (schedule bound now work items) = [] := inTurn
    rw [filter_timeline (none ▸ List.Pairwise.nil), none]
    rfl

/-- A timeline takes one item for each job. -/
theorem takes_timeline (jobs : List (Job ι β)) :
    Gather.takes ((timeline jobs).map (·.2)) = jobs.length := by
  have unsorted : ((timeline jobs).map (·.2)).Perm ((jobs.flatMap moves).map (·.2)) :=
    (List.mergeSort_perm _ _).map _
  rw [Gather.takes, unsorted.countP_eq]
  induction jobs with
  | nil => rfl
  | cons job rest ih =>
      have others := ih ((List.mergeSort_perm _ _).map _)
      simp only [List.flatMap_cons, moves, List.map_append, List.map_cons, List.map_nil,
        List.countP_append, List.length_cons, others]
      simp [Nat.add_comm]

theorem items_assign (work : Instant → ι → Instant × β) (free : List Instant) (items : List ι) :
    (assign work free items).map (·.item) = items := by
  induction items generalizing free with
  | nil => rfl
  | cons item rest ih => exact congrArg (item :: ·) (ih _)

/-- What every job of a schedule is: the work on its item, begun at some
moment. -/
theorem result_assign {work : Instant → ι → Instant × β} {free : List Instant} {items : List ι} :
    ∀ job ∈ assign work free items, job.result = (work job.start job.item).2 := by
  induction items generalizing free with
  | nil => simp [assign]
  | cons item rest ih =>
      intro job member
      rcases List.mem_cons.mp member with first | later
      · rw [first]
      · exact ih job later

end Job
end StorageTelemetry
