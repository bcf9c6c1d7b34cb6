import StorageTelemetry.Proofs.Session.Readers

namespace StorageTelemetry

/-!
# Readers who give up

A reader who gives up leaves no trace: the manager goes on as if that reader
had never asked.  To say so, a state is compared with what it would be without
one caller.  As long as the caller waits, each move of somebody else is also
possible without it and leads to the same; once it has given up, the same
moves are possible with and without it.
-/

namespace TokenManager

variable {manager next : TokenManager} {event : Event} {ticket : Ticket}

/-- The manager as it would be without a caller. -/
def without (manager : TokenManager) (ticket : Ticket) : TokenManager :=
  { manager with
    callers := manager.callers.erase ticket
    queue := manager.queue.erase ticket }

theorem get?_without {other : Ticket} (different : ticket ≠ other) :
    (manager.without ticket).callers.get? other = manager.callers.get? other :=
  (Table.get?_erase _ _ _).trans (if_neg different)

@[simp] theorem get?_without_self :
    (manager.without ticket).callers.get? ticket = none :=
  (Table.get?_erase _ _ _).trans (if_pos rfl)

theorem holderAt?_without (stage : CallerStage) (idle : manager.holder ≠ some ticket) :
    (manager.without ticket).holderAt? stage = manager.holderAt? stage := by
  unfold holderAt? without
  cases held : manager.holder with
  | none => rfl
  | some other =>
      have different : ticket ≠ other := fun same => idle (held.trans (same ▸ rfl))
      simp only [Option.filter_some, Table.get?_erase, if_neg different]

/-- Without its new caller the manager is as before, but for the number of the
ticket. -/
theorem Sound.without_request (sound : manager.Sound) (purpose : Purpose) :
    (manager.request purpose).without manager.nextTicket =
      { manager with nextTicket := manager.nextTicket + 1 } := by
  have absent : manager.nextTicket ∉ manager.queue := by
    intro member
    obtain ⟨purpose', found⟩ := (sound.queued manager.nextTicket).mp member
    cases sound.stage_of_new.symm.trans found
  simp only [without, TokenManager.request, setStage, Table.erase_put_self,
    Table.erase_of_absent sound.stage_of_new, List.erase_append_right _ absent,
    List.erase_cons_head, List.append_nil]

/-- Giving up changes only what is gone without the caller. -/
theorem Sound.without_expire (sound : manager.Sound) (stage : CallerStage) :
    without { manager.setStage ticket stage with queue := manager.queue.erase ticket } ticket =
      manager.without ticket := by
  have gone : ticket ∉ manager.queue.erase ticket := sound.distinct.not_mem_erase
  simp only [without, setStage, Table.erase_put_self, List.erase_of_not_mem gone]

/-- A caller who waits or has given up: it holds nothing that others want. -/
def IsIdle (manager : TokenManager) (ticket : Ticket) : Prop :=
  manager.callers.get? ticket = some .timedOut ∨
    ∃ purpose, manager.callers.get? ticket = some (.waiting purpose)

theorem IsIdle.not_holder (idle : manager.IsIdle ticket) (sound : manager.Sound) :
    manager.holder ≠ some ticket := by
  rcases idle with found | ⟨purpose, found⟩
  · exact sound.not_holder found (by simp) (by simp)
  · exact sound.not_holder found (by simp) (by simp)

/-- What the lock holder does at a stage, it does without the caller too. -/
theorem map_holderAt?_without {after after' : Ticket → TokenManager} (stage : CallerStage)
    (notHolder : manager.holder ≠ some ticket)
    (agree : ∀ holder, ticket ≠ holder → after' holder = (after holder).without ticket) :
    ((manager.without ticket).holderAt? stage).map after' =
      ((manager.holderAt? stage).map after).map fun next => next.without ticket := by
  rw [holderAt?_without stage notHolder]
  cases found : manager.holderAt? stage with
  | none => rfl
  | some holder =>
      have held := (holderAt?_eq_some_iff.mp found).1
      have different : ticket ≠ holder := fun same => notHolder (held.trans (same ▸ rfl))
      exact congrArg some (agree holder different)

theorem acquire?_without (notNext : manager.queue.head? ≠ some ticket) :
    (manager.without ticket).acquire? = manager.acquire?.map fun next => next.without ticket := by
  simp only [acquire?, without]
  cases manager.holder with
  | some holder => rfl
  | none =>
      cases queued : manager.queue with
      | nil => rfl
      | cons first rest =>
          have different : ticket ≠ first := by
            intro same
            exact notNext (by rw [queued, same]; rfl)
          have kept : (first :: rest).erase ticket = first :: rest.erase ticket :=
            List.erase_cons_tail (by simpa using Ne.symm different)
          simp only [kept, Table.get?_erase, if_neg different]
          cases manager.callers.get? first with
          | none => rfl
          | some stage =>
              cases stage with
              | waiting purpose =>
                  cases purpose <;>
                    simp only [setStage, Option.map_some, Table.erase_put _ _ (Ne.symm different)]
              | _ => rfl

/-- A move that is not the caller's own is possible without the caller exactly
if it is possible with it, and then the caller is the only difference. -/
theorem step?_without (sound : manager.Sound) (idle : manager.IsIdle ticket)
    (notNext : event = .acquire → manager.queue.head? ≠ some ticket)
    (notItsOwn : event ≠ .expire ticket) :
    (manager.without ticket).step? event =
      (manager.step? event).map fun next => next.without ticket := by
  have notHolder := idle.not_holder sound
  cases event with
  | request purpose =>
      have new : manager.nextTicket ≠ ticket := by
        intro same
        rcases idle with found | ⟨purpose', found⟩
        · cases sound.stage_of_new.symm.trans (same ▸ found)
        · cases sound.stage_of_new.symm.trans (same ▸ found)
      have queue : (manager.queue ++ [manager.nextTicket]).erase ticket =
          manager.queue.erase ticket ++ [manager.nextTicket] := by
        rw [List.erase_append]
        split
        · rfl
        · rename_i absent
          rw [List.erase_of_not_mem absent, List.erase_of_not_mem (by simpa using Ne.symm new)]
      simp only [step?, TokenManager.request, setStage, without, Option.map_some, queue,
        Table.erase_put _ _ new]
  | acquire => exact acquire?_without (notNext rfl)
  | loginSucceeded token =>
      refine map_holderAt?_without .loggingIn notHolder fun holder different => ?_
      simp only [setStage, without, Table.erase_put _ _ (Ne.symm different)]
  | markGood =>
      refine map_holderAt?_without .storing notHolder fun holder different => ?_
      simp only [setStage, without, Table.erase_put _ _ (Ne.symm different)]
  | loginFailed =>
      refine map_holderAt?_without .loggingIn notHolder fun holder different => ?_
      simp only [setStage, without, Table.erase_put _ _ (Ne.symm different)]
  | expire other =>
      have different : other ≠ ticket := fun same => notItsOwn (same ▸ rfl)
      have queued : (manager.queue.erase ticket).contains other = manager.queue.contains other := by
        rw [Bool.eq_iff_iff, List.contains_iff_mem, List.contains_iff_mem]
        exact List.mem_erase_of_ne different
      simp only [step?, without, queued, Table.get?_erase, if_neg (Ne.symm different)]
      split
      · simp only [setStage, Option.map_some, Table.erase_put _ _ different,
          List.erase_comm ticket other]
      · simp only [setStage, Option.map_some, Table.erase_put _ _ different,
          List.erase_comm ticket other]
      · rfl
  | readMark other =>
      simp only [step?, without, Table.get?_erase]
      by_cases same : ticket = other
      · subst same
        rcases idle with found | ⟨purpose, found⟩ <;> simp [found]
      · rw [if_neg same]
        split
        · simp only [setStage, Option.map_some, Table.erase_put _ _ (Ne.symm same)]
        · rfl

/-- Someone who has given up is not in the queue. -/
theorem Sound.not_queued_of_timedOut (sound : manager.Sound)
    (found : manager.callers.get? ticket = some .timedOut) : ticket ∉ manager.queue := by
  intro member
  obtain ⟨purpose, waits⟩ := (sound.queued ticket).mp member
  cases found.symm.trans waits

/-- Once a reader has given up, the same moves are possible without it. -/
theorem step?_without_of_timedOut (sound : manager.Sound)
    (found : manager.callers.get? ticket = some .timedOut) (event : Event) :
    (manager.without ticket).step? event =
      (manager.step? event).map fun next => next.without ticket := by
  have absent := sound.not_queued_of_timedOut found
  by_cases itsOwn : event = .expire ticket
  · have gone : ticket ∉ manager.queue.erase ticket := sound.distinct.not_mem_erase
    subst itsOwn
    simp [step?, without, absent, gone]
  · refine step?_without sound (Or.inl found) (fun _ first => ?_) itsOwn
    exact absent (List.mem_of_head? first)

/-- Whoever is first when the lock is taken does not wait any longer. -/
theorem Step.not_waiting_of_first (possible : Step manager .acquire next)
    (first : manager.queue.head? = some ticket) (purpose : Purpose) :
    next.callers.get? ticket ≠ some (.waiting purpose) := by
  cases possible with
  | beginRefresh free queued waits =>
      obtain rfl := Option.some.inj (congrArg List.head? queued ▸ first)
      simp [Table.get?_put]
  | @enter other rest purpose' deadline free queued waits reads =>
      obtain rfl := Option.some.inj (congrArg List.head? queued ▸ first)
      cases purpose' with
      | refresh => cases reads
      | read _ => simp [Table.get?_put, Purpose.admittedStage]
      | authenticate _ => simp [Table.get?_put, Purpose.admittedStage]

theorem Step.timedOut_of_expire (possible : Step manager (.expire ticket) next) :
    next.callers.get? ticket = some .timedOut := by
  cases possible
  exact (Table.get?_put _ _ _ _).trans (if_pos rfl)

/-- A move during which a reader waits is possible without it. -/
theorem Step.without_of_waits (possible : Step manager event next) (sound : manager.Sound)
    {purpose : Purpose} (before : manager.callers.get? ticket = some (.waiting purpose))
    (after : next.callers.get? ticket = some (.waiting purpose)) :
    (manager.without ticket).step? event = some (next.without ticket) := by
  have notNext : event = .acquire → manager.queue.head? ≠ some ticket := by
    intro acquires first
    exact (acquires ▸ possible).not_waiting_of_first first purpose after
  have notItsOwn : event ≠ .expire ticket := by
    intro itsOwn
    cases (itsOwn ▸ possible).timedOut_of_expire.symm.trans after
  rw [step?_without sound (Or.inr ⟨purpose, before⟩) notNext notItsOwn,
    step?_eq_some_iff.mpr possible, Option.map_some]

end TokenManager
end StorageTelemetry
