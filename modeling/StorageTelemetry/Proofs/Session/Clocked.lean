import StorageTelemetry.Proofs.Session.Withdrawal

namespace StorageTelemetry

/-!
# The token manager on the clock

Here a clock stands beside the token manager.  The clock goes on at any time,
by any span, but never past the deadline of a reader who still waits: a timer
is not late.  Nor is it early: a reader gives up only when its deadline is
reached.  Logins take as long as they like, and everything that is possible at
one moment may happen in any order.

A reader's fate is then one of three.  It still waits, and its deadline is not
past.  Or it gave up at its deadline, and all others went on as if it had not
been there.  Or it was let in, no later than at its deadline, and got the token
of the last login that had succeeded by then; a refresh that held the lock when
the reader asked was over.
-/

/-- The deadline of a caller, if it waits and has one. -/
def TokenManager.deadlineOf? (manager : TokenManager) (ticket : Ticket) : Option Instant :=
  match manager.callers.get? ticket with
  | some (.waiting purpose) => purpose.deadline?
  | _ => none

/-- A token manager and the time. -/
structure Clocked where
  clock : Instant
  manager : TokenManager
deriving DecidableEq

namespace Clocked

open TokenManager

/-- A move: of the manager or of the clock. -/
inductive Move
  | act (event : Event)
  | pass (moment : Instant)
deriving DecidableEq

/-- The manager's part in a move. -/
def Move.event? : Move → Option Event
  | act event => some event
  | pass _ => none

/-- The moves of the manager in their order. -/
def eventsOf (moves : List Move) : List Event := moves.filterMap Move.event?

@[simp] theorem eventsOf_act (event : Event) (rest : List Move) :
    eventsOf (.act event :: rest) = event :: eventsOf rest := rfl

/-- Before anything happened. -/
def start (clock : Instant) : Clocked := ⟨clock, .initial⟩

/-- Whether the time allows a move of the manager.  Nobody asks with a
deadline that is past, or gives up before the deadline. -/
def allows (clocked : Clocked) : Event → Bool
  | .request purpose => purpose.deadline?.all fun deadline => clocked.clock ≤ deadline
  | .expire ticket =>
      (clocked.manager.deadlineOf? ticket).any fun deadline => deadline ≤ clocked.clock
  | _ => true

/-- Whether the clock may go on to a moment. -/
def mayPass (clocked : Clocked) (moment : Instant) : Bool :=
  clocked.clock ≤ moment &&
    clocked.manager.queue.all fun ticket =>
      (clocked.manager.deadlineOf? ticket).all fun deadline => moment ≤ deadline

/-- The state after a move, if the move is possible. -/
def step? (clocked : Clocked) : Move → Option Clocked
  | .act event =>
      if clocked.allows event then
        (clocked.manager.step? event).map fun manager => { clocked with manager }
      else none
  | .pass moment => if clocked.mayPass moment then some { clocked with clock := moment } else none

/-- The state after a list of moves, if each is possible in its turn. -/
abbrev run? (clocked : Clocked) (moves : List Move) : Option Clocked :=
  Moves.run? step? clocked moves

variable {clocked next last : Clocked} {move : Move} {moves : List Move} {ticket : Ticket}

/-- The possible moves, with the states they lead to. -/
inductive Step (clocked : Clocked) : Move → Clocked → Prop
  | act {event : Event} {manager : TokenManager} (allowed : clocked.allows event = true)
      (possible : TokenManager.Step clocked.manager event manager) :
      Step clocked (.act event) { clocked with manager }
  | pass {moment : Instant} (allowed : clocked.mayPass moment = true) :
      Step clocked (.pass moment) { clocked with clock := moment }

theorem step?_eq_some_iff : clocked.step? move = some next ↔ Step clocked move next := by
  constructor
  · intro ran
    cases move with
    | act event =>
        rcases Option.ite_none_right_eq_some.mp ran with ⟨allowed, ran⟩
        rcases Option.map_eq_some_iff.mp ran with ⟨manager, moved, rfl⟩
        exact .act allowed (TokenManager.step?_eq_some_iff.mp moved)
    | pass moment =>
        rcases Option.ite_none_right_eq_some.mp ran with ⟨allowed, ran⟩
        cases ran
        exact .pass allowed
  · intro possible
    cases possible with
    | act allowed possible =>
        simp only [step?, if_pos allowed, TokenManager.step?_eq_some_iff.mpr possible,
          Option.map_some]
    | pass allowed => simp only [step?, if_pos allowed]

/-- What happens on the clock also happens without it. -/
theorem run_events (ran : clocked.run? moves = some last) :
    clocked.manager.run? (eventsOf moves) = some last.manager := by
  induction moves generalizing clocked with
  | nil =>
      cases ran
      rfl
  | cons move rest ih =>
      obtain ⟨next, moved, continued⟩ := Moves.run?_cons_eq_some_iff.mp ran
      have reached := ih continued
      cases step?_eq_some_iff.mp moved with
      | @act event manager allowed possible =>
          rw [eventsOf_act]
          exact Moves.run?_cons_eq_some_iff.mpr
            ⟨manager, TokenManager.step?_eq_some_iff.mpr possible, reached⟩
      | pass allowed => exact reached

theorem Step.sound (possible : Step clocked move next) (sound : clocked.manager.Sound) :
    next.manager.Sound := by
  cases possible with
  | act allowed possible => exact sound.step possible
  | pass allowed => exact sound

theorem Step.exists_stage (possible : Step clocked move next) (sound : clocked.manager.Sound)
    {stage : CallerStage} (known : clocked.manager.callers.get? ticket = some stage) :
    ∃ stage', next.manager.callers.get? ticket = some stage' := by
  cases possible with
  | act allowed possible => exact possible.exists_stage sound known
  | pass allowed => exact ⟨stage, known⟩

theorem Step.stage_of_isDone (possible : Step clocked move next) (sound : clocked.manager.Sound)
    {stage : CallerStage} (found : clocked.manager.callers.get? ticket = some stage)
    (done : stage.isDone = true) : next.manager.callers.get? ticket = some stage := by
  cases possible with
  | act allowed possible => exact possible.stage_of_isDone sound found done
  | pass allowed => exact found

/-! ## Deadlines -/

theorem deadlineOf?_eq_some_iff {manager : TokenManager} {deadline : Instant} :
    manager.deadlineOf? ticket = some deadline ↔
      ∃ purpose, manager.callers.get? ticket = some (.waiting purpose) ∧
        purpose.deadline? = some deadline := by
  unfold deadlineOf?
  split
  · rename_i purpose waits
    simp [waits]
  · rename_i other
    constructor
    · intro impossible
      cases impossible
    · rintro ⟨purpose, waits, reads⟩
      exact absurd waits (other purpose)

/-- No reader waits past its deadline. -/
structure Timely (clocked : Clocked) : Prop where
  sound : clocked.manager.Sound
  early : ∀ ticket deadline, clocked.manager.deadlineOf? ticket = some deadline →
    clocked.clock ≤ deadline

theorem timely_start (clock : Instant) : (start clock).Timely := by
  refine ⟨sound_initial, ?_⟩
  intro ticket deadline waits
  cases waits

/-- A deadline comes into being when someone asks. -/
theorem deadlineOf?_of_step {manager manager' : TokenManager} {event : Event}
    (possible : TokenManager.Step manager event manager') (sound : manager.Sound)
    {deadline : Instant} (waits : manager'.deadlineOf? ticket = some deadline) :
    manager.deadlineOf? ticket = some deadline ∨
      ∃ purpose, event = .request purpose ∧ purpose.deadline? = some deadline := by
  obtain ⟨purpose, found, reads⟩ := deadlineOf?_eq_some_iff.mp waits
  rcases possible.passage sound ticket with same | ⟨stage, reached, passage⟩
  · exact Or.inl (deadlineOf?_eq_some_iff.mpr ⟨purpose, same.symm.trans found, reads⟩)
  · have waiting : stage = .waiting purpose := Option.some.inj (reached.symm.trans found)
    generalize manager.callers.get? ticket = old at passage
    cases passage with
    | @asks purpose' new =>
        cases waiting
        exact Or.inr ⟨purpose, rfl, reads⟩
    | @admitted purpose' deadline' free first reads' => cases purpose' <;> cases waiting
    | begins | stores | succeeds | fails | givesUp | looks => cases waiting

theorem Timely.step (timely : clocked.Timely) (possible : Step clocked move next) :
    next.Timely := by
  cases possible with
  | @act event manager allowed possible =>
      refine ⟨timely.sound.step possible, ?_⟩
      intro ticket deadline waits
      rcases deadlineOf?_of_step possible timely.sound waits with before | ⟨purpose, rfl, reads⟩
      · exact timely.early ticket deadline before
      · simpa [allows, reads] using allowed
  | @pass moment allowed =>
      refine ⟨timely.sound, ?_⟩
      intro ticket deadline waits
      obtain ⟨purpose, found, reads⟩ := deadlineOf?_eq_some_iff.mp waits
      have queued := (timely.sound.queued ticket).mpr ⟨purpose, found⟩
      obtain ⟨forward, all⟩ := Bool.and_eq_true_iff.mp allowed
      simpa [waits] using List.all_eq_true.mp all ticket queued

theorem Timely.run (timely : clocked.Timely) (ran : clocked.run? moves = some last) :
    last.Timely :=
  Moves.run_induction _ ran timely fun _ _ _ kept moved => kept.step (step?_eq_some_iff.mp moved)

/-- A reader gives up exactly at its deadline. -/
theorem Timely.clock_of_expire (timely : clocked.Timely)
    (possible : Step clocked (.act (.expire ticket)) next) {deadline : Instant}
    (waits : clocked.manager.deadlineOf? ticket = some deadline) : clocked.clock = deadline := by
  cases possible with
  | act allowed possible =>
      have reached : deadline ≤ clocked.clock := by simpa [allows, waits] using allowed
      exact Nat.le_antisymm (timely.early ticket deadline waits) reached

/-! ## Without a reader -/

/-- The state as it would be without a caller. -/
def without (clocked : Clocked) (ticket : Ticket) : Clocked :=
  { clocked with manager := clocked.manager.without ticket }

theorem deadlineOf?_without {manager : TokenManager} {other : Ticket}
    (different : ticket ≠ other) :
    (manager.without ticket).deadlineOf? other = manager.deadlineOf? other := by
  simp only [deadlineOf?, get?_without different]

/-- Someone who has given up has no deadline any more. -/
theorem deadlineOf?_without_of_timedOut {manager : TokenManager}
    (found : manager.callers.get? ticket = some .timedOut) (other : Ticket) :
    (manager.without ticket).deadlineOf? other = manager.deadlineOf? other := by
  by_cases same : ticket = other
  · subst same
    simp only [deadlineOf?, get?_without_self, found]
  · exact deadlineOf?_without same

/-- Where no deadline is missed, the time allows the same. -/
theorem allows_without {event : Event}
    (same : ∀ other, event = .expire other →
      (clocked.manager.without ticket).deadlineOf? other = clocked.manager.deadlineOf? other) :
    (clocked.without ticket).allows event = clocked.allows event := by
  cases event with
  | expire other =>
      exact congrArg (Option.any fun deadline => decide (deadline ≤ clocked.clock)) (same other rfl)
  | request | acquire | loginSucceeded | markGood | loginFailed | readMark => rfl

/-- A caller can only keep the clock from going on. -/
theorem mayPass_without (sound : clocked.manager.Sound) {moment : Instant}
    (allowed : clocked.mayPass moment = true) :
    (clocked.without ticket).mayPass moment = true := by
  obtain ⟨forward, all⟩ := Bool.and_eq_true_iff.mp allowed
  refine Bool.and_eq_true_iff.mpr ⟨forward, List.all_eq_true.mpr fun other member => ?_⟩
  obtain ⟨different, queued⟩ := sound.distinct.mem_erase_iff.mp member
  rw [without, deadlineOf?_without (Ne.symm different)]
  exact List.all_eq_true.mp all other queued

theorem mayPass_without_of_timedOut (sound : clocked.manager.Sound)
    (found : clocked.manager.callers.get? ticket = some .timedOut) (moment : Instant) :
    (clocked.without ticket).mayPass moment = clocked.mayPass moment := by
  have queue : (clocked.manager.without ticket).queue = clocked.manager.queue :=
    List.erase_of_not_mem (sound.not_queued_of_timedOut found)
  simp only [mayPass, without, queue, deadlineOf?_without_of_timedOut found]
  rfl

/-- A move during which a reader waits is possible without it. -/
theorem Step.without_of_waits (possible : Step clocked move next)
    (sound : clocked.manager.Sound) {purpose : Purpose}
    (before : clocked.manager.callers.get? ticket = some (.waiting purpose))
    (after : next.manager.callers.get? ticket = some (.waiting purpose)) :
    (clocked.without ticket).step? move = some (next.without ticket) := by
  cases possible with
  | @act event manager allowed possible =>
      have allowed' : (clocked.without ticket).allows event = true := by
        rw [allows_without, allowed]
        rintro other rfl
        refine deadlineOf?_without fun same => ?_
        subst same
        cases possible.timedOut_of_expire.symm.trans after
      have moved := possible.without_of_waits sound before after
      simp only [step?, if_pos allowed']
      exact Option.map_eq_some_iff.mpr ⟨_, moved, rfl⟩
  | pass allowed => exact if_pos (mayPass_without sound allowed)

/-- Once a reader has given up, the same moves are possible without it. -/
theorem step?_without_of_timedOut (sound : clocked.manager.Sound)
    (found : clocked.manager.callers.get? ticket = some .timedOut) (move : Move) :
    (clocked.without ticket).step? move =
      (clocked.step? move).map fun next => next.without ticket := by
  cases move with
  | act event =>
      have allowed : (clocked.without ticket).allows event = clocked.allows event :=
        allows_without fun other _ => deadlineOf?_without_of_timedOut found other
      have moved := TokenManager.step?_without_of_timedOut sound found event
      simp only [step?, allowed]
      by_cases may : clocked.allows event = true
      · simp only [if_pos may, without, moved, Option.map_map]
        rfl
      · simp only [if_neg may, Option.map_none]
  | pass moment =>
      simp only [step?, mayPass_without_of_timedOut sound found]
      by_cases may : clocked.mayPass moment = true
      · simp only [if_pos may, Option.map_some, without]
      · simp only [if_neg may, Option.map_none]

end Clocked
end StorageTelemetry
