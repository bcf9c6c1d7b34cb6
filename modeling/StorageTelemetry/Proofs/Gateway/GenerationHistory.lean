import Mathlib.Data.List.Induction
import StorageTelemetry.Gateway.GenerationCell
import StorageTelemetry.Proofs.Moves
import StorageTelemetry.Proofs.Tables

namespace StorageTelemetry

/-!
# Asking for the generation until it is told

Callers who want the generation share one cell, and may move in any order.
What they come to can be read off the history of their moves.  The cell knows
the generation of the first version that the gateway told.  Every caller waits,
asks or has its answer, and never more than one of them asks, so all requests
but one at most have been answered.  A failure is the answer of the caller who
met it and of nobody else, and whoever is next asks again.  Once a version was
told nobody asks any more.
-/

namespace GenerationCell

/-! ## Histories -/

/-- The version that a move brings. -/
def Event.version? : Event → Option String
  | .answer (.ok version) => some version
  | _ => none

/-- The fault that a move brings: no token came in time, or the gateway gave no
version. -/
def Event.fault? : Event → Option Fault
  | .tokenMissed fault | .answer (.error fault) => some fault
  | _ => none

def Event.isWish : Event → Bool
  | .want => true
  | _ => false

def Event.isRequest : Event → Bool
  | .sendRequest => true
  | _ => false

def Event.isAnswer : Event → Bool
  | .answer _ => true
  | _ => false

/-- The generation of the version that was told first. -/
def told? (events : List Event) : Option Generation :=
  (events.findSome? Event.version?).map .ofVersion

/-- The number of requests that are under way. -/
def underWay (cell : GenerationCell) : Nat :=
  if cell.asking.map (·.2) = some .requestUnderWay then 1 else 0

/-- The cell after the one who asks has met a fault. -/
def failed (cell : GenerationCell) (ticket : Ticket) (fault : Fault) : GenerationCell :=
  { cell with asking := none, answers := cell.answers.put ticket (.error fault) }

theorem told?_append (first second : List Event) :
    told? (first ++ second) = (told? first).or (told? second) := by
  simp only [told?, List.findSome?_append, Option.map_or]

theorem told?_singleton (event : Event) : told? [event] = event.version?.map .ofVersion := by
  cases version : event.version? <;> simp [told?, version]

/-! ## Single moves -/

/-- The possible moves, with the states they lead to. -/
inductive Step (cell : GenerationCell) : Event → GenerationCell → Prop
  | want : Step cell .want
      { cell with queue := cell.queue ++ [cell.nextTicket], nextTicket := cell.nextTicket + 1 }
  | serve {ticket : Ticket} {rest : List Ticket} {generation : Generation}
      (queued : cell.queue = ticket :: rest) (known : cell.known = some generation) :
      Step cell .proceed
        { cell with queue := rest, answers := cell.answers.put ticket (.ok generation) }
  | begin {ticket : Ticket} {rest : List Ticket} (queued : cell.queue = ticket :: rest)
      (unknown : cell.known = none) (free : cell.asking = none) :
      Step cell .proceed { cell with queue := rest, asking := some (ticket, .awaitingToken) }
  | send {ticket : Ticket} (asks : cell.asking = some (ticket, .awaitingToken)) :
      Step cell .sendRequest
        { cell with
          asking := some (ticket, .requestUnderWay)
          requests := cell.requests + 1 }
  | miss {ticket : Ticket} (fault : Fault) (asks : cell.asking = some (ticket, .awaitingToken)) :
      Step cell (.tokenMissed fault) (cell.failed ticket fault)
  | refuse {ticket : Ticket} (fault : Fault)
      (asks : cell.asking = some (ticket, .requestUnderWay)) :
      Step cell (.answer (.error fault)) (cell.failed ticket fault)
  | tell {ticket : Ticket} (version : String)
      (asks : cell.asking = some (ticket, .requestUnderWay)) :
      Step cell (.answer (.ok version))
        { cell with
          known := some (.ofVersion version)
          asking := none
          answers := cell.answers.put ticket (.ok (.ofVersion version)) }

variable {cell next last : GenerationCell} {event : Event} {events : List Event}

theorem step?_eq_some_iff : cell.step? event = some next ↔ Step cell event next := by
  constructor
  · intro moved
    cases event with
    | want =>
        cases moved
        exact .want
    | proceed =>
        simp only [step?] at moved
        split at moved
        · rename_i queued known
          cases moved
          exact .serve queued known
        · rename_i queued unknown free
          cases moved
          exact .begin queued unknown free
        · cases moved
    | sendRequest =>
        simp only [step?] at moved
        split at moved
        · rename_i asks
          cases moved
          exact .send asks
        · cases moved
    | tokenMissed fault =>
        simp only [step?] at moved
        split at moved
        · rename_i asks
          cases moved
          exact .miss fault asks
        · cases moved
    | answer version =>
        simp only [step?] at moved
        split at moved
        · rename_i asks
          cases version with
          | ok version =>
              cases moved
              exact .tell version asks
          | error fault =>
              cases moved
              exact .refuse fault asks
        · cases moved
  · intro possible
    cases possible with
    | want => rfl
    | serve queued known => simp only [step?, queued, known, reply]
    | begin queued unknown free => simp only [step?, queued, unknown, free]
    | send asks => simp only [step?, asks]
    | miss fault asks => simp only [step?, asks, conclude, reply, failed]
    | refuse fault asks => simp only [step?, asks, conclude, reply, failed]
    | tell version asks => simp only [step?, asks, conclude, reply]

/-- A wish gives a ticket, a request is counted, and an answer ends the one that
is under way. -/
theorem Step.counts (possible : Step cell event next) :
    next.nextTicket = cell.nextTicket + [event].countP Event.isWish ∧
      next.requests = cell.requests + [event].countP Event.isRequest ∧
      next.underWay + [event].countP Event.isAnswer =
        cell.underWay + [event].countP Event.isRequest := by
  cases possible with
  | want | serve => exact ⟨rfl, rfl, rfl⟩
  | begin queued unknown free => exact ⟨rfl, rfl, by rw [underWay, underWay, free]; rfl⟩
  | send asks | miss fault asks | refuse fault asks | tell version asks =>
      exact ⟨rfl, rfl, by rw [underWay, underWay, asks]; rfl⟩

theorem Step.known_eq (possible : Step cell event next) :
    next.known = (event.version?.map .ofVersion).or cell.known := by
  cases possible <;> rfl

/-! ## Where the callers stand -/

/-- Where the callers stand: those who wait, the one who asks, and those who
were answered. -/
def standing (cell : GenerationCell) : List Ticket :=
  cell.queue ++ cell.asking.toList.map (·.1) ++ cell.answers.keys

/-- One who leaves to be answered stands with those who were. -/
theorem standing_perm_of_put {answer : Except Fault Generation} {ticket : Ticket}
    (apart : cell.standing.Nodup)
    (leaves : (next.queue ++ next.asking.toList.map (·.1) ++ [ticket]).Perm
      (cell.queue ++ cell.asking.toList.map (·.1)))
    (answers : next.answers = cell.answers.put ticket answer) :
    next.standing.Perm cell.standing := by
  have stood : ticket ∈ cell.queue ++ cell.asking.toList.map (·.1) :=
    leaves.subset (List.mem_append_right _ (List.mem_singleton_self ticket))
  have unanswered : ticket ∉ cell.answers.keys := fun answered =>
    (List.nodup_append.mp apart).2.2 ticket stood ticket answered rfl
  have moved : (cell.answers.keys ++ [ticket]).Perm ([ticket] ++ cell.answers.keys) :=
    List.perm_append_comm
  unfold standing
  rw [answers, Table.keys_put, if_neg unanswered]
  refine (moved.append_left _).trans ?_
  rw [← List.append_assoc]
  exact leaves.append_right _

/-- The one who asks is answered, and asks no more. -/
theorem standing_perm_of_answer (answer : Except Fault Generation) {ticket : Ticket}
    {stage : VersionStage} (apart : cell.standing.Nodup)
    (asks : cell.asking = some (ticket, stage)) (queue : next.queue = cell.queue)
    (asking : next.asking = none) (answers : next.answers = cell.answers.put ticket answer) :
    next.standing.Perm cell.standing := by
  refine standing_perm_of_put apart ?_ answers
  rw [queue, asking, asks]
  exact .of_eq (by simp)

/-- Every move keeps each caller at one place. -/
theorem Step.standing_perm (possible : Step cell event next)
    (callers : cell.standing.Perm (List.range cell.nextTicket)) :
    next.standing.Perm (List.range next.nextTicket) := by
  have apart : cell.standing.Nodup := callers.nodup_iff.mpr List.nodup_range
  cases possible with
  | want =>
      have joins : ([cell.nextTicket] ++ (cell.asking.toList.map (·.1) ++ cell.answers.keys)).Perm
          (cell.asking.toList.map (·.1) ++ cell.answers.keys ++ [cell.nextTicket]) :=
        List.perm_append_comm
      rw [List.range_succ]
      refine .trans ?_ (callers.append_right _)
      simpa only [standing, List.append_assoc] using joins.append_left cell.queue
  | serve queued known =>
      refine .trans (standing_perm_of_put apart ?_ rfl) callers
      rw [queued]
      exact List.perm_append_singleton ..
  | begin queued unknown free =>
      refine .trans ?_ callers
      simp [standing, queued, free]
  | send asks =>
      refine .trans (.of_eq ?_) callers
      simp [standing, asks]
  | miss fault asks | refuse fault asks =>
      refine .trans (standing_perm_of_answer (.error fault) apart asks ?_ ?_ ?_) callers <;> rfl
  | tell version asks =>
      refine .trans (standing_perm_of_answer (.ok (.ofVersion version)) apart asks ?_ ?_ ?_)
        callers <;> rfl

/-! ## What a history leaves behind -/

/-- Whether a cell is what a history of moves leaves behind. -/
structure Follows (events : List Event) (cell : GenerationCell) : Prop where
  known : cell.known = told? events
  /-- Nobody asks for what is known. -/
  settled : cell.known ≠ none → cell.asking = none
  wishes : cell.nextTicket = events.countP Event.isWish
  requests : cell.requests = events.countP Event.isRequest
  /-- All requests have been answered, but for the one that is under way. -/
  answered : cell.requests = events.countP Event.isAnswer + cell.underWay
  /-- Every caller stands at one place. -/
  callers : cell.standing.Perm (List.range cell.nextTicket)
  /-- No other generation is told than the known one. -/
  agreed : ∀ ticket generation,
    cell.answers.get? ticket = some (.ok generation) → cell.known = some generation

/-- One who asks does so because nothing is known. -/
theorem Follows.unknown (follows : Follows events cell) {asking : Ticket × VersionStage}
    (asks : cell.asking = some asking) : cell.known = none := by
  by_contra known
  exact absurd (asks.symm.trans (follows.settled known)) (Option.some_ne_none asking)

/-- Nobody is asking once a version has been told. -/
theorem Follows.settled_step (follows : Follows events cell) (possible : Step cell event next)
    (known : next.known ≠ none) : next.asking = none := by
  cases possible with
  | want | serve => exact follows.settled known
  | begin queued unknown free => exact absurd unknown known
  | send asks => exact absurd (follows.unknown asks) known
  | miss | refuse | tell => rfl

/-- Who is told a generation is told the known one. -/
theorem Follows.agreed_step (follows : Follows events cell) (possible : Step cell event next)
    (ticket : Ticket) (generation : Generation)
    (told : next.answers.get? ticket = some (.ok generation)) : next.known = some generation := by
  cases possible with
  | want | begin | send => exact follows.agreed ticket generation told
  | serve queued known =>
      simp only [Table.get?_put] at told
      split at told
      · exact known.trans (congrArg some (Except.ok.inj (Option.some.inj told)))
      · exact follows.agreed ticket generation told
  | miss fault asks | refuse fault asks =>
      simp only [failed, Table.get?_put] at told
      split at told
      · cases told
      · exact follows.agreed ticket generation told
  | tell version asks =>
      simp only [Table.get?_put] at told
      split at told
      · exact congrArg some (Except.ok.inj (Option.some.inj told))
      · have known := follows.agreed ticket generation told
        rw [follows.unknown asks] at known
        cases known

/-- A move adds itself to the history. -/
theorem Follows.step (follows : Follows events cell) (possible : Step cell event next) :
    Follows (events ++ [event]) next where
  known := by
    rw [possible.known_eq, told?_append, told?_singleton, ← follows.known]
    cases possible with
    | tell version asks => rw [follows.unknown asks, Option.none_or, Option.or_none]
    | want | serve | begin | send | miss | refuse => exact Option.or_none.symm
  settled := follows.settled_step possible
  wishes := by rw [possible.counts.1, List.countP_append, follows.wishes]
  requests := by rw [possible.counts.2.1, List.countP_append, follows.requests]
  answered := by
    have before := follows.answered
    obtain ⟨-, requests, answered⟩ := possible.counts
    rw [List.countP_append]
    omega
  callers := possible.standing_perm follows.callers
  agreed := follows.agreed_step possible

theorem follows_initial : Follows [] initial where
  known := rfl
  settled _ := rfl
  wishes := rfl
  requests := rfl
  answered := rfl
  callers := List.Perm.refl _
  agreed _ _ := nofun

theorem follows_of_run (ran : Moves.run? step? initial events = some cell) :
    Follows events cell := by
  induction events using List.reverseRecOn generalizing cell with
  | nil =>
      cases ran
      exact follows_initial
  | append_singleton earlier event ih =>
      obtain ⟨middle, begun, ended⟩ := Moves.run?_append_eq_some_iff.mp ran
      obtain ⟨next, moved, same⟩ := Moves.run?_cons_eq_some_iff.mp ended
      cases same
      exact (ih begun).step (step?_eq_some_iff.mp moved)

/-! ## Answers stay -/

/-- Nobody is answered twice. -/
theorem get?_put_of_stood {answer other : Except Fault Generation} {asker ticket : Ticket}
    (apart : cell.standing.Nodup) (stood : asker ∈ cell.queue ++ cell.asking.toList.map (·.1))
    (given : cell.answers.get? ticket = some answer) :
    (cell.answers.put asker other).get? ticket = some answer := by
  have answered : ticket ∈ cell.answers.keys := (cell.answers.mem_keys_iff ticket).mpr ⟨_, given⟩
  have different : asker ≠ ticket := (List.nodup_append.mp apart).2.2 asker stood ticket answered
  rw [Table.get?_put, if_neg different, given]

theorem Follows.answer_kept (follows : Follows events cell) (possible : Step cell event next)
    {ticket : Ticket} {answer : Except Fault Generation}
    (given : cell.answers.get? ticket = some answer) :
    next.answers.get? ticket = some answer := by
  have apart : cell.standing.Nodup := follows.callers.nodup_iff.mpr List.nodup_range
  cases possible with
  | want | begin | send => exact given
  | serve queued known => exact get?_put_of_stood apart (by simp [queued]) given
  | miss fault asks | refuse fault asks | tell version asks =>
      exact get?_put_of_stood apart (by simp [asks]) given

/-- A caller keeps its answer, whatever happens. -/
theorem Follows.answer_kept_of_run (follows : Follows events cell) {after : List Event}
    (ran : Moves.run? step? cell after = some last) {ticket : Ticket}
    {answer : Except Fault Generation} (given : cell.answers.get? ticket = some answer) :
    last.answers.get? ticket = some answer := by
  have kept := Moves.run_induction
    (fun current => (∃ events, Follows events current) ∧
      current.answers.get? ticket = some answer) ran ⟨⟨events, follows⟩, given⟩
    fun _ _ _ ⟨⟨_, follows⟩, given⟩ moved =>
      have possible := step?_eq_some_iff.mp moved
      ⟨⟨_, follows.step possible⟩, follows.answer_kept possible given⟩
  exact kept.2

/-! ## Faults -/

/-- Whether the gateway is asked for whoever wants the generation next: the one
who has waited longest, or the one who comes. -/
structure AsksNext (cell : GenerationCell) : Prop where
  unknown : cell.known = none
  free : cell.asking = none
  waiting : ∀ ticket rest, cell.queue = ticket :: rest →
    Moves.run? step? cell [.proceed, .sendRequest] = some
      { cell with
        queue := rest
        asking := some (ticket, .requestUnderWay)
        requests := cell.requests + 1 }
  coming : cell.queue = [] →
    Moves.run? step? cell [.want, .proceed, .sendRequest] = some
      { cell with
        nextTicket := cell.nextTicket + 1
        asking := some (cell.nextTicket, .requestUnderWay)
        requests := cell.requests + 1 }

theorem asksNext_of_unknown (unknown : cell.known = none) (free : cell.asking = none) :
    cell.AsksNext where
  unknown := unknown
  free := free
  waiting ticket rest queued := by
    simp only [Moves.run?, step?, queued, unknown, free, Option.bind_some]
  coming queued := by
    simp only [Moves.run?, step?, queued, unknown, free, Option.bind_some, List.nil_append]

/-- A fault is met by the one who asks. -/
theorem Step.of_fault (possible : Step cell event next) {fault : Fault}
    (brings : event.fault? = some fault) :
    ∃ ticket stage, cell.asking = some (ticket, stage) ∧ next = cell.failed ticket fault := by
  cases possible with
  | want | serve | begin | send | tell => cases brings
  | miss fault asks | refuse fault asks =>
      cases brings
      exact ⟨_, _, asks, rfl⟩

/-! ## Versions -/

/-- Whether the generation is known, and nobody asks. -/
structure Settled (generation : Generation) (cell : GenerationCell) : Prop where
  known : cell.known = some generation
  free : cell.asking = none

/-- Whether moves from an earlier cell on only let callers in and tell them what
is known: nothing is asked, and nobody meets a fault. -/
structure OnlyTells (earlier : GenerationCell) (moves : List Event) (cell : GenerationCell) :
    Prop where
  moves : ∀ event ∈ moves, event = .want ∨ event = .proceed
  requests : cell.requests = earlier.requests
  faults : ∀ ticket fault, cell.answers.get? ticket = some (.error fault) →
    earlier.answers.get? ticket = some (.error fault)

variable {generation : Generation}

theorem Settled.step (settled : Settled generation cell) (possible : Step cell event next) :
    Settled generation next ∧ OnlyTells cell [event] next := by
  cases possible with
  | want =>
      exact ⟨⟨settled.known, settled.free⟩, by simp, rfl, fun _ _ failed => failed⟩
  | serve queued known =>
      refine ⟨⟨settled.known, settled.free⟩, by simp, rfl, fun ticket fault failed => ?_⟩
      simp only [Table.get?_put] at failed
      split at failed
      · cases failed
      · exact failed
  | begin queued unknown free => cases settled.known.symm.trans unknown
  | send asks | miss fault asks | refuse fault asks | tell version asks =>
      cases settled.free.symm.trans asks

theorem Settled.run (settled : Settled generation cell) {moves : List Event}
    (ran : Moves.run? step? cell moves = some last) :
    Settled generation last ∧ OnlyTells cell moves last := by
  induction moves generalizing cell with
  | nil =>
      cases ran
      exact ⟨settled, nofun, rfl, fun _ _ failed => failed⟩
  | cons event rest ih =>
      obtain ⟨next, moved, continued⟩ := Moves.run?_cons_eq_some_iff.mp ran
      obtain ⟨still, first⟩ := settled.step (step?_eq_some_iff.mp moved)
      obtain ⟨lastly, others⟩ := ih still continued
      refine ⟨lastly, List.forall_mem_cons.mpr ⟨first.moves event (List.mem_singleton_self _),
        others.moves⟩, others.requests.trans first.requests, fun ticket fault failed => ?_⟩
      exact first.faults ticket fault (others.faults ticket fault failed)

/-- Whether all who wait can be told the generation, one after another, with no
other move. -/
def TellsAll (generation : Generation) (cell : GenerationCell) : Prop :=
  ∃ last, Moves.run? step? cell (List.replicate cell.queue.length .proceed) = some last ∧
    last.queue = [] ∧ ∀ ticket ∈ cell.queue, last.answers.get? ticket = some (.ok generation)

theorem Follows.tellsAll (follows : Follows events cell) (settled : Settled generation cell) :
    TellsAll generation cell := by
  obtain ⟨queue, queued⟩ : ∃ queue, cell.queue = queue := ⟨_, rfl⟩
  unfold TellsAll
  rw [queued]
  induction queue generalizing cell events with
  | nil => exact ⟨cell, rfl, queued, nofun⟩
  | cons ticket rest ih =>
      have possible := Step.serve queued settled.known
      have follows' := follows.step possible
      obtain ⟨last, ran, served, told⟩ := ih follows' (settled.step possible).1 rfl
      have moved := step?_eq_some_iff.mpr possible
      refine ⟨last, Moves.run?_cons_eq_some_iff.mpr ⟨_, moved, ran⟩, served,
        List.forall_mem_cons.mpr ⟨?_, told⟩⟩
      refine follows'.answer_kept_of_run ran ?_
      rw [Table.get?_put, if_pos rfl]

/-- In a settled cell everyone waits, was told the generation, or met a fault. -/
theorem Follows.exists_outcome (follows : Follows events cell)
    (settled : Settled generation cell) {ticket : Ticket} (came : ticket < cell.nextTicket) :
    ticket ∈ cell.queue ∨ cell.answers.get? ticket = some (.ok generation) ∨
      ∃ fault, cell.answers.get? ticket = some (.error fault) := by
  have stands := follows.callers.mem_iff.mpr (List.mem_range.mpr came)
  simp only [standing, settled.free, Option.toList_none, List.map_nil, List.append_nil,
    List.mem_append, Table.mem_keys_iff] at stands
  obtain waits | ⟨answer, found⟩ := stands
  · exact .inl waits
  · cases answer with
    | error fault => exact .inr (.inr ⟨fault, found⟩)
    | ok told =>
        have same := settled.known.symm.trans (follows.agreed ticket told found)
        exact .inr (.inl (Option.some.inj same ▸ found))

/-! ## Whole histories -/

/-- What a fault comes to, between the moves before it and those after it.  It
is the answer of the one who asked, for good, and nothing else has changed. -/
def CostsOne (before : List Event) (fault : Fault) (after : List Event)
    (last : GenerationCell) : Prop :=
  ∃ cell ticket stage, Moves.run? step? initial before = some cell ∧
    cell.asking = some (ticket, stage) ∧
    Moves.run? step? (cell.failed ticket fault) after = some last ∧
    last.answers.get? ticket = some (.error fault) ∧ (cell.failed ticket fault).AsksNext

/-- What a version comes to, between the moves before it and those after it.
Everyone who has not met a fault before it is told its generation, now or as
soon as it is let in. -/
structure EndsAsking (before : List Event) (generation : Generation) (after : List Event)
    (last : GenerationCell) : Prop where
  first : told? before = none
  known : last.known = some generation
  moves : ∀ event ∈ after, event = .want ∨ event = .proceed
  requests : last.requests = before.countP Event.isRequest
  outcomes : ∀ ticket < last.nextTicket,
    ticket ∈ last.queue ∨ last.answers.get? ticket = some (.ok generation) ∨
      ∃ fault cell, last.answers.get? ticket = some (.error fault) ∧
        Moves.run? step? initial before = some cell ∧
        cell.answers.get? ticket = some (.error fault)
  tells : TellsAll generation last

/-- Whether the gateway is asked for its version until it tells one, and no
more. -/
structure AsksUntilTold (events : List Event) (cell : GenerationCell) : Prop extends
    Follows events cell where
  faults : ∀ before event after fault, events = before ++ event :: after →
    event.fault? = some fault → CostsOne before fault after cell
  versions : ∀ before version after, events = before ++ .answer (.ok version) :: after →
    EndsAsking before (.ofVersion version) after cell

theorem asksUntilTold_of_run (ran : Moves.run? step? initial events = some cell) :
    AsksUntilTold events cell := by
  have follows := follows_of_run ran
  refine ⟨follows, ?_, ?_⟩
  · rintro before event after fault rfl brings
    obtain ⟨middle, begun, ended⟩ := Moves.run?_append_eq_some_iff.mp ran
    obtain ⟨next, moved, continued⟩ := Moves.run?_cons_eq_some_iff.mp ended
    have possible := step?_eq_some_iff.mp moved
    have earlier := follows_of_run begun
    obtain ⟨ticket, stage, asks, rfl⟩ := possible.of_fault brings
    refine ⟨middle, ticket, stage, begun, asks, continued, ?_,
      asksNext_of_unknown (earlier.unknown asks) rfl⟩
    refine (earlier.step possible).answer_kept_of_run continued ?_
    simp only [failed, Table.get?_put, if_pos]
  · rintro before version after rfl
    obtain ⟨middle, begun, ended⟩ := Moves.run?_append_eq_some_iff.mp ran
    obtain ⟨next, moved, continued⟩ := Moves.run?_cons_eq_some_iff.mp ended
    have earlier := follows_of_run begun
    cases step?_eq_some_iff.mp moved with
    | tell version asks =>
        obtain ⟨settled, tells⟩ := Settled.run ⟨rfl, rfl⟩ continued
        refine ⟨earlier.known.symm.trans (earlier.unknown asks), settled.known, tells.moves,
          tells.requests.trans earlier.requests, ?_, follows.tellsAll settled⟩
        intro ticket came
        obtain waits | told | ⟨fault, failed⟩ := follows.exists_outcome settled came
        · exact .inl waits
        · exact .inr (.inl told)
        · refine .inr (.inr ⟨fault, middle, failed, begun, ?_⟩)
          have before := tells.faults ticket fault failed
          simp only [Table.get?_put] at before
          split at before
          · cases before
          · exact before

end GenerationCell
end StorageTelemetry
