import StorageTelemetry.Fault
import StorageTelemetry.Gateway.Generation
import StorageTelemetry.Session.TokenManager

namespace StorageTelemetry

/-!
# The generation, asked for once

The first caller who wants the generation asks the gateway for its version;
everyone else waits meanwhile.  Once a version is known, it answers every
caller.  A failure is answered to the one who asked, and the next one in the
queue asks again.
-/

/-- How far the caller who asks the gateway has come. -/
inductive VersionStage
  | awaitingToken
  | requestUnderWay
deriving DecidableEq

/-- The state of the cell and of all its callers. -/
structure GenerationCell where
  known : Option Generation
  asking : Option (Ticket × VersionStage)
  queue : List Ticket
  answers : Table Ticket (Except Fault Generation)
  nextTicket : Ticket
  requests : Nat

namespace GenerationCell

def initial : GenerationCell where
  known := none
  asking := none
  queue := []
  answers := .empty
  nextTicket := 0
  requests := 0

/-- A move of the cell. -/
inductive Event
  | want
  | proceed
  | sendRequest
  | tokenMissed (fault : Fault)
  | answer (version : Except Fault String)

def reply (cell : GenerationCell) (ticket : Ticket) (answer : Except Fault Generation) :
    GenerationCell :=
  { cell with answers := cell.answers.put ticket answer }

/-- Whoever asked is answered, and a version is kept. -/
def conclude (cell : GenerationCell) (ticket : Ticket) (version : Except Fault String) :
    GenerationCell :=
  match version with
  | .ok version =>
      let generation := Generation.ofVersion version
      { cell.reply ticket (.ok generation) with known := some generation, asking := none }
  | .error fault => { cell.reply ticket (.error fault) with asking := none }

/-- The state after a move, if the move is possible. -/
def step? (cell : GenerationCell) : Event → Option GenerationCell
  | .want =>
      some { cell with
        queue := cell.queue ++ [cell.nextTicket]
        nextTicket := cell.nextTicket + 1 }
  | .proceed =>
      match cell.queue, cell.known, cell.asking with
      | ticket :: rest, some generation, _ =>
          some ({ cell with queue := rest }.reply ticket (.ok generation))
      | ticket :: rest, none, none =>
          some { cell with queue := rest, asking := some (ticket, .awaitingToken) }
      | _, _, _ => none
  | .sendRequest =>
      match cell.asking with
      | some (ticket, .awaitingToken) =>
          some { cell with
            asking := some (ticket, .requestUnderWay)
            requests := cell.requests + 1 }
      | _ => none
  | .tokenMissed fault =>
      match cell.asking with
      | some (ticket, .awaitingToken) => some (cell.conclude ticket (.error fault))
      | _ => none
  | .answer version =>
      match cell.asking with
      | some (ticket, .requestUnderWay) => some (cell.conclude ticket version)
      | _ => none

/-- Applies a move, or nothing if it is not possible. -/
def apply (cell : GenerationCell) (event : Event) : GenerationCell :=
  (cell.step? event).getD cell

end GenerationCell
end StorageTelemetry
