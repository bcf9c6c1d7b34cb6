import StorageTelemetry.Clock.Ticker
import StorageTelemetry.Fault
import StorageTelemetry.Table

namespace StorageTelemetry

/-!
# The session token

One lock guards the session token.  A refresh holds it during the whole login,
so whoever reads the token gets the one of the last completed login.  Callers
wait in the order in which they asked; readers may give up at a deadline.

The manager is a transition system over tickets.  Two steps are finer than
they may seem: a refresh first stores the token and then marks the login as
good, and an authentication first reads the token under the lock and then
looks at the mark without it.  In between, other callers may move.
-/

/-- The number of a caller, in the order of asking. -/
abbrev Ticket := Nat

/-- What a caller wants from the lock. -/
inductive Purpose
  | refresh
  | read (deadline : Instant)
  | authenticate (deadline : Instant)
deriving DecidableEq

/-- The moment at which a caller gives up waiting. -/
def Purpose.deadline? : Purpose → Option Instant
  | refresh => none
  | read deadline | authenticate deadline => some deadline

/-- How far a caller has come. -/
inductive CallerStage
  | waiting (purpose : Purpose)
  | loggingIn
  | storing
  | refreshed (succeeded : Bool)
  | gotToken (token : String)
  | holding (token : String)
  | checked (token : String) (authenticated : Bool)
  | timedOut
deriving DecidableEq

def CallerStage.isDone : CallerStage → Bool
  | refreshed _ | gotToken _ | checked _ _ | timedOut => true
  | _ => false

/-- The state of the manager and of all its callers. -/
structure TokenManager where
  token : String
  authenticated : Bool
  holder : Option Ticket
  queue : List Ticket
  callers : Table Ticket CallerStage
  nextTicket : Ticket
deriving DecidableEq

namespace TokenManager

/-- The manager before the first login. -/
def initial : TokenManager where
  token := ""
  authenticated := false
  holder := none
  queue := []
  callers := .empty
  nextTicket := 0

/-- A move of the manager. -/
inductive Event
  | request (purpose : Purpose)
  | acquire
  | loginSucceeded (token : String)
  | markGood
  | loginFailed
  | expire (ticket : Ticket)
  | readMark (ticket : Ticket)
deriving DecidableEq

def setStage (manager : TokenManager) (ticket : Ticket) (stage : CallerStage) : TokenManager :=
  { manager with callers := manager.callers.put ticket stage }

/-- A caller joins the queue with the next ticket. -/
def request (manager : TokenManager) (purpose : Purpose) : TokenManager :=
  { manager.setStage manager.nextTicket (.waiting purpose) with
    queue := manager.queue ++ [manager.nextTicket]
    nextTicket := manager.nextTicket + 1 }

/-- The first caller in the queue gets the free lock.  A reader takes the
token and gives the lock back in the same move. -/
def acquire? (manager : TokenManager) : Option TokenManager :=
  match manager.holder, manager.queue with
  | none, ticket :: rest =>
      let manager := { manager with queue := rest }
      match manager.callers.get? ticket with
      | some (.waiting .refresh) =>
          some { manager.setStage ticket .loggingIn with holder := some ticket }
      | some (.waiting (.read _)) => some (manager.setStage ticket (.gotToken manager.token))
      | some (.waiting (.authenticate _)) =>
          some (manager.setStage ticket (.holding manager.token))
      | _ => none
  | _, _ => none

/-- The ticket of the lock holder, if it is at a stage. -/
def holderAt? (manager : TokenManager) (stage : CallerStage) : Option Ticket :=
  manager.holder.filter fun ticket => manager.callers.get? ticket = some stage

/-- The state after a move, if the move is possible. -/
def step? (manager : TokenManager) : Event → Option TokenManager
  | .request purpose => some (manager.request purpose)
  | .acquire => manager.acquire?
  | .loginSucceeded token =>
      (manager.holderAt? .loggingIn).map fun ticket =>
        { manager.setStage ticket .storing with token }
  | .markGood =>
      (manager.holderAt? .storing).map fun ticket =>
        { manager.setStage ticket (.refreshed true) with authenticated := true, holder := none }
  | .loginFailed =>
      (manager.holderAt? .loggingIn).map fun ticket =>
        { manager.setStage ticket (.refreshed false) with authenticated := false, holder := none }
  | .expire ticket =>
      match manager.queue.contains ticket, manager.callers.get? ticket with
      | true, some (.waiting (.read _)) | true, some (.waiting (.authenticate _)) =>
          some { manager.setStage ticket .timedOut with queue := manager.queue.erase ticket }
      | _, _ => none
  | .readMark ticket =>
      match manager.callers.get? ticket with
      | some (.holding token) =>
          some (manager.setStage ticket (.checked token manager.authenticated))
      | _ => none

/-- Applies a move, or nothing if it is not possible. -/
def apply (manager : TokenManager) (event : Event) : TokenManager :=
  (manager.step? event).getD manager

end TokenManager

/-- The answer to someone who asked for the token. -/
def tokenAnswer : CallerStage → Except Fault String
  | .gotToken token => .ok token
  | _ => .error (.timeout "gateway token")

/-- The answer to someone who asked whether there is a usable session. -/
def authenticationAnswer (user : String) : CallerStage → Except Fault Unit
  | .checked token authenticated =>
      if !authenticated then .error (.auth ("last gateway login failed for user " ++ user))
      else if token.isEmpty then .error (.auth ("no session token for user " ++ user))
      else .ok ()
  | _ => .error (.timeout "gateway token")

end StorageTelemetry
