import StorageTelemetry.Powers
import StorageTelemetry.Session.RefreshLoop

namespace StorageTelemetry

/-!
# A session on the clock

Here the token manager and its refresh loops run on a clock.  At each moment
everything that can move does so; then the clock goes on to the next moment at
which something is due.  Logins follow a plan that says, for the login of each
number, how long it takes and how it ends.
-/

/-- How a login goes. -/
structure Login where
  delay : Nat
  result : Except Fault String

/-- The session at one moment. -/
structure SessionWorld where
  clock : Instant
  plan : Nat → Login
  period : Nat
  manager : TokenManager
  loginsBegun : Nat
  loginEnd : Option (Instant × Except Fault String)
  loops : List RefreshLoop
  shutdown : Bool
  stopped : Bool

namespace SessionWorld

/-- A session in which nothing has happened. -/
def start (plan : Nat → Login) (period : Nat) : SessionWorld where
  clock := 0
  plan := plan
  period := period
  manager := .initial
  loginsBegun := 0
  loginEnd := none
  loops := []
  shutdown := false
  stopped := false

/-- A new caller; its ticket is the one that was next. -/
def request (world : SessionWorld) (purpose : Purpose) : SessionWorld :=
  { world with manager := world.manager.request purpose }

/-- A new refresh loop, whose first refresh asks for the lock at once. -/
def startLoop (world : SessionWorld) : SessionWorld :=
  { world.request .refresh with
    loops := world.loops ++ [.refreshing world.manager.nextTicket none] }

/-! ## Moves at one moment -/

/-- The end of the login under way, if it is due. -/
def endLogin? (world : SessionWorld) : Option SessionWorld :=
  match world.loginEnd with
  | some (time, result) =>
      if time ≤ world.clock then
        let world := { world with loginEnd := none }
        match result with
        | .ok token =>
            some { world with
              manager := (world.manager.apply (.loginSucceeded token)).apply .markGood }
        | .error _ => some { world with manager := world.manager.apply .loginFailed }
      else none
  | none => none

/-- The first caller in the queue gets the free lock.  A refresh begins its
login; an authentication looks at the mark without delay. -/
def acquire? (world : SessionWorld) : Option SessionWorld :=
  match world.manager.queue.head?, world.manager.acquire? with
  | some ticket, some manager =>
      match manager.callers.get? ticket with
      | some .loggingIn =>
          let login := world.plan world.loginsBegun
          some { world with
            manager := manager
            loginsBegun := world.loginsBegun + 1
            loginEnd := some (world.clock + login.delay, login.result) }
      | _ => some { world with manager := manager.apply (.readMark ticket) }
  | _, _ => none

def deadlines (world : SessionWorld) : List (Ticket × Instant) :=
  world.manager.queue.filterMap fun ticket =>
    match world.manager.callers.get? ticket with
    | some (.waiting purpose) => purpose.deadline?.map fun deadline => (ticket, deadline)
    | _ => none

/-- A waiting caller whose deadline is reached gives up. -/
def expire? (world : SessionWorld) : Option SessionWorld :=
  (world.deadlines.find? fun (_, deadline) => deadline ≤ world.clock).map fun (ticket, _) =>
    { world with manager := world.manager.apply (.expire ticket) }

/-- A loop's move, with the world it leaves. -/
def moveLoop? (world : SessionWorld) : RefreshLoop → Option (RefreshLoop × SessionWorld)
  | .refreshing ticket ticker =>
      match world.manager.callers.get? ticket with
      | some (.refreshed _) =>
          some (RefreshLoop.afterRefresh world.period world.clock ticker, world)
      | _ => none
  | .idle ticker =>
      match RefreshLoop.react ticker world.clock world.shutdown world.stopped with
      | .finish reason => some (.ended reason, world)
      | .refresh ticker =>
          some (.refreshing world.manager.nextTicket (some ticker), world.request .refresh)
      | .wait => none
  | .ended _ | .broken => none

/-- The first loop that can move does so. -/
def moveLoops? (world : SessionWorld) :
    List RefreshLoop → Option (List RefreshLoop × SessionWorld)
  | [] => none
  | state :: rest =>
      match world.moveLoop? state with
      | some (state, world) => some (state :: rest, world)
      | none => (world.moveLoops? rest).map fun (rest, world) => (state :: rest, world)

/-- One move at the current moment, if any is possible. -/
def react? (world : SessionWorld) : Option SessionWorld :=
  match world.endLogin? with
  | some world => some world
  | none =>
      match world.acquire? with
      | some world => some world
      | none =>
          match world.expire? with
          | some world => some world
          | none => (world.moveLoops? world.loops).map fun (loops, world) => { world with loops }

/-! ## Time -/

def dueMoments (world : SessionWorld) : List Instant :=
  (world.loginEnd.map (·.1)).toList ++ world.deadlines.map (·.2) ++
    world.loops.filterMap fun state => match state with
      | .idle ticker => some ticker.due
      | _ => none

/-- The next moment at which something is due, within a limit. -/
def nextMoment? (world : SessionWorld) (limit : Option Instant) : Option Instant :=
  match world.dueMoments.min? with
  | some moment =>
      match limit with
      | some last => if moment ≤ last then some moment else none
      | none => some moment
  | none => none

/-- Lets the session run until a condition holds or nothing is due up to the
limit.  The number of moves is bounded by `steps`. -/
def runUntil (done : SessionWorld → Bool) (limit : Option Instant) :
    Nat → SessionWorld → SessionWorld
  | 0, world => world
  | steps + 1, world =>
      match world.react? with
      | some world => runUntil done limit steps world
      | none =>
          if done world then world
          else
            match world.nextMoment? limit with
            | some moment => runUntil done limit steps { world with clock := max world.clock moment }
            | none => world

/-- More moves than a session makes between two looks at it. -/
def patience : Nat := tenPow 9

/-- Lets everything move that can move now. -/
def settle (world : SessionWorld) : SessionWorld :=
  runUntil (fun _ => true) none patience world

/-- Lets time pass up to a moment. -/
def advanceTo (world : SessionWorld) (moment : Instant) : SessionWorld :=
  let world := runUntil (fun _ => false) (some moment) patience world
  { world with clock := max world.clock moment }.settle

def stage (world : SessionWorld) (ticket : Ticket) : CallerStage :=
  (world.manager.callers.get? ticket).getD .timedOut

/-- Lets time pass until a caller has its answer. -/
def await (world : SessionWorld) (ticket : Ticket) : SessionWorld :=
  runUntil (fun world => (world.stage ticket).isDone) none patience world

end SessionWorld
end StorageTelemetry
