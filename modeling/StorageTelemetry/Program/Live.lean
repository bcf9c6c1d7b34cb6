import StorageTelemetry.Gateway.RestClient
import StorageTelemetry.Scheduler.Run

namespace StorageTelemetry

/-!
# Collecting from a real gateway

What collection does is a function of what the gateway answers, while a
gateway only answers what it is asked.  So a stage is computed with the
answers that are known.  If it needs an answer that is not known yet, that
request is made and the stage is computed anew.  Everything up to the first
unknown answer is the same each time, so no request is made that the finished
stage would not have made.
-/

/-- The answers that are known, with the time each of them took. -/
abbrev KnownAnswers : Type := Table RestRequest (Nat × Option RestAnswer)

namespace KnownAnswers

def server (known : KnownAnswers) : RestServer := fun request => (known.get? request).bind (·.2)

/-- The first request whose answer is not known. -/
def missing? (known : KnownAnswers) (requests : List RestRequest) : Option RestRequest :=
  requests.find? fun request => !known.contains request

def reply {α : Type} (known : KnownAnswers) (exchange : Exchange α) : Reply α :=
  let delays := exchange.sent.map fun request => ((known.get? request).map (·.1)).getD 0
  ⟨delays.foldl (· + ·) 0, .ofExcept exchange.result⟩

end KnownAnswers

namespace RestClient

def management (client : RestClient) (known : KnownAnswers) : Client where
  authenticate _ := known.reply ⟨[], client.authenticate⟩
  generation _ := known.reply (client.generation known.server).1
  sdcs _ := known.reply (client.perform .sdcs known.server)
  sdcVolumes id _ := known.reply (client.perform (.sdcVolumes id) known.server)
  sdcStatistics id _ := known.reply (client.perform (.sdcStatistics id) known.server)
  volumeStatistics id _ := known.reply (client.perform (.volumeStatistics id) known.server)
  pools _ := known.reply (client.perform .pools known.server)
  poolStatistics id _ := known.reply (client.perform (.poolStatistics id) known.server)
  bulk query _ := known.reply (client.perform (.bulk query) known.server)

def requestsOf (client : RestClient) : Request → List RestRequest :=
  let server : RestServer := fun _ => none
  fun
  | .authenticate => []
  | .generation => (client.generation server).1.sent
  | .sdcs => (client.perform .sdcs server).sent
  | .sdcVolumes id => (client.perform (.sdcVolumes id) server).sent
  | .sdcStatistics id => (client.perform (.sdcStatistics id) server).sent
  | .volumeStatistics id => (client.perform (.volumeStatistics id) server).sent
  | .pools => (client.perform .pools server).sent
  | .poolStatistics id => (client.perform (.poolStatistics id) server).sent
  | .bulk query => (client.perform (.bulk query) server).sent

/-- The client after calls were made: it may have learned the generation. -/
def afterCalls (client : RestClient) (known : KnownAnswers) (calls : List Request) : RestClient :=
  if calls.contains .generation then (client.generation known.server).2 else client

end RestClient

/-- Collection under way: the client, when it logs in next, and the loop. -/
structure LiveCollection where
  client : RestClient
  login : Ticker
  run : LoopRun

/-- What collection needs to go on. -/
inductive LiveStep
  | ask (request : RestRequest)
  | goOn (state : LiveCollection)
  | ended (result : Option (Except BootstrapFailure Unit))

namespace LiveCollection

/-- What collection works with, given the known answers. -/
def scheduler (settings : Settings) (client : RestClient) (known : KnownAnswers) : Scheduler where
  context :=
    { client := client.management known
      discovery := settings.inventory.discovery
      bound := settings.collection.maxConcurrentQueries.toNat
      drivers := settings.collection.driverNames }
  settings := settings.collection

/-- Collection at its start.  The first login is due at once. -/
def start (settings : Settings) (connection : GatewayConnection) (surroundings : Surroundings) :
    LiveCollection :=
  let client := RestClient.ofConnection connection
  ⟨client, ⟨secondsSpan settings.collection.tokenRefreshInterval.toNat, 0⟩,
    .start (scheduler settings client .empty) surroundings (.start .empty)⟩

/-- A run without what lies behind it.  The tick started last is kept: it says
at which branch the loop looks next. -/
def forget (run : LoopRun) : LoopRun :=
  { run with
    loop := { run.loop with started := run.loop.started.take 1 }
    history := ⟨run.exporter, []⟩
    calls := []
    log := [] }

/-- One stage.  A login that is due comes first. -/
def step (settings : Settings) (surroundings : Surroundings) (known : KnownAnswers)
    (state : LiveCollection) : LiveStep :=
  if state.login.ready state.run.loop.clock then
    let (exchange, client) := state.client.refresh known.server
    match known.missing? exchange.sent with
    | some request => .ask request
    | none => .goOn { state with client, login := state.login.fire state.run.loop.clock }
  else
    match (forget state.run).next? (scheduler settings state.client known) surroundings with
    | none => .ended state.run.loop.result?
    | some run =>
        let calls := run.calls.map (·.2)
        match known.missing? (calls.flatMap state.client.requestsOf) with
        | some request => .ask request
        | none => .goOn { state with client := state.client.afterCalls known calls, run }

/-- The state after something happened to the loop from outside. -/
def perform (state : LiveCollection) (event : CollectionLoop.Event) : LiveCollection :=
  { state with run := { state.run with loop := state.run.loop.perform [event] } }

end LiveCollection
end StorageTelemetry
