import StorageTelemetry.Gateway.Calls
import StorageTelemetry.Gateway.GenerationCell

namespace StorageTelemetry

/-!
# A client on its own

A gateway's client together with its session, when nobody else uses it: the
lock of the session is free whenever it is asked for.
-/

namespace TokenManager

/-- A caller asks for the lock and gets it at once. -/
def admitted (manager : TokenManager) (purpose : Purpose) : TokenManager :=
  (manager.apply (.request purpose)).apply .acquire

def latest (manager : TokenManager) : CallerStage :=
  (manager.callers.get? (manager.nextTicket - 1)).getD .timedOut

/-- A whole refresh with a given result of its login. -/
def refreshedBy (manager : TokenManager) (login : Except Fault String) : TokenManager :=
  let manager := manager.admitted .refresh
  match login with
  | .ok token => (manager.apply (.loginSucceeded token)).apply .markGood
  | .error _ => manager.apply .loginFailed

end TokenManager

/-- A client and its session. -/
structure RestClient where
  connection : GatewayConnection
  manager : TokenManager
  cell : GenerationCell

namespace RestClient

/-- A client before its first login. -/
def ofConnection (connection : GatewayConnection) : RestClient :=
  ⟨connection, .initial, .initial⟩

def refresh (client : RestClient) (server : RestServer) : Exchange Bool × RestClient :=
  let login := client.connection.login server
  (⟨login.sent, .ok login.result.isOk⟩,
    { client with manager := client.manager.refreshedBy login.result })

def token (client : RestClient) : Except Fault String :=
  tokenAnswer (client.manager.admitted (.read 0)).latest

def authenticate (client : RestClient) : Except Fault Unit :=
  let manager := client.manager.admitted (.authenticate 0)
  let ticket := manager.nextTicket - 1
  authenticationAnswer client.connection.username (manager.apply (.readMark ticket)).latest

def perform {α : Type} (client : RestClient) (call : GatewayCall α) (server : RestServer) :
    Exchange α :=
  call.perform client.connection server client.token

/-- The generation of the gateway.  The gateway is asked if it is not known. -/
def generation (client : RestClient) (server : RestServer) : Exchange Generation × RestClient :=
  let ticket := client.cell.nextTicket
  let cell := (client.cell.apply .want).apply .proceed
  let finished := fun (sent : List RestRequest) (cell : GenerationCell) =>
    (⟨sent, (cell.answers.get? ticket).getD (.error .cancelled)⟩, { client with cell })
  match cell.known, client.token with
  | some _, _ => finished [] cell
  | none, .error fault => finished [] (cell.apply (.tokenMissed fault))
  | none, .ok token =>
      let exchange := GatewayCall.version.perform client.connection server (.ok token)
      finished exchange.sent ((cell.apply .sendRequest).apply (.answer exchange.result))

end RestClient
end StorageTelemetry
