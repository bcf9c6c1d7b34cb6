import StorageTelemetry.Gateway.Certificate
import StorageTelemetry.Json.Fields
import StorageTelemetry.Json.Reader
import StorageTelemetry.Rest.Exchange
import StorageTelemetry.Settings.Basic
import StorageTelemetry.SystemError

namespace StorageTelemetry

/-!
# The connection to a gateway

A login is made with the password and answered with a session token; every
other request is made with the token.  What an answer means is decided by its
status before anyone looks into its body.
-/

/-- A connection: where the gateway is, and who asks. -/
structure GatewayConnection where
  endpoint : String
  username : String
  password : String
deriving DecidableEq

namespace GatewayConnection

/-- Makes a connection.  The file of a certificate is read and checked, unless
certificates are not checked at all. -/
def make (readFile : String → Except SystemError String) (settings : GatewaySettings) :
    Except Fault GatewayConnection := do
  if !settings.insecure then
    if let some path := settings.certPath then
      let text ← (readFile path).mapError fun refusal => .io refusal.message
      if !Certificate.isIn text then
        throw (.config ("Invalid certificate " ++ path ++ ": no certificate found"))
  return ⟨settings.endpoint, settings.username, settings.password⟩

/-! ## Requests -/

/-- The address of a path.  Slashes at the end of the endpoint do not count. -/
def address (connection : GatewayConnection) (path : String) : String :=
  String.ofList (connection.endpoint.toList.reverse.dropWhile (· = '/')).reverse ++ path

/-- A request, made with a secret; a body is a document. -/
def request? (connection : GatewayConnection) (method path secret : String)
    (body : Option Json) : Option RestRequest :=
  (Location.ofAddress? (connection.address path)).map fun location =>
    { method, location
      authorization := basicAuthorization connection.username secret
      contentType := body.map fun _ => "application/json"
      body := (body.map Json.compact).getD "" }

def exchange (connection : GatewayConnection) (server : RestServer) (method path secret : String)
    (body : Option Json) : Exchange RestAnswer :=
  match connection.request? method path secret body with
  | some request =>
      ⟨[request], match server request with
        | some answer => .ok answer
        | none => .error (.http "the connection was closed")⟩
  | none => ⟨[], .error (.http "the address is malformed")⟩

/-! ## Answers -/

def readBody {α : Type} (reader : Json → Except Mismatch α) (body : String) : Except Fault α :=
  match Json.ofString? body with
  | some document => (reader document).mapError .json
  | none => .error (.json .malformed)

/-- What a gateway says about a refused request. -/
structure Refusal where
  message : Option String
  code : Option Int

/-- Reads what a gateway says about a refused request. -/
def Refusal.ofJson (document : Json) : Except Mismatch Refusal := do
  let record ← document.record "struct GatewayErrorBody" ["message", "errorCode"]
  let message ← record.read "message" Json.optionalText none
  let code ← record.read "errorCode" Json.optionalInteger none
  return { message, code }

/-- The reason in the body of a refused request.  A body that says nothing
understandable is the reason itself. -/
def refusalReason (body : String) : String :=
  match readBody Refusal.ofJson body with
  | .ok ⟨some message, code⟩ => message ++ " (code " ++ toString (code.getD 0) ++ ")"
  | _ => body

/-- What the answer to a request for a path means. -/
def decode {α : Type} (path : String) (reader : Json → Except Mismatch α) (answer : RestAnswer) :
    Except Fault α :=
  if answer.status = 401 then .error (.auth (path ++ " rejected the session token"))
  else if isSuccess answer.status then readBody reader answer.text
  else
    .error (.powerFlexApi (path ++ " returned " ++ statusText answer.status ++ ": " ++
      refusalReason answer.text))

def decodeLogin (answer : RestAnswer) : Except Fault String :=
  if isSuccess answer.status then
    match readBody Json.text answer.text with
    | .ok token =>
        if token.isEmpty then .error (.auth "gateway returned an empty token") else .ok token
    | .error fault => .error fault
  else .error (.auth ("gateway login returned " ++ statusText answer.status))

def loginPath : String := "/api/login"

def login (connection : GatewayConnection) (server : RestServer) : Exchange String :=
  let exchange := connection.exchange server "GET" loginPath connection.password none
  ⟨exchange.sent, exchange.result.bind decodeLogin⟩

end GatewayConnection
end StorageTelemetry
