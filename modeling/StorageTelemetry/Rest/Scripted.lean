import StorageTelemetry.Json.Lookup
import StorageTelemetry.Rest.Exchange
import StorageTelemetry.Table
import StorageTelemetry.Text.Quoted

namespace StorageTelemetry

/-!
# A scripted server

A server that answers from a script, for rehearsing requests without a
network.  The script has a list of answers for each method and target, to be
used in turn; the last one repeats.
-/

/-- A server with the answers it still has to give.  An answer that is not
there closes the connection. -/
structure ScriptedServer where
  authority : String
  answers : Table (String × String) (List (Option RestAnswer))

namespace ScriptedServer

def receives (server : ScriptedServer) (request : RestRequest) : Bool :=
  !request.location.secure && request.location.authority = server.authority

def notFound : RestAnswer := ⟨404, []⟩

def answer (server : ScriptedServer) : RestServer := fun request =>
  if server.receives request then
    match server.answers.get? (request.method, request.location.target) with
    | some (answer :: _) => answer
    | _ => some notFound
  else none

def after (server : ScriptedServer) (request : RestRequest) : ScriptedServer :=
  let key := (request.method, request.location.target)
  match server.answers.get? key with
  | some (_ :: next :: rest) => { server with answers := server.answers.put key (next :: rest) }
  | _ => server

/-! ## Reading scripts -/

def hexBytes : List Char → List UInt8
  | a :: b :: rest =>
      UInt8.ofNat ((Text.hexValue? a).getD 0 * 16 + (Text.hexValue? b).getD 0) :: hexBytes rest
  | _ => []

/-- Whether answers of a status have no body. -/
def isBodiless (status : Nat) : Bool := status = 204 || status = 304

def answerOf (entry : Json) : Option RestAnswer :=
  let status := ((entry.get "status").present?.map Json.asNat).getD 200
  let body := match entry.get "body_hex" with
    | .null => Text.bytes (entry.textAt "body")
    | digits => hexBytes digits.asText.toList
  if entry.flagAt "drop" then none
  else some ⟨status, if isBodiless status then [] else body⟩

/-- Reads a script, whose keys are a method and a target with a blank between
them. -/
def ofScript (authority : String) (script : Json) : ScriptedServer :=
  let answers := script.entries.map fun (key, entries) =>
    let text := key.toList
    let target := (text.dropWhile (· ≠ ' ')).drop 1
    ((String.ofList (text.takeWhile (· ≠ ' ')), String.ofList target), entries.items.map answerOf)
  ⟨authority, answers.foldl (fun table (key, list) => table.put key list) .empty⟩

end ScriptedServer
end StorageTelemetry
