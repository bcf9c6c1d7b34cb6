import StorageTelemetry.Fault
import StorageTelemetry.Rest.Location
import StorageTelemetry.Rest.Status
import StorageTelemetry.Text.Base64

namespace StorageTelemetry

/-!
# Requests and answers

A request as it is sent, and the answer of a server.  A server that does not
answer closes the connection.
-/

/-- A request. -/
structure RestRequest where
  method : String
  location : Location
  authorization : String
  contentType : Option String
  body : String
deriving DecidableEq

/-- An answer. -/
structure RestAnswer where
  status : Nat
  body : List UInt8
deriving DecidableEq

def RestAnswer.text (answer : RestAnswer) : String := Text.ofBytes answer.body

/-- A server at some moment: what it answers to which request. -/
abbrev RestServer : Type := RestRequest → Option RestAnswer

/-- The header by which a user identifies with a secret. -/
def basicAuthorization (user secret : String) : String :=
  "Basic " ++ String.ofList (Text.toBase64 (Text.bytes (user ++ ":" ++ secret)))

/-- What became of a call: which requests were sent, and the result. -/
structure Exchange (α : Type) where
  sent : List RestRequest
  result : Except Fault α

end StorageTelemetry
