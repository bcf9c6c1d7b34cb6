import StorageTelemetry.Exposition.Http
import StorageTelemetry.Rest.Exchange
import StorageTelemetry.Text.Digits

namespace StorageTelemetry

/-!
# Messages on a connection

A message is a head of lines and a body behind an empty line.  Every message
here is the last one on its connection, so whoever reads it has all bytes.
-/

namespace Wire

def lineEnd : String := "\r\n"

def message (first : String) (headers : List (String × String)) (body : String) : List UInt8 :=
  let fields := headers ++
    [("content-length", toString body.toUTF8.size), ("connection", "close")]
  let lines := first :: fields.map fun (name, value) => name ++ ": " ++ value
  Text.bytes (lineEnd.intercalate lines ++ lineEnd ++ lineEnd ++ body)

/-! ## Reading -/

/-- The first line of bytes, without its end, and what is left. -/
def line? : List UInt8 → Option (List UInt8 × List UInt8)
  | [] => none
  | 13 :: 10 :: rest => some ([], rest)
  | byte :: rest => (line? rest).map fun (line, rest) => (byte :: line, rest)

/-- The lines up to the first empty one, and what is left.  The number of
lines is bounded. -/
def headWithin : Nat → List UInt8 → Option (List String × List UInt8)
  | 0, _ => none
  | bound + 1, bytes => do
      let (line, rest) ← line? bytes
      if line.isEmpty then return ([], rest)
      else
        let (lines, rest) ← headWithin bound rest
        return (Text.ofBytes line :: lines, rest)

def head? (bytes : List UInt8) : Option (List String × List UInt8) :=
  headWithin bytes.length bytes

/-- The name of a header in lower case, and its value. -/
def header (line : String) : String × String :=
  let (name, value) := line.toList.span (· ≠ ':')
  let trim := fun (text : List Char) => (text.dropWhile (· = ' ')).reverse
  (String.ofList (name.map Char.toLower), String.ofList (trim (trim (value.drop 1))))

/-- The number that hexadecimal digits at the front denote. -/
def chunkSize (line : List UInt8) : Nat :=
  ((line.map fun byte => Text.hexValue? (Char.ofNat byte.toNat)).takeWhile Option.isSome).foldl
    (fun size digit => 16 * size + digit.getD 0) 0

/-- A body that comes in pieces, each preceded by its size.  The number of
pieces is bounded. -/
def chunksWithin : Nat → List UInt8 → Option (List UInt8)
  | 0, _ => none
  | bound + 1, bytes => do
      let (line, rest) ← line? bytes
      let size := chunkSize line
      if size = 0 then return []
      else if rest.length < size + 2 then none
      else return rest.take size ++ (← chunksWithin bound (rest.drop (size + 2)))

/-- The body that headers announce, if it is complete. -/
def body? (headers : List (String × String)) (bytes : List UInt8) : Option (List UInt8) :=
  if headers.lookup "transfer-encoding" = some "chunked" then chunksWithin bytes.length bytes
  else
    match headers.lookup "content-length" with
    | some length => do
        let size ← Text.digits? length.toList
        if bytes.length < size then none else return bytes.take size
    | none => some bytes

end Wire

def RestRequest.wire (request : RestRequest) : List UInt8 :=
  Wire.message (request.method ++ " " ++ request.location.target ++ " HTTP/1.1")
    ([("host", request.location.authority), ("authorization", request.authorization),
      ("accept", "*/*")] ++
      (request.contentType.map fun type => ("content-type", type)).toList) request.body

def RestAnswer.ofWire? (bytes : List UInt8) : Option RestAnswer := do
  let (first :: lines, rest) ← Wire.head? bytes | none
  let code := (first.toList.dropWhile (· ≠ ' ')).drop 1
  let status ← Text.digits? (code.take 3)
  return ⟨status, ← Wire.body? (lines.map Wire.header) rest⟩

def HttpReply.wire (reply : HttpReply) : List UInt8 :=
  Wire.message ("HTTP/1.1 " ++ statusText reply.status)
    ((reply.contentType.map fun type => ("content-type", type)).toList ++
      (reply.allow.map fun methods => ("allow", methods)).toList) reply.body

/-- The method and the target in the first line of a request. -/
def requestTarget? (bytes : List UInt8) : Option (String × String) := do
  let (line, _) ← Wire.line? bytes
  match (Text.ofBytes line).splitOn " " with
  | [method, target, _] => return (method, target)
  | _ => none

end StorageTelemetry
