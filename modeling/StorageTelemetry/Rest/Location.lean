import StorageTelemetry.Text.Quoted
import StorageTelemetry.Text.Utf8

namespace StorageTelemetry

/-!
# Locations

Where a request goes: a server, and the target that the request names there.
Targets are written in a restricted set of characters, and their paths hold no
dot segments.
-/

/-- A server and a target on it. -/
structure Location where
  secure : Bool
  authority : String
  target : String
deriving DecidableEq

namespace Location

/-! ## Percent encoding -/

/-- A byte in hexadecimal digits after a percent sign. -/
def encodedByte (byte : UInt8) : List Char :=
  '%' :: (Text.hexDigits 2 byte.toNat).map Char.toUpper

/-- A character, encoded if it is one of the given characters, a control
character or beyond the basic ones. -/
def encodedChar (reserved : List Char) (c : Char) : List Char :=
  if c.toNat < 0x20 || 0x7F ≤ c.toNat || reserved.contains c then
    (Text.bytes (String.singleton c)).flatMap encodedByte
  else [c]

/-- The characters that a path cannot hold as they are. -/
def reservedInPath : List Char := [' ', '"', '#', '<', '>', '?', '`', '\x7b', '\x7d']

/-- The characters that a query cannot hold as they are. -/
def reservedInQuery : List Char := [' ', '"', '#', '<', '>', '\'']

/-! ## Paths -/

def isSeparator (c : Char) : Bool := c = '/' || c = '\\'

def segments : List Char → List (List Char)
  | [] => [[]]
  | c :: rest =>
      if isSeparator c then [] :: segments rest
      else
        match segments rest with
        | segment :: others => (c :: segment) :: others
        | [] => [[c]]

/-- The number of dots that a segment consists of, if it is nothing else.  A
dot may be encoded. -/
def dots? : List Char → Option Nat
  | [] => some 0
  | '.' :: rest => (dots? rest).map (· + 1)
  | '%' :: '2' :: 'e' :: rest | '%' :: '2' :: 'E' :: rest => (dots? rest).map (· + 1)
  | _ => none

/-- Resolves dot segments after the segments before, which are kept in
reverse.  A dot segment at the end leaves an empty segment. -/
def resolve (before : List (List Char)) : List (List Char) → List (List Char)
  | [] => before.reverse
  | segment :: rest =>
      let before' := match dots? segment with
        | some 1 => if rest.isEmpty then [] :: before else before
        | some 2 => if rest.isEmpty then [] :: before.tail else before.tail
        | _ => segment.flatMap (encodedChar reservedInPath) :: before
      resolve before' rest

/-- A path with its dot segments resolved, written with the allowed
characters. -/
def normalPath (path : List Char) : List Char :=
  let inner := match path with
    | c :: rest => if isSeparator c then rest else path
    | [] => []
  (resolve [] (segments inner)).flatMap ('/' :: ·)

/-! ## Addresses -/

/-- The target that the part of an address behind the server names.  What
follows a number sign is not sent. -/
def targetOf (text : List Char) : String :=
  let text := text.takeWhile (· ≠ '#')
  let path := normalPath (text.takeWhile (· ≠ '?'))
  String.ofList (path ++ match text.dropWhile (· ≠ '?') with
    | _ :: query => '?' :: query.flatMap (encodedChar reservedInQuery)
    | [] => [])

/-- The scheme of an address and what is left behind its colon. -/
def scheme? (text : List Char) : Option (Bool × List Char) :=
  match text.span (· ≠ ':') with
  | (name, _ :: rest) =>
      match String.ofList (name.map Char.toLower) with
      | "http" => some (false, rest)
      | "https" => some (true, rest)
      | _ => none
  | _ => none

/-- The location that an address names.  Blanks around it and line breaks and
tabulators in it do not count. -/
def ofAddress? (address : String) : Option Location := do
  let trim := fun (text : List Char) => (text.dropWhile (·.toNat ≤ 0x20)).reverse
  let text := (trim (trim address.toList)).filter fun c => c ≠ '\t' && c ≠ '\n' && c ≠ '\r'
  let (secure, rest) ← scheme? text
  let inServer := fun c => !isSeparator c && c ≠ '?' && c ≠ '#'
  let rest := rest.dropWhile isSeparator
  let authority := rest.takeWhile inServer
  guard (!authority.isEmpty)
  return ⟨secure, String.ofList authority, targetOf (rest.dropWhile inServer)⟩

end Location
end StorageTelemetry
