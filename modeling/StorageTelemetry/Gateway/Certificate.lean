import StorageTelemetry.Text.Base64
import StorageTelemetry.Text.Utf8

namespace StorageTelemetry

/-!
# Certificates

A certificate is kept in a text between two marks.  What stands between them
are the bytes of nested elements, each with a tag and a length.
-/

namespace Certificate

/-! ## Elements -/

/-- An element. -/
structure Element where
  tag : Nat
  content : List UInt8

/-- A length and what is left.  A length of more than seven bits is preceded
by the number of its bytes. -/
def length? : List UInt8 → Option (Nat × List UInt8)
  | [] => none
  | first :: rest =>
      if first < 0x80 then some (first.toNat, rest)
      else
        let count := first.toNat - 0x80
        if count = 0 || 4 < count || rest.length < count then none
        else
          some ((rest.take count).foldl (fun n byte => 256 * n + byte.toNat) 0, rest.drop count)

/-- The element at the front and what is left. -/
def element? : List UInt8 → Option (Element × List UInt8)
  | [] => none
  | tag :: rest => do
      let (length, rest) ← length? rest
      if length ≤ rest.length then
        return (⟨tag.toNat, rest.take length⟩, rest.drop length)
      else none

/-- All elements.  Each takes at least one byte, so that the number of bytes
bounds the number of elements. -/
def elementsWithin : Nat → List UInt8 → Option (List Element)
  | _, [] => some []
  | 0, _ => none
  | bound + 1, bytes => do
      let (element, rest) ← element? bytes
      return element :: (← elementsWithin bound rest)

def elements? (bytes : List UInt8) : Option (List Element) := elementsWithin bytes.length bytes

/-! ## Certificates -/

def numberTag : Nat := 0x02

def bitsTag : Nat := 0x03

def sequenceTag : Nat := 0x30

/-- The tag of the version, which may be left out. -/
def versionTag : Nat := 0xA0

/-- The tags of the optional fields at the end, in their order. -/
def optionalTags : List Nat := [0x81, 0xA1, 0x82, 0xA2, 0xA3]

/-- Whether elements are the fields that a signature covers: a serial number,
then the algorithm, the issuer, the validity, the subject and its key. -/
def isBody (fields : List Element) : Bool :=
  let tags := fields.map (·.tag)
  let tags := if tags.head? = some versionTag then tags.tail else tags
  tags.take 6 = numberTag :: List.replicate 5 sequenceTag &&
    (tags.drop 6).isSublist optionalTags

/-- Whether bytes are a certificate: signed fields, an algorithm and the
signature.  What follows the certificate does not count. -/
def isCertificate (bytes : List UInt8) : Bool :=
  let shaped : Option Bool := do
    let (whole, _) ← element? bytes
    let [body, algorithm, signature] ← elements? whole.content | none
    let fields ← elements? body.content
    return [whole, body, algorithm, signature].map (·.tag) =
      [sequenceTag, sequenceTag, sequenceTag, bitsTag] && isBody fields
  shaped.getD false

/-! ## Marked text -/

/-- The lines of a text, without what is at their ends. -/
def lines (text : List Char) : List (List Char) :=
  (text.splitOn '\n').map fun line => (line.reverse.dropWhile (·.toNat ≤ 0x20)).reverse

def names : List String := ["CERTIFICATE", "X509 CERTIFICATE", "TRUSTED CERTIFICATE"]

def markedName? (mark : String) (line : List Char) : Option String :=
  names.find? fun name => line = ("-----" ++ mark ++ " " ++ name ++ "-----").toList

/-- What stands before the end mark of a name. -/
def upToEnd? (name : String) : List (List Char) → Option (List Char)
  | [] => none
  | line :: rest =>
      if markedName? "END" line = some name then some []
      else if "-----END ".toList.isPrefixOf line then none
      else (upToEnd? name rest).map (line ++ ·)

/-- The bytes between the first marks. -/
def marked? : List (List Char) → Option (List UInt8)
  | [] => none
  | line :: rest =>
      match markedName? "BEGIN" line with
      | some name => (upToEnd? name rest).bind Text.ofBase64?
      | none => marked? rest

/-- Whether a text holds a certificate. -/
def isIn (text : String) : Bool := ((marked? (lines text.toList)).map isCertificate).getD false

end Certificate
end StorageTelemetry
