namespace StorageTelemetry
namespace Text

/-!
# Texts from bytes

Bytes from outside need not be well-formed.  A sequence that breaks off, and
every byte that cannot begin one, becomes one replacement character.
-/

def bytes (text : String) : List UInt8 := text.toUTF8.toList

/-- A sequence that is not complete yet: how many bytes are missing, which
bytes may come next, and the bits so far. -/
structure PartialChar where
  missing : Nat
  least : Nat
  most : Nat
  bits : Nat

/-- What a byte begins: a whole character, or a sequence. -/
inductive LeadingByte
  | whole (c : Char)
  | opens (sequence : PartialChar)

/-- What a byte begins.  The second byte of some sequences is restricted, so
that nothing is written longer than needed, beyond the last code point, or as
a surrogate. -/
def leadingByte (byte : Nat) : LeadingByte :=
  if byte < 0x80 then .whole (Char.ofNat byte)
  else if byte < 0xC2 then .whole '\ufffd'
  else if byte < 0xE0 then .opens ⟨1, 0x80, 0xBF, byte - 0xC0⟩
  else if byte = 0xE0 then .opens ⟨2, 0xA0, 0xBF, 0⟩
  else if byte = 0xED then .opens ⟨2, 0x80, 0x9F, 0xD⟩
  else if byte < 0xF0 then .opens ⟨2, 0x80, 0xBF, byte - 0xE0⟩
  else if byte = 0xF0 then .opens ⟨3, 0x90, 0xBF, 0⟩
  else if byte < 0xF4 then .opens ⟨3, 0x80, 0xBF, byte - 0xF0⟩
  else if byte = 0xF4 then .opens ⟨3, 0x80, 0x8F, 4⟩
  else .whole '\ufffd'

/-- Decodes bytes, within a sequence or not. -/
def decodeFrom : Option PartialChar → List UInt8 → List Char
  | none, [] => []
  | some _, [] => ['\ufffd']
  | opened, byte :: rest =>
      let value := byte.toNat
      let afresh := fun _ : Unit => match leadingByte value with
        | .whole c => c :: decodeFrom none rest
        | .opens sequence => decodeFrom (some sequence) rest
      match opened with
      | none => afresh ()
      | some ⟨missing, least, most, bits⟩ =>
          if least ≤ value && value ≤ most then
            let bits := bits * 64 + value % 64
            if missing ≤ 1 then Char.ofNat bits :: decodeFrom none rest
            else decodeFrom (some ⟨missing - 1, 0x80, 0xBF, bits⟩) rest
          else '\ufffd' :: afresh ()

def ofBytes (bytes : List UInt8) : String := String.ofList (decodeFrom none bytes)

/-- A text without the mark for the order of bytes that may stand at its
front. -/
def withoutMark : List Char → List Char
  | '\ufeff' :: rest => rest
  | text => text

end Text
end StorageTelemetry
