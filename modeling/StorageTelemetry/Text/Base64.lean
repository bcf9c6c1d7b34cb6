namespace StorageTelemetry
namespace Text

/-!
# Bytes as text

Three bytes are written as four of sixty-four characters.  A rest of one or
two bytes is filled up with equals signs.
-/

/-- The sixty-four characters, in the order of their values. -/
def base64Alphabet : List Char :=
  "ABCDEFGHIJKLMNOPQRSTUVWXYZabcdefghijklmnopqrstuvwxyz0123456789+/".toList

def base64Char (value : Nat) : Char := base64Alphabet.getD value '='

def base64Value? (c : Char) : Option Nat := base64Alphabet.idxOf? c

/-- The first characters for a group of three bytes. -/
def base64Group (count : Nat) (a b c : UInt8) : List Char :=
  let bits := a.toNat * 65536 + b.toNat * 256 + c.toNat
  ([bits / 262144, bits / 4096 % 64, bits / 64 % 64, bits % 64].take count).map base64Char

def toBase64 : List UInt8 → List Char
  | [] => []
  | [a] => base64Group 2 a 0 0 ++ ['=', '=']
  | [a, b] => base64Group 3 a b 0 ++ ['=']
  | a :: b :: c :: rest => base64Group 4 a b c ++ toBase64 rest

def base64Bytes (a b c d : Nat) : List UInt8 :=
  let bits := a * 262144 + b * 4096 + c * 64 + d
  [UInt8.ofNat (bits / 65536), UInt8.ofNat (bits / 256), UInt8.ofNat bits]

/-- Reads bytes.  Filling is allowed in the last group only. -/
def ofBase64? : List Char → Option (List UInt8)
  | [] => some []
  | [a, b, '=', '='] => do
      return (base64Bytes (← base64Value? a) (← base64Value? b) 0 0).take 1
  | [a, b, c, '='] => do
      return (base64Bytes (← base64Value? a) (← base64Value? b) (← base64Value? c) 0).take 2
  | a :: b :: c :: d :: rest => do
      let group := base64Bytes (← base64Value? a) (← base64Value? b) (← base64Value? c)
        (← base64Value? d)
      return group ++ (← ofBase64? rest)
  | _ => none

end Text
end StorageTelemetry
