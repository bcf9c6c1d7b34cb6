namespace StorageTelemetry
namespace Text

/-!
# Quoted text in documents

A quoted text escapes the quote, the backslash and the control characters
below the space, and writes every other character as it is.  Five control
characters have a letter of their own; the others are written with four
hexadecimal digits.
-/

/-- The digits of hexadecimal numbers, in lower case. -/
def hexDigit (n : Nat) : Char :=
  if n < 10 then Char.ofNat (48 + n) else Char.ofNat (87 + n)

/-- A number as exactly `width` hexadecimal digits, the higher ones dropped. -/
def hexDigits : Nat → Nat → List Char
  | 0, _ => []
  | width + 1, n => hexDigits width (n / 16) ++ [hexDigit (n % 16)]

/-- The value of a hexadecimal digit of either case. -/
def hexValue? (c : Char) : Option Nat :=
  if '0' ≤ c ∧ c ≤ '9' then some (c.toNat - 48)
  else if 'a' ≤ c ∧ c ≤ 'f' then some (c.toNat - 87)
  else if 'A' ≤ c ∧ c ≤ 'F' then some (c.toNat - 55)
  else none

def escaped (c : Char) : List Char :=
  if c = '"' then ['\\', '"']
  else if c = '\\' then ['\\', '\\']
  else if c = '\x08' then ['\\', 'b']
  else if c = '\x0c' then ['\\', 'f']
  else if c = '\n' then ['\\', 'n']
  else if c = '\r' then ['\\', 'r']
  else if c = '\t' then ['\\', 't']
  else if c < ' ' then '\\' :: 'u' :: hexDigits 4 c.toNat
  else [c]

def quoted (text : List Char) : List Char :=
  '"' :: (text.flatMap escaped ++ ['"'])

end Text
end StorageTelemetry
