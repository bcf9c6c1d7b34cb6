import StorageTelemetry.Document.Tree
import StorageTelemetry.Double.Decimal
import StorageTelemetry.Powers
import StorageTelemetry.Toml.Text

namespace StorageTelemetry.Toml

/-!
# Numbers, dates and times

Digits may be grouped by single underscores between them.  Integers must fit
into 64 signed bits and doubles must be finite, unless they are written as
infinite.  Dates and times become texts in one normal form.
-/

/-! ## Digits -/

/-- Digits of some kind with single underscores between them.  The first
argument says whether an underscore may come next. -/
def groupedDigits? (isDigit : Char → Bool) : Bool → List Char → Option (List Char × List Char)
  | true, '_' :: c :: rest =>
      if isDigit c then
        (groupedDigits? isDigit true rest).map fun (digits, rest) => (c :: digits, rest)
      else none
  | _, c :: rest =>
      if isDigit c then
        (groupedDigits? isDigit true rest).map fun (digits, rest) => (c :: digits, rest)
      else some ([], c :: rest)
  | _, [] => some ([], [])

def digits? (isDigit : Char → Bool) (text : List Char) : Option (List Char × List Char) := do
  let (digits, rest) ← groupedDigits? isDigit false text
  guard (!digits.isEmpty)
  return (digits, rest)

def numberOf (base : Nat) (digits : List Char) : Nat :=
  digits.foldl (fun value c => base * value + (Text.hexValue? c).getD 0) 0

/-- Whether a character is a digit to the base eight. -/
def isOctal (c : Char) : Bool := '0' ≤ c && c ≤ '7'

/-- Whether a character is a digit to the base two. -/
def isBinary (c : Char) : Bool := c = '0' || c = '1'

/-- Whether a character is a digit to the base sixteen. -/
def isHex (c : Char) : Bool := (Text.hexValue? c).isSome

/-! ## Numbers -/

/-- The tree of an integer of 64 signed bits. -/
def integer? (value : Int) : Option Tree :=
  if isSigned64 value then some (.integer value) else none

/-- An integer to another base than ten, after its mark. -/
def markedInteger? (base : Nat) (isDigit : Char → Bool) (text : List Char) :
    Option (Tree × List Char) := do
  let (digits, rest) ← digits? isDigit text
  return (← integer? (numberOf base digits), rest)

/-- An optional sign: whether it is a minus sign, and whether there is one. -/
def sign : List Char → Bool × List Char
  | '-' :: rest => (true, rest)
  | '+' :: rest => (false, rest)
  | rest => (false, rest)

/-- The digits after a point, if there is a point. -/
def fraction? : List Char → Option (Option (List Char) × List Char)
  | '.' :: rest => (digits? Char.isDigit rest).map fun (digits, rest) => (some digits, rest)
  | rest => some (none, rest)

/-- The exponent of ten, if there is one. -/
def exponent? : List Char → Option (Option Int × List Char)
  | c :: rest =>
      if c = 'e' ∨ c = 'E' then do
        let (negative, rest) := sign rest
        let (digits, rest) ← digits? Char.isDigit rest
        let size : Int := numberOf 10 digits
        return (some (if negative then -size else size), rest)
      else some (none, c :: rest)
  | [] => some (none, [])

def decimal? (negative : Bool) (text : List Char) : Option (Tree × List Char) := do
  let (whole, rest) ← digits? Char.isDigit text
  guard (whole.length == 1 || whole.head? != some '0')
  let (fraction, rest) ← fraction? rest
  let (exponent, rest) ← exponent? rest
  if fraction.isNone && exponent.isNone then
    let value : Int := numberOf 10 whole
    return (← integer? (if negative then -value else value), rest)
  else
    let places := fraction.getD []
    let double := Double.ofDecimal negative (numberOf 10 (whole ++ places))
      (exponent.getD 0 - places.length)
    guard double.isFinite
    return (.float double, rest)

def number? : List Char → Option (Tree × List Char)
  | '0' :: 'x' :: rest => markedInteger? 16 isHex rest
  | '0' :: 'o' :: rest => markedInteger? 8 isOctal rest
  | '0' :: 'b' :: rest => markedInteger? 2 isBinary rest
  | text =>
      let (negative, rest) := sign text
      match rest with
      | 'i' :: 'n' :: 'f' :: rest => some (.float (.infinite negative), rest)
      | 'n' :: 'a' :: 'n' :: rest => some (.float .nan, rest)
      | rest => decimal? negative rest

/-! ## Dates and times -/

/-- A number of exactly two digits within bounds. -/
def twoDigits? (least most : Nat) : List Char → Option (Nat × List Char)
  | a :: b :: rest =>
      let value := numberOf 10 [a, b]
      if a.isDigit && b.isDigit && least ≤ value && value ≤ most then some (value, rest) else none
  | _ => none

def mark? (mark : Char) : List Char → Option (List Char)
  | c :: rest => if c = mark then some rest else none
  | [] => none

def daysIn (year month : Nat) : Nat :=
  if month = 2 then
    if year % 4 = 0 ∧ (year % 100 ≠ 0 ∨ year % 400 = 0) then 29 else 28
  else if [4, 6, 9, 11].contains month then 30 else 31

/-- A number with zeros in front up to some width. -/
def padded (width n : Nat) : String :=
  let digits := Nat.toDigits 10 n
  String.ofList (List.replicate (width - digits.length) '0' ++ digits)

def date? (text : List Char) : Option (String × List Char) := do
  let (century, rest) ← twoDigits? 0 99 text
  let (year, rest) ← twoDigits? 0 99 rest
  let (month, rest) ← twoDigits? 1 12 (← mark? '-' rest)
  let (day, rest) ← twoDigits? 1 (daysIn (100 * century + year) month) (← mark? '-' rest)
  return (padded 4 (100 * century + year) ++ "-" ++ padded 2 month ++ "-" ++ padded 2 day, rest)

/-- The parts of a second, if there are any: nine digits count, and zeros at
their end are dropped, but for the first digit. -/
def secondParts? : List Char → Option (String × List Char)
  | '.' :: rest =>
      match rest.takeWhile Char.isDigit with
      | [] => none
      | first :: digits =>
          let parts := ((digits.take 8).reverse.dropWhile (· = '0')).reverse
          some (String.ofList ('.' :: first :: parts), rest.dropWhile Char.isDigit)
  | rest => some ("", rest)

/-- The seconds of a time of day, if they are given. -/
def seconds? : List Char → Option (String × List Char)
  | ':' :: rest => do
      let (second, rest) ← twoDigits? 0 60 rest
      let (parts, rest) ← secondParts? rest
      return (":" ++ padded 2 second ++ parts, rest)
  | rest => some ("", rest)

def time? (text : List Char) : Option (String × List Char) := do
  let (hour, rest) ← twoDigits? 0 23 text
  let (minute, rest) ← twoDigits? 0 59 (← mark? ':' rest)
  let (seconds, rest) ← seconds? rest
  return (padded 2 hour ++ ":" ++ padded 2 minute ++ seconds, rest)

/-- The offset of a time, if there is one.  An offset of nothing is written
with a plus sign. -/
def offset? : List Char → Option (String × List Char)
  | c :: rest =>
      if c = 'Z' ∨ c = 'z' then some ("Z", rest)
      else if c = '+' ∨ c = '-' then do
        let (hour, rest) ← twoDigits? 0 23 rest
        let (minute, rest) ← twoDigits? 0 59 (← mark? ':' rest)
        let sign := if c = '-' ∧ hour + minute ≠ 0 then "-" else "+"
        return (sign ++ padded 2 hour ++ ":" ++ padded 2 minute, rest)
      else some ("", c :: rest)
  | [] => some ("", [])

/-- What follows a date: a time with an optional offset, or nothing. -/
def timeAfterDate? : List Char → Option (String × List Char)
  | c :: rest =>
      let follows := c = 'T' || c = 't' || (c = ' ' && (rest.head?.map Char.isDigit).getD false)
      if follows then do
        let (time, rest) ← time? rest
        let (offset, rest) ← offset? rest
        return ("T" ++ time ++ offset, rest)
      else some ("", c :: rest)
  | [] => some ("", [])

/-- Whether a text begins like a date, or else like a time of day. -/
def looksLikeMoment : List Char → Bool
  | a :: b :: c :: d :: e :: _ =>
      a.isDigit && b.isDigit && (c = ':' || (c.isDigit && d.isDigit && e = '-'))
  | _ => false

/-- A date, a time of day, or both, as a text. -/
def moment? (text : List Char) : Option (Tree × List Char) :=
  match date? text with
  | some (date, rest) => do
      let (time, rest) ← timeAfterDate? rest
      return (.text (date ++ time), rest)
  | none => (time? text).map fun (time, rest) => (.text time, rest)

/-- A value that is neither a text nor made of other values. -/
def scalar? : List Char → Option (Tree × List Char)
  | 't' :: 'r' :: 'u' :: 'e' :: rest => some (.flag true, rest)
  | 'f' :: 'a' :: 'l' :: 's' :: 'e' :: rest => some (.flag false, rest)
  | text => if looksLikeMoment text then moment? text else number? text

end StorageTelemetry.Toml
