import StorageTelemetry.Text.Quoted

namespace StorageTelemetry.Toml

/-!
# Texts and keys

The four kinds of quoted texts and the two kinds of keys.  Every part returns
what it read and what is left.
-/

/-- Whether a character is a blank within a line. -/
def isBlank (c : Char) : Bool := c = ' ' || c = '\t'

def skipBlank (text : List Char) : List Char := text.dropWhile isBlank

/-- The end of a line as it is written at the front of a text. -/
def writtenNewline? : List Char → Option (List Char × List Char)
  | '\n' :: rest => some (['\n'], rest)
  | '\r' :: '\n' :: rest => some (['\r', '\n'], rest)
  | _ => none

/-- What is left after the end of a line, if the text is at one. -/
def newline? (text : List Char) : Option (List Char) := (writtenNewline? text).map (·.2)

/-- Whether a character may stand in a text or a comment as it is. -/
def isPlain (c : Char) : Bool := c = '\t' || (' ' ≤ c && c ≠ '\x7f')

/-! ## Escapes -/

def hexNumber? (digits : List Char) : Option Nat :=
  digits.foldl (fun value c => do
    let value ← value
    let digit ← Text.hexValue? c
    return 16 * value + digit) (some 0)

/-- The character with a number, if there is one. -/
def charOfNumber? (number : Nat) : Option Char :=
  if number < 0xD800 ∨ (0xDFFF < number ∧ number < 0x110000) then some (Char.ofNat number) else none

/-- The character that an escape of one letter names. -/
def letterEscape? : Char → Option Char
  | 'b' => some '\x08'
  | 't' => some '\t'
  | 'n' => some '\n'
  | 'f' => some '\x0c'
  | 'r' => some '\r'
  | 'e' => some '\x1b'
  | '"' => some '"'
  | '\\' => some '\\'
  | _ => none

/-- The character that an escape names, after its backslash: by two, four or
eight hexadecimal digits of its number, or by a letter. -/
def escape? : List Char → Option (Char × List Char)
  | 'x' :: a :: b :: rest => do
      return (← charOfNumber? (← hexNumber? [a, b]), rest)
  | 'u' :: a :: b :: c :: d :: rest => do
      return (← charOfNumber? (← hexNumber? [a, b, c, d]), rest)
  | 'U' :: a :: b :: c :: d :: e :: f :: g :: h :: rest => do
      return (← charOfNumber? (← hexNumber? [a, b, c, d, e, f, g, h]), rest)
  | c :: rest => (letterEscape? c).map fun c => (c, rest)
  | [] => none

/-! ## Texts on one line -/

/-- The rest of a text in double quotes.  Every step consumes a character,
which bounds their number. -/
def basicText? : Nat → List Char → Option (List Char × List Char)
  | _, [] => none
  | 0, _ => none
  | _, '"' :: rest => some ([], rest)
  | bound + 1, '\\' :: rest => do
      let (c, rest) ← escape? rest
      let (text, rest) ← basicText? bound rest
      return (c :: text, rest)
  | bound + 1, c :: rest => do
      guard (isPlain c)
      let (text, rest) ← basicText? bound rest
      return (c :: text, rest)

def literalText? : List Char → Option (List Char × List Char)
  | [] => none
  | '\'' :: rest => some ([], rest)
  | c :: rest => do
      guard (isPlain c)
      let (text, rest) ← literalText? rest
      return (c :: text, rest)

/-! ## Texts over several lines -/

/-- What is left after blanks and ends of lines. -/
def skipLines : List Char → List Char
  | '\r' :: '\n' :: rest => skipLines rest
  | '\n' :: rest => skipLines rest
  | ' ' :: rest => skipLines rest
  | '\t' :: rest => skipLines rest
  | rest => rest

/-- What is left after a backslash that ends its line. -/
def lineContinuation? (text : List Char) : Option (List Char) :=
  (newline? (skipBlank text)).map skipLines

/-- The end of a text in triple quotes: up to two more quotes belong to it. -/
def closing? (quote : Char) : List Char → Option (List Char × List Char)
  | a :: b :: c :: rest =>
      if a = quote ∧ b = quote ∧ c = quote then
        match rest with
        | d :: e :: rest =>
            if d = quote ∧ e = quote then some ([quote, quote], rest)
            else if d = quote then some ([quote], e :: rest)
            else some ([], d :: e :: rest)
        | [d] => if d = quote then some ([quote], []) else some ([], [d])
        | [] => some ([], [])
      else none
  | _ => none

/-- The rest of a text in three double quotes.  Ends of lines within it are
kept as they are written. -/
def longText? : Nat → List Char → Option (List Char × List Char)
  | 0, _ => none
  | bound + 1, text =>
      match closing? '"' text, writtenNewline? text, text with
      | some found, _, _ => some found
      | none, some (newline, rest), _ =>
          (longText? bound rest).map fun (text, rest) => (newline ++ text, rest)
      | none, none, '\\' :: rest =>
          match lineContinuation? rest with
          | some rest => longText? bound rest
          | none => do
              let (c, rest) ← escape? rest
              let (text, rest) ← longText? bound rest
              return (c :: text, rest)
      | none, none, c :: rest => do
          guard (isPlain c)
          let (text, rest) ← longText? bound rest
          return (c :: text, rest)
      | none, none, [] => none

/-- The rest of a text in three single quotes.  Ends of lines within it are
kept as they are written. -/
def longLiteral? : Nat → List Char → Option (List Char × List Char)
  | 0, _ => none
  | bound + 1, text =>
      match closing? '\'' text, writtenNewline? text, text with
      | some found, _, _ => some found
      | none, some (newline, rest), _ =>
          (longLiteral? bound rest).map fun (text, rest) => (newline ++ text, rest)
      | none, none, c :: rest => do
          guard (isPlain c)
          let (text, rest) ← longLiteral? bound rest
          return (c :: text, rest)
      | none, none, [] => none

/-- A text of any kind.  The end of a line right after three opening quotes
does not belong to it. -/
def text? (text : List Char) : Option (String × List Char) :=
  let found := match text with
    | '"' :: '"' :: '"' :: rest => longText? (rest.length + 1) ((newline? rest).getD rest)
    | '\'' :: '\'' :: '\'' :: rest => longLiteral? (rest.length + 1) ((newline? rest).getD rest)
    | '"' :: rest => basicText? (rest.length + 1) rest
    | '\'' :: rest => literalText? rest
    | _ => none
  found.map fun (chars, rest) => (String.ofList chars, rest)

/-! ## Keys -/

/-- Whether a character may stand in a key without quotes. -/
def isKeyChar (c : Char) : Bool := c.isAlphanum || c = '_' || c = '-'

/-- A key without points. -/
def simpleKey? (text : List Char) : Option (String × List Char) :=
  let found := match text with
    | '"' :: rest => basicText? (rest.length + 1) rest
    | '\'' :: rest => literalText? rest
    | text =>
        let key := text.takeWhile isKeyChar
        if key.isEmpty then none else some (key, text.dropWhile isKeyChar)
  found.map fun (chars, rest) => (String.ofList chars, rest)

/-- The largest number of parts of a key, and the deepest nesting of lists and
tables in a value. -/
def deepestNesting : Nat := 80

/-- A key of one or more parts that points divide, but no more parts than
given. -/
def keyWithin? : Nat → List Char → Option (List String × List Char)
  | 0, _ => none
  | room + 1, text => do
      let (part, rest) ← simpleKey? text
      match skipBlank rest with
      | '.' :: rest =>
          let (parts, rest) ← keyWithin? room (skipBlank rest)
          return (part :: parts, rest)
      | rest => return ([part], rest)

def key? (text : List Char) : Option (List String × List Char) := keyWithin? deepestNesting text

end StorageTelemetry.Toml
