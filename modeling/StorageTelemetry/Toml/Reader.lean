import StorageTelemetry.Text.Utf8
import StorageTelemetry.Toml.Scalar
import StorageTelemetry.Toml.Section

namespace StorageTelemetry.Toml

/-!
# Reading documents

A document is read line by line into statements, which are then put together.
The recursion is bounded by a number of steps computed from the length of the
text: every step but the first consumes a character.
-/

/-- What is left after a comment, if the text is at one. -/
def comment? : List Char → Option (List Char)
  | '#' :: rest => some (rest.dropWhile isPlain)
  | _ => none

/-- What is left after blanks and an optional comment. -/
def skipTrailing (text : List Char) : List Char :=
  let rest := skipBlank text
  (comment? rest).getD rest

/-- What is left after blanks, comments and ends of lines. -/
def skipFiller : Nat → List Char → List Char
  | 0, text => text
  | bound + 1, text =>
      let rest := skipTrailing text
      match newline? rest with
      | some rest => skipFiller bound rest
      | none => rest

/-! ## Values -/

mutual

/-- A value.  The second argument says how many more lists and tables may be
opened within one another. -/
def value? : Nat → Nat → List Char → Option (Tree × List Char)
  | 0, _, _ => none
  | steps + 1, room, text =>
      match text, room with
      | '"' :: _, _ | '\'' :: _, _ => (text? text).map fun (text, rest) => (.text text, rest)
      | '[' :: rest, room + 1 =>
          (items? steps room rest).map fun (items, rest) => (.list items, rest)
      | '{' :: rest, room + 1 => (members? steps room [] rest).map fun (members, rest) =>
          (.table (memberTrees members), rest)
      | text, _ => scalar? text

/-- The items of a list up to its closing bracket.  A comma may follow the
last one. -/
def items? : Nat → Nat → List Char → Option (List Tree × List Char)
  | 0, _, _ => none
  | steps + 1, room, text =>
      match skipFiller (text.length + 1) text with
      | ']' :: rest => some ([], rest)
      | text => do
          let (item, rest) ← value? steps room text
          match skipFiller (rest.length + 1) rest with
          | ',' :: rest =>
              let (items, rest) ← items? steps room rest
              return (item :: items, rest)
          | ']' :: rest => return ([item], rest)
          | _ => none

/-- The members of a table up to its closing brace, added to those already
read.  A comma may follow the last one. -/
def members? : Nat → Nat → Growing → List Char → Option (Growing × List Char)
  | 0, _, _, _ => none
  | steps + 1, room, known, text =>
      match skipFiller (text.length + 1) text with
      | '}' :: rest => some (known, rest)
      | text => do
          let (key, rest) ← key? text
          match skipFiller (rest.length + 1) rest with
          | '=' :: rest =>
              let (value, rest) ← value? steps room (skipFiller (rest.length + 1) rest)
              let known ← Growing.assign? value key known
              match skipFiller (rest.length + 1) rest with
              | ',' :: rest => members? steps room known rest
              | '}' :: rest => return (known, rest)
              | _ => none
          | _ => none

end

/-! ## Statements -/

/-- The path of a header up to its closing brackets. -/
def headerPath? (text : List Char) : Option (List String × List Char) := do
  let text := skipBlank text
  let (path, rest) ← key? text
  return (path, skipBlank rest)

def statement? (text : List Char) : Option (Statement × List Char) :=
  match text with
  | '[' :: '[' :: rest => do
      let (path, rest) ← headerPath? rest
      match rest with
      | ']' :: ']' :: rest => return (.repeatedHeader path, rest)
      | _ => none
  | '[' :: rest => do
      let (path, rest) ← headerPath? rest
      match rest with
      | ']' :: rest => return (.header path, rest)
      | _ => none
  | text => do
      let (key, rest) ← key? text
      match skipBlank rest with
      | '=' :: rest =>
          let rest := skipBlank rest
          let (value, rest) ← value? (2 * rest.length + 2) deepestNesting rest
          return (.assign key value, rest)
      | _ => none

/-- The statements of a text, each on a line of its own. -/
def statements? : Nat → List Char → Option (List Statement)
  | 0, _ => none
  | bound + 1, text =>
      match skipFiller (text.length + 1) text with
      | [] => some []
      | text => do
          let (statement, rest) ← statement? text
          let rest := skipTrailing rest
          match newline? rest with
          | some rest =>
              let statements ← statements? bound rest
              return statement :: statements
          | none => if rest.isEmpty then return [statement] else none

/-- The members of the layer that a text is.  A mark for the order of bytes at
its front does not count. -/
def layer? (text : List Char) : Option (List (String × Tree)) := do
  let text := Text.withoutMark text
  assemble? (← statements? (text.length + 1) text)

end StorageTelemetry.Toml
