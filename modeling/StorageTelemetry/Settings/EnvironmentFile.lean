import StorageTelemetry.Settings.Environment
import StorageTelemetry.Text.Alphanumeric
import StorageTelemetry.Text.Utf8

namespace StorageTelemetry

/-!
# Environment files

A file of assignments that sets variables which are not set yet.  Reading
stops at the first line that is not an assignment, and whatever was set before
it stays set.
-/

namespace EnvironmentFile

/-! ## Lines -/

/-- Where the reader of a line stands, as far as the line's end matters: in or
out of quotes, after a backslash, or after a blank. -/
inductive LineState
  | plain
  | escaped
  | strong
  | strongEscaped
  | weak
  | weakEscaped
  | blank
deriving DecidableEq

def LineState.afterPlain (c : Char) : LineState :=
  match c with
  | '\\' => .escaped
  | '"' => .weak
  | '\'' => .strong
  | _ => .plain

def LineState.after (c : Char) : LineState → LineState
  | plain => if Text.isBlank c && c ≠ '\n' && c ≠ '\r' then blank else afterPlain c
  | blank => afterPlain c
  | escaped => plain
  | weak => if c = '\\' then weakEscaped else if c = '"' then plain else weak
  | weakEscaped => weak
  | strong => if c = '\\' then strongEscaped else if c = '\'' then plain else strong
  | strongEscaped => strong

/-- The part of a line before a comment, and the state at its end.  A comment
begins with a number sign right after one blank, and has no state. -/
def scan : LineState → List Char → List Char × Option LineState
  | state, [] => ([], some state)
  | state, c :: rest =>
      if state = .blank && c = '#' then ([], none)
      else
        let (kept, last) := scan (state.after c) rest
        (c :: kept, last)

/-- The lines of a text, each with its line feed. -/
def rawLines : List Char → List (List Char)
  | [] => []
  | c :: rest =>
      if c = '\n' then [c] :: rawLines rest
      else
        match rawLines rest with
        | [] => [[c]]
        | line :: lines => (c :: line) :: lines

/-- A line without its end. -/
def withoutEnd (line : List Char) : List Char :=
  match line.reverse with
  | '\n' :: '\r' :: rest => rest.reverse
  | '\n' :: rest => rest.reverse
  | _ => line

/-- Joins lines that a quote, a backslash or a blank leaves open.  A line that
is still open at the end of the text is dropped. -/
def joinLines : LineState → List Char → List (List Char) → List (List Char)
  | _, _, [] => []
  | state, opened, line :: rest =>
      let joined := opened ++ line
      if (joined.dropWhile Text.isBlank).head? = some '#' then joinLines .plain [] rest
      else
        match scan state line with
        | (kept, none) => (opened ++ kept) :: joinLines .plain [] rest
        | (_, some .plain) => withoutEnd joined :: joinLines .plain [] rest
        | (_, some state) => joinLines state joined rest

/-! ## Values -/

/-- The quotes that a value's reader is in. -/
inductive Quotes
  | none
  | strong
  | weak
deriving DecidableEq

/-- A reference to a variable that is being read, in braces or not. -/
structure Reference where
  braced : Bool
  name : List Char
deriving DecidableEq

/-- The state of a value's reader. -/
structure ValueState where
  output : List Char
  quotes : Quotes
  escaped : Bool
  closed : Bool
  reference : Option Reference

def ValueState.start : ValueState := ⟨[], .none, false, false, none⟩

/-- The state with the value of the variable just named added. -/
def ValueState.substitute (environment : Environment) (name : List Char) (state : ValueState) :
    ValueState :=
  let value := (environment.get? (String.ofList name)).getD ""
  { state with output := state.output ++ value.toList, reference := none }

def ValueState.push (state : ValueState) (c : Char) : ValueState :=
  { state with output := state.output ++ [c] }

/-- The state after one more character of a reference. -/
def ValueState.inReference (environment : Environment) (state : ValueState) (c : Char) :
    Reference → ValueState
  | ⟨braced, name⟩ =>
      if Text.isAlphanumeric c then { state with reference := some ⟨braced, name ++ [c]⟩ }
      else if braced then
        if c = '\x7d' then state.substitute environment name
        else { state with reference := some ⟨true, name ++ [c]⟩ }
      else if c = '\x7b' && name.isEmpty then { state with reference := some ⟨true, []⟩ }
      else
        let state := state.substitute environment name
        if c = '$' then { state with reference := some ⟨false, []⟩ } else state.push c

def escapedChar? : Char → Option Char
  | 'n' => some '\n'
  | c => if ['\\', '\'', '"', '$', ' '].contains c then some c else none

/-- The state after one more character, if it may stand there. -/
def ValueState.step? (environment : Environment) (state : ValueState) (c : Char) :
    Option ValueState :=
  if state.escaped then
    (escapedChar? c).map fun c => { state.push c with escaped := false }
  else if state.quotes = .strong then
    some (if c = '\'' then { state with quotes := .none } else state.push c)
  else
    match state.reference with
    | some reference => some (state.inReference environment c reference)
    | none =>
        if c = '$' then some { state with reference := some ⟨false, []⟩ }
        else if c = '\\' then some { state with escaped := true }
        else if c = '"' then
          some { state with quotes := if state.quotes = .weak then .none else .weak }
        else if state.quotes = .weak then some (state.push c)
        else if c = '\'' then some { state with quotes := .strong }
        else if c = ' ' || c = '\t' then some { state with closed := true }
        else some (state.push c)

/-- The value that a state amounts to, if nothing is left open. -/
def ValueState.finish? (environment : Environment) (state : ValueState) : Option String :=
  let state' := match state.reference with
    | some ⟨false, name⟩ => some (state.substitute environment name)
    | some ⟨true, _⟩ => none
    | none => some state
  match state.quotes, state' with
  | .none, some state => some (String.ofList state.output)
  | _, _ => none

/-- Reads a value.  After a blank outside quotes only more blanks and a
comment may follow. -/
def value? (environment : Environment) : ValueState → List Char → Option String
  | state, [] => state.finish? environment
  | state, c :: rest =>
      if state.closed then
        if c = ' ' || c = '\t' then value? environment state rest
        else if c = '#' then state.finish? environment
        else none
      else
        match state.step? environment c with
        | some state => value? environment state rest
        | none => none

/-! ## Assignments -/

def isNameStart (c : Char) : Bool := c.isAlpha || c = '_'

def isNameChar (c : Char) : Bool := c.isAlphanum || c = '_' || c = '.'

def name? : List Char → Option (String × List Char)
  | [] => none
  | c :: rest =>
      if isNameStart c then
        some (String.ofList ((c :: rest).takeWhile isNameChar), (c :: rest).dropWhile isNameChar)
      else none

def skipBlank (text : List Char) : List Char := text.dropWhile Text.isBlank

/-- What is left after an equals sign that may follow blanks. -/
def afterEquals? (text : List Char) : Option (List Char) :=
  match skipBlank text with
  | '=' :: rest => some (skipBlank rest)
  | _ => none

/-- The name of an assignment and what stands behind its equals sign.  The
word `export` may come first, but is also a name. -/
def target? (text : List Char) : Option (String × List Char) := do
  let (name, rest) ← name? text
  match afterEquals? rest with
  | some rest => return (name, rest)
  | none =>
      guard (name == "export")
      let (name, rest) ← name? (skipBlank rest)
      return (name, ← afterEquals? rest)

/-- What a line is. -/
inductive Line
  | empty
  | assignment (name value : String)
  | malformed

def line (environment : Environment) (text : List Char) : Line :=
  let text := skipBlank (skipBlank text.reverse).reverse
  match text with
  | [] | '#' :: _ => .empty
  | text =>
      match target? text with
      | none => .malformed
      | some (name, []) | some (name, '#' :: _) => .assignment name ""
      | some (name, rest) =>
          match value? environment .start rest with
          | some value => .assignment name value
          | none => .malformed

def applyLines : List (List Char) → Environment → Environment
  | [], environment => environment
  | text :: rest, environment =>
      match line environment text with
      | .empty => applyLines rest environment
      | .assignment name value => applyLines rest (environment.setDefault name value)
      | .malformed => environment

def apply (text : String) (environment : Environment) : Environment :=
  applyLines (joinLines .plain [] (rawLines (Text.withoutMark text.toList))) environment

end EnvironmentFile
end StorageTelemetry
