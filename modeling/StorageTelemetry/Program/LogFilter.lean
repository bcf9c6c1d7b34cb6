import StorageTelemetry.Log
import StorageTelemetry.Text.Digits

namespace StorageTelemetry

/-!
# Filtering the log

A filter is a list of directives.  Each lets entries through down to some
level, from everywhere or only from places whose name begins with a target.
The most specific directive that applies decides.
-/

/-- How much is let through, from nothing to everything. -/
inductive Verbosity
  | off
  | error
  | warn
  | info
  | debug
  | trace
deriving DecidableEq

namespace Verbosity

/-- All degrees, from the lowest on. -/
def all : List Verbosity := [off, error, warn, info, debug, trace]

def word : Verbosity → String
  | off => "off"
  | error => "error"
  | warn => "warn"
  | info => "info"
  | debug => "debug"
  | trace => "trace"

def shows : Verbosity → LogLevel → Bool
  | off, _ => false
  | error, level => level = .error
  | warn, level => level ≠ .info
  | _, _ => true

/-- The degree that a number or a word denotes.  Letter case does not
count. -/
def ofText? (text : List Char) : Option Verbosity :=
  match (Text.unsigned? text).bind (all[·]?) with
  | some verbosity => some verbosity
  | none => all.find? fun verbosity => verbosity.word.toList = text.map Char.toLower

end Verbosity

/-- Where a directive applies: everywhere, where a name begins with a target,
or within a span of work, which no entry of the program belongs to. -/
inductive LogScope
  | everywhere
  | target (name : List Char)
  | span
deriving DecidableEq

/-- A directive. -/
structure LogDirective where
  scope : LogScope
  verbosity : Verbosity
deriving DecidableEq

namespace LogDirective

def mayBegin (c : Char) : Bool := c.isAlphanum || 127 < c.toNat || ['-', ':', '_'].contains c

/-- The degree behind an equals sign.  No text stands for everything. -/
def verbosity? (text : List Char) : Option Verbosity :=
  if text.isEmpty then some .trace else Verbosity.ofText? text

/-- What is left after the fields of a span, behind the closing brace. -/
def afterFields? (text : List Char) : Option (List Char) :=
  match text.span (· ≠ '\x7d') with
  | (_ :: _, _ :: ']' :: rest) => some rest
  | _ => none

/-- Reads a directive about a span, behind the opening bracket. -/
def spanDirective? (text : List Char) : Option LogDirective :=
  let rest? := match text.dropWhile fun c => c ≠ ']' && c ≠ '\x7b' with
    | ']' :: rest => some rest
    | _ :: rest => afterFields? rest
    | [] => none
  match rest? with
  | some [] => some ⟨.span, .trace⟩
  | some ('=' :: rest) => (verbosity? rest).map (⟨.span, ·⟩)
  | _ => none

/-- Reads a directive: a degree, a target with or without a degree, or
something about a span. -/
def ofText? (text : List Char) : Option LogDirective :=
  match text with
  | '[' :: rest => spanDirective? rest
  | c :: _ =>
      if mayBegin c then
        match text.span fun c => c ≠ '=' && c ≠ '[' with
        | (name, '=' :: rest) => (verbosity? rest).map (⟨.target name, ·⟩)
        | (_, _ :: rest) => spanDirective? rest
        | (word, []) =>
            match Verbosity.ofText? word with
            | some verbosity => some ⟨.everywhere, verbosity⟩
            | none => some ⟨.target word, .trace⟩
      else none
  | [] => none

/-- How specific a directive is about a place, if it applies there. -/
def weight? (place : List Char) (directive : LogDirective) : Option Nat :=
  match directive.scope with
  | .everywhere => some 0
  | .target name => if name.isPrefixOf place then some (name.length + 1) else none
  | .span => none

end LogDirective

/-- A filter. -/
structure LogFilter where
  directives : List LogDirective
deriving DecidableEq

namespace LogFilter

/-- The filter that lets through one degree from everywhere. -/
def upTo (verbosity : Verbosity) : LogFilter := ⟨[⟨.everywhere, verbosity⟩]⟩

/-- Reads a filter: directives separated by commas, none of them malformed.  A
filter without directives lets errors through. -/
def ofText? (text : String) : Option LogFilter := do
  let parts := (text.toList.splitOn ',').filter fun part => !part.isEmpty
  match ← parts.mapM LogDirective.ofText? with
  | [] => return upTo .error
  | directives => return ⟨directives⟩

def ofVariable (value : Option String) : LogFilter := (value.bind ofText?).getD (upTo .info)

/-- The most specific of the directives that apply at a place, and its weight.
Among equals the last one counts. -/
def deciding? (filter : LogFilter) (place : List Char) : Option (Nat × Verbosity) :=
  filter.directives.foldl (fun best directive =>
    match directive.weight? place, best with
    | some weight, some (heaviest, _) =>
        if heaviest ≤ weight then some (weight, directive.verbosity) else best
    | some weight, none => some (weight, directive.verbosity)
    | none, _ => best) none

/-- Whether an entry of a level made at a place is let through. -/
def shows (filter : LogFilter) (place : List Char) (level : LogLevel) : Bool :=
  match filter.deciding? place with
  | some (_, verbosity) => verbosity.shows level
  | none => false

end LogFilter
end StorageTelemetry
