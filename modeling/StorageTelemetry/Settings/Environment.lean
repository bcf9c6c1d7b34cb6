import StorageTelemetry.Document.Tree
import StorageTelemetry.Text.Blank
import StorageTelemetry.Text.Lowercase

namespace StorageTelemetry

/-!
# Environment variables

Variables whose names begin with the exporter's own prefix are a layer of
settings: what follows the prefix names a place, with two underscores between
its parts.  Values are always texts.
-/

/-- Environment variables; a name is set at most once. -/
structure Environment where
  assignments : List (String × String)
deriving DecidableEq

namespace Environment

def get? (environment : Environment) (name : String) : Option String :=
  environment.assignments.lookup name

/-- Sets a variable unless it is already set. -/
def setDefault (environment : Environment) (name value : String) : Environment :=
  if (environment.get? name).isSome then environment
  else ⟨environment.assignments ++ [(name, value)]⟩

/-- The beginning of the names that are settings, in lower case. -/
def settingPrefix : List Char := "powerflex_exporter__".toList

/-- A name with every two underscores replaced by a point. -/
def pointed : List Char → List Char
  | '_' :: '_' :: rest => '.' :: pointed rest
  | c :: rest => c :: pointed rest
  | [] => []

/-- The key of the setting that a variable is, if it is one.  Letter case does
not count. -/
def settingKey? (name : String) : Option String :=
  let lowered := (Text.lower name).toList
  if settingPrefix.isPrefixOf lowered then
    some (String.ofList (pointed (lowered.drop settingPrefix.length)))
  else none

def layer (environment : Environment) : List (String × Tree) :=
  environment.assignments.filterMap fun (name, value) =>
    (settingKey? name).map fun key => (key, .text value)

end Environment
end StorageTelemetry
