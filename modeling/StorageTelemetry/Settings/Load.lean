import StorageTelemetry.Document.Conversion
import StorageTelemetry.Json.Layer
import StorageTelemetry.Settings.Basic
import StorageTelemetry.Settings.Environment
import StorageTelemetry.Text.Utf8
import StorageTelemetry.Toml.Reader

namespace StorageTelemetry

/-!
# Loading settings

Settings come from a file, if there is one, and from the environment, which is
laid over the file place by place.  What results is read with conversions
between scalars.
-/

/-- The formats of a settings file.  Formats other than these two are known by
their readers alone. -/
inductive FileFormat
  | toml
  | json
  | other (layer? : List Char → Option (List (String × Tree)))

/-- A settings file. -/
structure SettingsFile where
  format : FileFormat
  text : String

/-- Why settings could not be loaded. -/
inductive LoadFailure
  | build
  | deserialize (mismatch : Mismatch)
deriving DecidableEq

def LoadFailure.message : LoadFailure → String
  | build => "Failed to build configuration"
  | deserialize _ => "Failed to deserialize configuration"

/-- The layer that a text stands for. -/
def FileFormat.layer? : FileFormat → List Char → Option (List (String × Tree))
  | toml => Toml.layer?
  | json => Json.layer?
  | other layer? => layer?

/-- The endings of names that tell the two formats. -/
def FileFormat.endings : List (String × FileFormat) := [(".toml", toml), (".json", json)]

/-- The files that a path may stand for, in order of preference: the file
itself, if its name tells one of the formats, and the files whose names tell one
with an ending added. -/
def SettingsFile.candidates (endings : List (String × FileFormat)) (path : String) :
    List (String × FileFormat) :=
  let itself := endings.filterMap fun (ending, format) =>
    if path.endsWith ending then some (path, format) else none
  itself ++ endings.map fun (ending, format) => (path ++ ending, format)

/-- The layer of a file.  A mark for the order of bytes at its front does not
count. -/
def SettingsFile.layer? (file : SettingsFile) : Option (List (String × Tree)) :=
  file.format.layer? (Text.withoutMark file.text.toList)

namespace Settings

/-- The tree of a file's layer with the environment's layer over it. -/
def treeOf (file environment : List (String × Tree)) : Tree :=
  ((Tree.table []).putAll file).putAll environment

def load (file : Option SettingsFile) (environment : Environment) : Except LoadFailure Settings :=
  let layer? := match file with
    | some file => file.layer?
    | none => some []
  match layer? with
  | some layer => (read (treeOf layer environment.layer)).mapError .deserialize
  | none => .error .build

end Settings
end StorageTelemetry
