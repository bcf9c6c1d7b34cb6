import StorageTelemetry.Entity.Records
import StorageTelemetry.Fault
import StorageTelemetry.Table
import StorageTelemetry.Text.Debug

namespace StorageTelemetry

/-!
# Registry of exported series

A registry holds families of gauges, each with one help text and one list of
label keys, fixed by the first creation under its name.  A series has an
instance number of its own.  A handle names the series by family, label values
and instance, so a handle to a retired series no longer reaches anything, even
after a new series was made under the same values.

Within its family a series is identified by the exact list of its label values.
A metrics library may look series up by a hash of the values; that two lists never
have the same hash is assumed here.

Beside the families the registry keeps the exporter's own figures: whether the
last session was usable, and the duration, size and failures of collections.
-/

/-- One live series of a family. -/
structure Series where
  id : Nat
  values : List String
  value : Double
deriving DecidableEq

/-- A family of gauges. -/
structure Family where
  name : String
  help : String
  keys : List String
  series : List Series
deriving DecidableEq

/-- What a creator holds: the family, the label values and the instance. -/
structure Handle where
  family : String
  values : List String
  id : Nat
deriving DecidableEq

/-- All exported figures. -/
structure Registry where
  families : List Family
  nextId : Nat
  up : Double
  durations : Table EntityKind Double
  collected : Table EntityKind Double
  failures : Table EntityKind Nat
deriving DecidableEq

/-! ## Names -/

def isNameStart (c : Char) : Bool := c.isAlpha || c = '_'

def isLabelName (name : String) : Bool :=
  match name.toList with
  | [] => false
  | first :: rest => isNameStart first && rest.all fun c => isNameStart c || c.isDigit

/-- Whether a text is a metric name, in which colons count as letters. -/
def isMetricName (name : String) : Bool :=
  match name.toList with
  | [] => false
  | first :: rest =>
      (isNameStart first || first = ':') &&
        rest.all fun c => isNameStart c || c = ':' || c.isDigit

/-- The names of the exporter's own figures, which no family may take. -/
def ownNames : List String :=
  ["powerflex_up", "powerflex_collection_duration_seconds", "powerflex_collection_entities",
   "powerflex_collection_failures_total"]

namespace Registry

/-- A registry in which nothing has been exported. -/
def empty : Registry where
  families := []
  nextId := 0
  up := .zero
  durations := .empty
  collected := .empty
  failures := .empty

def family? (registry : Registry) (name : String) : Option Family :=
  registry.families.find? (·.name = name)

/-- Applies a change to the family with a name. -/
def modifyFamily (registry : Registry) (name : String) (change : Family → Family) : Registry :=
  { registry with
    families := registry.families.map fun family =>
      if family.name = name then change family else family }

/-! ## Creating -/

/-- Why a family with this description cannot be registered. -/
def registrationFault? (name help : String) (keys : List String) : Option Fault :=
  if help.isEmpty then some (.registration "empty help string")
  else if !isMetricName name then some (.registration ("'" ++ name ++ "' is not a valid metric name"))
  else
    match keys.find? fun key => !isLabelName key with
    | some key => some (.registration ("'" ++ key ++ "' is not a valid label name"))
    | none =>
        if !decide keys.Nodup then some (.registration "duplicate label names")
        else if ownNames.contains name then
          some (.registration "Duplicate metrics collector registration attempted")
        else none

/-- Why a family cannot be used with a list of label keys. -/
def keysFault (family : Family) (keys : List String) : Fault :=
  .instrument (family.name ++ " is registered with labels " ++ Text.shownList family.keys ++
    ", not " ++ Text.shownList keys)

/-- The series under some label values, which is made at zero if there is none.  It is
looked up by the values themselves, not by a hash of them. -/
def attach (registry : Registry) (family : Family) (values : List String) : Handle × Registry :=
  match family.series.find? (·.values = values) with
  | some series => (⟨family.name, values, series.id⟩, registry)
  | none =>
      let series : Series := ⟨registry.nextId, values, .zero⟩
      (⟨family.name, values, registry.nextId⟩,
        { registry.modifyFamily family.name fun family =>
            { family with series := family.series ++ [series] } with
          nextId := registry.nextId + 1 })

/-- Creates a series.  The keys of a known family are compared before anything
else is checked; a new family is registered only if its description is valid. -/
def create (registry : Registry) (name help : String) (labels : LabelSet) :
    Except Fault (Handle × Registry) :=
  match registry.family? name with
  | some family =>
      if family.keys = labels.keys then .ok (registry.attach family labels.values)
      else .error (keysFault family labels.keys)
  | none =>
      match registrationFault? name help labels.keys with
      | some fault => .error fault
      | none =>
          let family : Family := ⟨name, help, labels.keys, []⟩
          let registry := { registry with families := registry.families ++ [family] }
          .ok (registry.attach family labels.values)

/-! ## Setting and retiring -/

/-- Sets the value of a series.  Nothing happens if the handle's instance is
no longer the live one. -/
def set (registry : Registry) (handle : Handle) (value : Double) : Registry :=
  registry.modifyFamily handle.family fun family =>
    { family with
      series := family.series.map fun series =>
        if series.values = handle.values && series.id = handle.id then { series with value }
        else series }

/-- Removes whatever series is live under the handle's label values, which have to be
exactly its own: no other series is taken for it by a hash of the values. -/
def retire (registry : Registry) (handle : Handle) : Registry :=
  registry.modifyFamily handle.family fun family =>
    { family with series := family.series.filter fun series => series.values ≠ handle.values }

/-! ## The exporter's own figures -/

/-- Sets whether the last session was usable. -/
def setUp (registry : Registry) (value : Double) : Registry := { registry with up := value }

/-- Sets how long the last collection of a kind took, in seconds. -/
def setDuration (registry : Registry) (kind : EntityKind) (seconds : Double) : Registry :=
  { registry with durations := registry.durations.put kind seconds }

/-- Sets how many entities the last collection of a kind pushed. -/
def setCollected (registry : Registry) (kind : EntityKind) (count : Double) : Registry :=
  { registry with collected := registry.collected.put kind count }

def countFailure (registry : Registry) (kind : EntityKind) : Registry :=
  { registry with failures := registry.failures.put kind ((registry.failures.get? kind).getD 0 + 1) }

end Registry
end StorageTelemetry
