import StorageTelemetry.Exposition.Registry

namespace StorageTelemetry

/-!
# The text exposition format

Families with at least one series are written in the order of their names,
each under a help line and a type line.  Labels are sorted by name, and the
series of a family by their label values in that order.  A family without name
or without series cannot be written, and then nothing is.
-/

/-- Why a family cannot be written. -/
inductive EncodingFault
  | noSeries (family : String)
  | noName
deriving DecidableEq

/-- What is said about a fault, without the dump of the family that an encoder
may add. -/
def EncodingFault.message : EncodingFault → String
  | noSeries family => "Error: MetricFamily has no metrics: " ++ family
  | noName => "Error: MetricFamily has no name"

/-- A family as it is shown. -/
structure ShownFamily where
  name : String
  help : String
  type : String
  series : List (List (String × String) × Double)

/-- How a character of a help text is written. -/
def escapeHelp (c : Char) : List Char :=
  if c = '\\' then ['\\', '\\'] else if c = '\n' then ['\\', 'n'] else [c]

/-- How a character of a label value is written. -/
def escapeLabel (c : Char) : List Char :=
  if c = '"' then ['\\', '"'] else escapeHelp c

/-- A text with every character written by a rule. -/
def escapeWith (rule : Char → List Char) (text : String) : String :=
  String.ofList (text.toList.flatMap rule)

def sortLabels (labels : List (String × String)) : List (String × String) :=
  labels.mergeSort fun a b => !decide (b.1 < a.1)

def sortSeries (series : List (List (String × String) × Double)) :
    List (List (String × String) × Double) :=
  series.mergeSort fun a b => !decide (b.1.map (·.2) < a.1.map (·.2))

namespace ShownFamily

/-- A family of gauges, ready to be shown. -/
def ofFamily (family : Family) : ShownFamily where
  name := family.name
  help := family.help
  type := "gauge"
  series := sortSeries (family.series.map fun series =>
    (sortLabels (family.keys.zip series.values), series.value))

/-- A family of the exporter's own figures by kind. -/
def ofKinds (name help type : String) (figures : List (EntityKind × Double)) : ShownFamily where
  name := name
  help := help
  type := type
  series := sortSeries (figures.map fun (kind, value) => ([("kind", kind.label)], value))

/-- The labels of a series between braces, or nothing if it has none. -/
def labelsText (labels : List (String × String)) : String :=
  if labels.isEmpty then ""
  else
    let pairs := labels.map fun (key, value) =>
      key ++ "=\"" ++ escapeWith escapeLabel value ++ "\""
    "\x7b" ++ ",".intercalate pairs ++ "\x7d"

/-- The line of one series. -/
def sampleLine (name : String) (labels : List (String × String)) (value : Double) : String :=
  name ++ labelsText labels ++ " " ++ value.toText ++ "\n"

def helpLine (family : ShownFamily) : String :=
  "# HELP " ++ family.name ++ " " ++ escapeWith escapeHelp family.help ++ "\n"

def typeLine (family : ShownFamily) : String :=
  "# TYPE " ++ family.name ++ " " ++ family.type ++ "\n"

/-- The text of a family that can be written. -/
def text (family : ShownFamily) : String :=
  family.helpLine ++ family.typeLine ++
    String.join (family.series.map fun (labels, value) => sampleLine family.name labels value)

def render (family : ShownFamily) : Except EncodingFault String :=
  if family.series.isEmpty then .error (.noSeries family.name)
  else if family.name.isEmpty then .error .noName
  else .ok family.text

end ShownFamily

namespace Registry

def ownFamilies (registry : Registry) : List ShownFamily :=
  [{ name := "powerflex_up"
     help := "PowerFlex gateway reachable and authenticated (1=yes, 0=no)"
     type := "gauge"
     series := [([], registry.up)] },
   .ofKinds "powerflex_collection_duration_seconds" "Wall time of the last collection tick" "gauge"
     registry.durations.entries,
   .ofKinds "powerflex_collection_entities"
     "Entities pushed to the exporter in the last collection tick" "gauge"
     registry.collected.entries,
   .ofKinds "powerflex_collection_failures_total" "Collection ticks aborted by an error" "counter"
     (registry.failures.entries.map fun (kind, count) => (kind, Double.ofNat count))]

/-- All families with at least one series, by name. -/
def shownFamilies (registry : Registry) : List ShownFamily :=
  let all := registry.families.map ShownFamily.ofFamily ++ registry.ownFamilies
  (all.filter fun family => !family.series.isEmpty).mergeSort fun a b => !decide (b.name < a.name)

/-- The text of all shown families.  The first that cannot be written is the
answer. -/
def render (registry : Registry) : Except EncodingFault String :=
  return String.join (← registry.shownFamilies.mapM ShownFamily.render)

end Registry
end StorageTelemetry
