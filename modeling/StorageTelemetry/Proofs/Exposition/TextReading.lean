import StorageTelemetry.Exposition.Text
import StorageTelemetry.Proofs.Double.DecimalText
import StorageTelemetry.Proofs.Json.Tokens
import StorageTelemetry.Proofs.Recording.Exposition

namespace StorageTelemetry

/-!
# Reading the exposition format

A reader goes over a text line by line.  The lines of help and type say what the
samples below them belong to.  A sample has a name, labels between braces if it has
any, and a value.  In help texts and label values a backslash escapes what follows.

What is written of families is read as their series, with every label and every
value as it was, if the names fit into the format: they are not empty, a metric name
has no blank, brace, line break or hash, and a label name no equals sign or line
break.
-/

namespace Exposition

/-! ## The reader -/

/-- What a line says. -/
inductive TextLine
  | help (name text : String)
  | type (name type : String)
  | sample (name : String) (labels : List (String × String)) (value : Double)

/-- What an escaped character stands for. -/
def meant (c : Char) : Char := if c = 'n' then '\n' else c

/-- A text with what is escaped in it replaced. -/
def unescaped : List Char → List Char
  | '\\' :: c :: rest => meant c :: unescaped rest
  | c :: rest => c :: unescaped rest
  | [] => []

/-- What stands before the closing quote, and what is left. -/
def quoted? : List Char → Option (List Char × List Char)
  | [] => none
  | '"' :: rest => some ([], rest)
  | '\\' :: c :: rest => (quoted? rest).map fun (value, rest) => (meant c :: value, rest)
  | c :: rest => (quoted? rest).map fun (value, rest) => (c :: value, rest)

/-- One label and what is left. -/
def label? (text : List Char) : Option ((String × String) × List Char) :=
  match text.dropWhile (· ≠ '=') with
  | '=' :: '"' :: rest =>
      (quoted? rest).map fun (value, rest) =>
        ((String.ofList (text.takeWhile (· ≠ '=')), String.ofList value), rest)
  | _ => none

/-- The labels up to the closing brace, and what is left.  There are no more of them
than characters. -/
def labels? : Nat → List Char → Option (List (String × String) × List Char)
  | 0, _ => none
  | steps + 1, text => do
      let (label, rest) ← label? text
      match rest with
      | '}' :: rest => return ([label], rest)
      | ',' :: rest =>
          let (labels, rest) ← labels? steps rest
          return (label :: labels, rest)
      | _ => none

/-- Whether a character belongs to the name that a sample begins with. -/
def inName (c : Char) : Bool := c != ' ' && c != '\x7b'

def sample? (line : List Char) : Option TextLine :=
  let name := String.ofList (line.takeWhile inName)
  match line.dropWhile inName with
  | ' ' :: value => (Double.readText? value).map (.sample name [])
  | '{' :: rest => do
      let (labels, rest) ← labels? rest.length rest
      match rest with
      | ' ' :: value => (Double.readText? value).map (.sample name labels)
      | _ => none
  | _ => none

/-- The name and the rest of a line about a family. -/
def heading (line : List Char) : String × List Char :=
  (String.ofList (line.takeWhile (· ≠ ' ')), (line.dropWhile (· ≠ ' ')).drop 1)

def line? : List Char → Option TextLine
  | '#' :: ' ' :: 'H' :: 'E' :: 'L' :: 'P' :: ' ' :: rest =>
      some (.help (heading rest).1 (String.ofList (unescaped (heading rest).2)))
  | '#' :: ' ' :: 'T' :: 'Y' :: 'P' :: 'E' :: ' ' :: rest =>
      some (.type (heading rest).1 (String.ofList (heading rest).2))
  | line => sample? line

/-- The series of samples, each described by the lines of help and type above it,
which have to be about its name. -/
def series? (name help type : String) : List TextLine → Option (List ExportedSeries)
  | [] => some []
  | .help name help :: rest => series? name help "" rest
  | .type name' type :: rest => if name' = name then series? name help type rest else none
  | .sample name' labels value :: rest =>
      if name' = name then
        (series? name help type rest).map (⟨name, help, type, labels, value⟩ :: ·)
      else none

/-- The series that a text shows.  Empty lines do not count. -/
def read? (text : String) : Option (List ExportedSeries) :=
  (((text.toList.splitOn '\n').filter (· ≠ [])).mapM line?).bind (series? "" "" "")

/-! ## Escaped texts -/

theorem unescaped_escapeHelp (text : List Char) : unescaped (text.flatMap escapeHelp) = text := by
  induction text with
  | nil => rfl
  | cons c rest ih =>
      rw [List.flatMap_cons]
      by_cases slash : c = '\\'
      · subst slash
        exact congrArg ('\\' :: ·) ih
      · by_cases newline : c = '\n'
        · subst newline
          exact congrArg ('\n' :: ·) ih
        · have plain : escapeHelp c = [c] := by rw [escapeHelp, if_neg slash, if_neg newline]
          rw [plain, List.singleton_append, unescaped, ih]
          exact fun _ _ same _ => slash same

theorem quoted?_escapeLabel (text rest : List Char) :
    quoted? (text.flatMap escapeLabel ++ '"' :: rest) = some (text, rest) := by
  induction text with
  | nil => rfl
  | cons c others ih =>
      rw [List.flatMap_cons, List.append_assoc]
      by_cases special : c = '"' ∨ c = '\\' ∨ c = '\n'
      · rcases special with rfl | rfl | rfl
        all_goals
          simp only [escapeLabel, escapeHelp, meant, quoted?, List.cons_append, List.nil_append,
            if_true, ih, Option.map_some, if_false, Char.reduceEq]
      · rw [not_or, not_or] at special
        have plain : escapeLabel c = [c] := by
          rw [escapeLabel, if_neg special.1, escapeHelp, if_neg special.2.1, if_neg special.2.2]
        rw [plain, List.singleton_append, quoted?, ih]
        · rfl
        · exact fun same => special.1 same
        · exact fun _ _ same _ => special.2.1 same

theorem newline_not_mem_escapeHelp (c : Char) : '\n' ∉ escapeHelp c := by
  unfold escapeHelp
  split_ifs with slash newline
  · decide
  · decide
  · simpa using Ne.symm newline

theorem newline_not_mem_escapeLabel (c : Char) : '\n' ∉ escapeLabel c := by
  unfold escapeLabel
  split_ifs
  · decide
  · exact newline_not_mem_escapeHelp c

theorem newline_not_mem_flatMap {rule : Char → List Char} (plain : ∀ c, '\n' ∉ rule c)
    (text : List Char) : '\n' ∉ text.flatMap rule := by
  intro member
  rcases List.mem_flatMap.mp member with ⟨c, -, written⟩
  exact plain c written

/-! ## Names that fit into the format -/

/-- Whether a text can be the name of a family. -/
structure NameFits (name : String) : Prop where
  nonempty : name ≠ ""
  plain : ∀ c ∈ name.toList, c ≠ ' ' ∧ c ≠ '\x7b' ∧ c ≠ '\n' ∧ c ≠ '#'

/-- Whether a text can be the name of a label. -/
def KeyFits (key : String) : Prop := ∀ c ∈ key.toList, c ≠ '=' ∧ c ≠ '\n'

/-! ## Labels -/

def labelChars (label : String × String) : List Char :=
  label.1.toList ++ '=' :: '"' :: (label.2.toList.flatMap escapeLabel ++ ['"'])

theorem label?_labelChars {label : String × String} (fits : KeyFits label.1) (rest : List Char) :
    label? (labelChars label ++ rest) = some (label, rest) := by
  have inside : ∀ c ∈ label.1.toList, decide (c ≠ '=') = true := fun c member =>
    decide_eq_true (fits c member).1
  have ends : Json.Stops (fun c => decide (c ≠ '='))
      ('=' :: '"' :: (label.2.toList.flatMap escapeLabel ++ '"' :: rest)) :=
    Json.stops_cons.mpr (by decide)
  have text : labelChars label ++ rest =
      label.1.toList ++ '=' :: '"' :: (label.2.toList.flatMap escapeLabel ++ '"' :: rest) := by
    simp [labelChars]
  rw [text, label?, Json.dropWhile_append inside ends, Json.takeWhile_append inside ends]
  simp only [quoted?_escapeLabel, Option.map_some, String.ofList_toList]

/-- Labels are read up to the closing brace. -/
theorem labels?_intercalate {labels : List (String × String)} (some : labels ≠ [])
    (fits : ∀ label ∈ labels, KeyFits label.1) (rest : List Char) {steps : Nat}
    (enough : labels.length ≤ steps) :
    labels? steps ([','].intercalate (labels.map labelChars) ++ '\x7d' :: rest) =
      .some (labels, rest) := by
  induction labels generalizing steps with
  | nil => exact absurd rfl some
  | cons label others ih =>
      cases steps with
      | zero => cases enough
      | succ steps =>
          have own := label?_labelChars (fits label List.mem_cons_self)
          cases others with
          | nil =>
              rw [List.map_singleton, List.intercalate_singleton, labels?, own]
              rfl
          | cons next others =>
              have later := ih (List.cons_ne_nil next others)
                (fun label member => fits label (List.mem_cons_of_mem _ member))
                (Nat.le_of_succ_le_succ enough)
              rw [List.map_cons] at later
              rw [List.map_cons, List.map_cons, List.intercalate_cons_cons, List.append_assoc,
                List.append_assoc, labels?, own, List.singleton_append]
              simp only [Option.bind_eq_bind, Option.bind_some, later]
              rfl

/-! ## Lines -/

theorem toList_labelsText (labels : List (String × String)) :
    (ShownFamily.labelsText labels).toList =
      if labels = [] then []
      else '\x7b' :: ([','].intercalate (labels.map labelChars) ++ ['\x7d']) := by
  cases labels with
  | nil => rfl
  | cons label others =>
      have label_eq : ∀ label : String × String,
          (label.1 ++ "=\"" ++ escapeWith escapeLabel label.2 ++ "\"").toList =
            labelChars label := by
        intro label
        simp [escapeWith, labelChars]
      rw [if_neg (List.cons_ne_nil _ _), ShownFamily.labelsText, List.isEmpty_cons,
        if_neg Bool.false_ne_true, String.toList_append, String.toList_append,
        String.toList_intercalate, List.map_map]
      have pairs : (String.toList ∘ fun (label : String × String) =>
          label.1 ++ "=\"" ++ escapeWith escapeLabel label.2 ++ "\"") = labelChars :=
        funext label_eq
      exact congrArg (fun texts => '\x7b' :: ([','].intercalate texts ++ ['\x7d']))
        (congrArg (List.map · (label :: others)) pairs)

theorem length_le_length_intercalate (labels : List (String × String)) :
    labels.length ≤ ([','].intercalate (labels.map labelChars)).length := by
  have some : ∀ label, 0 < (labelChars label).length := by
    intro label
    simp [labelChars]
  induction labels with
  | nil => exact Nat.le_refl 0
  | cons label others ih =>
      have own := some label
      cases others with
      | nil =>
          rw [List.map_singleton, List.intercalate_singleton]
          exact own
      | cons next others =>
          rw [List.map_cons] at ih
          rw [List.map_cons, List.map_cons, List.intercalate_cons_cons, List.length_append,
            List.length_append]
          simp only [List.length_cons] at ih ⊢
          omega

/-- The characters of a sample's line, without its break. -/
def sampleChars (name : String) (labels : List (String × String)) (value : Double) : List Char :=
  name.toList ++ (ShownFamily.labelsText labels).toList ++ ' ' :: value.toText.toList

theorem sample?_sampleChars {name : String} {labels : List (String × String)}
    (named : NameFits name) (fits : ∀ label ∈ labels, KeyFits label.1) (value : Double) :
    sample? (sampleChars name labels value) = some (.sample name labels value) := by
  have inside : ∀ c ∈ name.toList, inName c = true := by
    intro c member
    have plain := named.plain c member
    simp [inName, plain.1, plain.2.1]
  unfold sampleChars
  rw [toList_labelsText]
  by_cases bare : labels = []
  · have ends : Json.Stops inName (' ' :: value.toText.toList) := Json.stops_cons.mpr rfl
    rw [if_pos bare, List.append_nil, sample?, Json.takeWhile_append inside ends,
      Json.dropWhile_append inside ends, bare]
    simp only [Double.readText?_toText, Option.map_some, String.ofList_toList]
  · have enough := length_le_length_intercalate labels
    have ends : Json.Stops inName ('\x7b' :: ([','].intercalate (labels.map labelChars) ++
        '\x7d' :: ' ' :: value.toText.toList)) := Json.stops_cons.mpr rfl
    rw [if_neg bare, List.append_assoc, List.cons_append, List.append_assoc, List.singleton_append,
      sample?, Json.takeWhile_append inside ends, Json.dropWhile_append inside ends]
    have steps : labels.length ≤ ([','].intercalate (labels.map labelChars) ++
        '\x7d' :: ' ' :: value.toText.toList).length := by
      rw [List.length_append]
      omega
    have read := labels?_intercalate bare fits (' ' :: value.toText.toList) steps
    simp only [read, Option.bind_eq_bind, Option.bind_some, Double.readText?_toText,
      Option.map_some, String.ofList_toList]

/-- A line that begins with the name of a family is that of a sample. -/
theorem line?_sampleChars {name : String} {labels : List (String × String)} (named : NameFits name)
    (fits : ∀ label ∈ labels, KeyFits label.1) (value : Double) :
    line? (sampleChars name labels value) = some (.sample name labels value) := by
  rw [← sample?_sampleChars named fits value]
  rcases List.exists_cons_of_ne_nil (mt String.toList_eq_nil_iff.mp named.nonempty) with
    ⟨first, others, spelled⟩
  have plain : first ≠ '#' := by
    have member : first ∈ name.toList := spelled ▸ List.mem_cons_self
    exact (named.plain first member).2.2.2
  unfold sampleChars
  rw [spelled, List.append_assoc, List.cons_append, line?]
  · exact fun _ same => plain (List.cons.inj same).1
  · exact fun _ same => plain (List.cons.inj same).1

theorem heading_append {name : String} (named : NameFits name) (rest : List Char) :
    heading (name.toList ++ ' ' :: rest) = (name, rest) := by
  have inside : ∀ c ∈ name.toList, decide (c ≠ ' ') = true := fun c member =>
    decide_eq_true (named.plain c member).1
  have ends : Json.Stops (fun c => decide (c ≠ ' ')) (' ' :: rest) :=
    Json.stops_cons.mpr (by decide)
  rw [heading, Json.takeWhile_append inside ends, Json.dropWhile_append inside ends,
    String.ofList_toList]
  rfl

theorem line?_help (rest : List Char) : line? ("# HELP ".toList ++ rest) =
    some (.help (heading rest).1 (String.ofList (unescaped (heading rest).2))) :=
  rfl

theorem line?_type (rest : List Char) : line? ("# TYPE ".toList ++ rest) =
    some (.type (heading rest).1 (String.ofList (heading rest).2)) :=
  rfl

/-! ## Texts of families -/

/-- Whether a family can be written so that it is read as it is. -/
structure FamilyFits (family : ShownFamily) : Prop where
  named : NameFits family.name
  typed : '\n' ∉ family.type.toList
  keyed : ∀ series ∈ family.series, ∀ label ∈ series.1, KeyFits label.1

/-- The lines of a family without their breaks. -/
def linesOf (family : ShownFamily) : List (List Char) :=
  ("# HELP ".toList ++ (family.name.toList ++ ' ' :: family.help.toList.flatMap escapeHelp)) ::
    ("# TYPE ".toList ++ (family.name.toList ++ ' ' :: family.type.toList)) ::
      family.series.map fun (labels, value) => sampleChars family.name labels value

/-- What the lines of a family say. -/
def saidOf (family : ShownFamily) : List TextLine :=
  .help family.name family.help :: .type family.name family.type ::
    family.series.map fun (labels, value) => .sample family.name labels value

theorem toList_sampleLine (name : String) (labels : List (String × String)) (value : Double) :
    (ShownFamily.sampleLine name labels value).toList =
      sampleChars name labels value ++ ['\n'] := by
  simp [ShownFamily.sampleLine, sampleChars]

theorem toList_text (family : ShownFamily) :
    family.text.toList = (linesOf family).flatMap (· ++ ['\n']) := by
  have samples : ∀ series : List (List (String × String) × Double),
      (String.join (series.map fun (labels, value) =>
          ShownFamily.sampleLine family.name labels value)).toList =
        (series.map fun (labels, value) => sampleChars family.name labels value).flatMap
          (· ++ ['\n']) := by
    intro series
    rw [String.toList_join, List.flatMap_map, List.flatMap_map]
    exact List.flatMap_congr fun _ _ => toList_sampleLine _ _ _
  rw [ShownFamily.text, String.toList_append, String.toList_append, samples, linesOf,
    List.flatMap_cons, List.flatMap_cons, List.append_assoc]
  simp [ShownFamily.helpLine, ShownFamily.typeLine, escapeWith]

theorem mapM_linesOf {family : ShownFamily} (fits : FamilyFits family) :
    (linesOf family).mapM line? = some (saidOf family) := by
  have samples : ∀ series : List (List (String × String) × Double), series ⊆ family.series →
      (series.map fun (labels, value) => sampleChars family.name labels value).mapM line? =
        some (series.map fun (labels, value) => .sample family.name labels value) := by
    intro series among
    induction series with
    | nil => rfl
    | cons first others ih =>
        rcases List.cons_subset.mp among with ⟨listed, later⟩
        rw [List.map_cons, List.mapM_cons, line?_sampleChars fits.named (fits.keyed first listed),
          ih later]
        rfl
  have help : line? ("# HELP ".toList ++
      (family.name.toList ++ ' ' :: family.help.toList.flatMap escapeHelp)) =
        some (.help family.name family.help) := by
    rw [line?_help, heading_append fits.named, unescaped_escapeHelp, String.ofList_toList]
  have type : line? ("# TYPE ".toList ++ (family.name.toList ++ ' ' :: family.type.toList)) =
      some (.type family.name family.type) := by
    rw [line?_type, heading_append fits.named, String.ofList_toList]
  rw [linesOf, List.mapM_cons, List.mapM_cons, help, type,
    samples family.series (List.Subset.refl _)]
  rfl

theorem newline_not_mem_labelChars {label : String × String} (fits : KeyFits label.1) :
    '\n' ∉ labelChars label := by
  have key : '\n' ∉ label.1.toList := fun member => (fits _ member).2 rfl
  have escaped := newline_not_mem_flatMap newline_not_mem_escapeLabel label.2.toList
  simp only [labelChars, List.mem_append, List.mem_cons, key, escaped]
  decide

theorem newline_not_mem_intercalate {labels : List (String × String)}
    (fits : ∀ label ∈ labels, KeyFits label.1) :
    '\n' ∉ [','].intercalate (labels.map labelChars) := by
  induction labels with
  | nil => exact List.not_mem_nil
  | cons label others ih =>
      rcases List.forall_mem_cons.mp fits with ⟨own, later⟩
      have first := newline_not_mem_labelChars own
      cases others with
      | nil => rwa [List.map_singleton, List.intercalate_singleton]
      | cons next others =>
          have rest := ih later
          rw [List.map_cons] at rest
          rw [List.map_cons, List.map_cons, List.intercalate_cons_cons]
          simp [first, rest]

theorem newline_not_mem_sampleChars {name : String} {labels : List (String × String)}
    (named : NameFits name) (fits : ∀ label ∈ labels, KeyFits label.1) (value : Double) :
    '\n' ∉ sampleChars name labels value := by
  have plain : '\n' ∉ name.toList := fun member => (named.plain _ member).2.2.1 rfl
  have labelled := newline_not_mem_intercalate fits
  have written := Double.newline_not_mem_toText value
  rw [sampleChars, toList_labelsText]
  split_ifs <;> simp [plain, labelled, written]

theorem newline_not_mem_linesOf {family : ShownFamily} (fits : FamilyFits family) :
    ∀ line ∈ linesOf family, '\n' ∉ line := by
  have name_plain : '\n' ∉ family.name.toList := fun member =>
    (fits.named.plain _ member).2.2.1 rfl
  have escaped := newline_not_mem_flatMap newline_not_mem_escapeHelp family.help.toList
  intro line member
  rw [linesOf, List.mem_cons, List.mem_cons] at member
  rcases member with rfl | rfl | sample
  · simp [name_plain, escaped]
  · simp [name_plain, fits.typed]
  · rcases List.mem_map.mp sample with ⟨⟨labels, value⟩, listed, rfl⟩
    exact newline_not_mem_sampleChars fits.named (fits.keyed _ listed) value

theorem ne_nil_of_mem_linesOf {family : ShownFamily} : ∀ line ∈ linesOf family, line ≠ [] := by
  intro line member
  rw [linesOf, List.mem_cons, List.mem_cons] at member
  rcases member with rfl | rfl | sample
  · nofun
  · nofun
  · rcases List.mem_map.mp sample with ⟨⟨labels, value⟩, -, rfl⟩
    simp [sampleChars]

/-! ## Texts of several families -/

/-- What ends with line breaks is split into its lines. -/
theorem splitOn_flatMap {lines : List (List Char)} (plain : ∀ line ∈ lines, '\n' ∉ line) :
    (lines.flatMap (· ++ ['\n'])).splitOn '\n' = lines ++ [[]] := by
  induction lines with
  | nil => rfl
  | cons line rest ih =>
      rcases List.forall_mem_cons.mp plain with ⟨own, others⟩
      rw [List.flatMap_cons, List.append_assoc, List.singleton_append,
        List.splitOn_append_cons_self_of_not_mem own, ih others, List.cons_append]

theorem mapM_flatMap_linesOf {families : List ShownFamily}
    (fits : ∀ family ∈ families, FamilyFits family) :
    (families.flatMap linesOf).mapM line? = some (families.flatMap saidOf) := by
  induction families with
  | nil => rfl
  | cons family rest ih =>
      rcases List.forall_mem_cons.mp fits with ⟨own, others⟩
      rw [List.flatMap_cons, List.mapM_append, mapM_linesOf own, ih others]
      rfl

theorem series?_saidOf (family : ShownFamily) (name help type : String) (rest : List TextLine) :
    series? name help type (saidOf family ++ rest) =
      (series? family.name family.help family.type rest).map (family.exported ++ ·) := by
  have samples : ∀ series : List (List (String × String) × Double),
      series? family.name family.help family.type
          ((series.map fun (labels, value) => .sample family.name labels value) ++ rest) =
        (series? family.name family.help family.type rest).map
          ((series.map fun (labels, value) =>
            (⟨family.name, family.help, family.type, labels, value⟩ : ExportedSeries)) ++ ·) := by
    intro series
    induction series with
    | nil => exact Option.map_id'.symm
    | cons first others ih =>
        rw [List.map_cons, List.map_cons, List.cons_append, series?, if_pos rfl, ih,
          Option.map_map]
        rfl
  rw [saidOf, List.cons_append, List.cons_append, series?, series?, if_pos rfl]
  exact samples family.series

theorem series?_flatMap_saidOf (families : List ShownFamily) (name help type : String) :
    series? name help type (families.flatMap saidOf) =
      some (families.flatMap ShownFamily.exported) := by
  induction families generalizing name help type with
  | nil => rfl
  | cons family rest ih => rw [List.flatMap_cons, series?_saidOf, ih, List.flatMap_cons]; rfl

/-- The text of families is read as their series. -/
theorem read?_join {families : List ShownFamily} (fits : ∀ family ∈ families, FamilyFits family) :
    read? (String.join (families.map ShownFamily.text)) =
      some (families.flatMap ShownFamily.exported) := by
  have text : (String.join (families.map ShownFamily.text)).toList =
      (families.flatMap linesOf).flatMap (· ++ ['\n']) := by
    rw [String.toList_join, List.flatMap_map, List.flatMap_assoc]
    exact List.flatMap_congr fun family _ => toList_text family
  have plain : ∀ line ∈ families.flatMap linesOf, '\n' ∉ line := by
    intro line member
    rcases List.mem_flatMap.mp member with ⟨family, listed, among⟩
    exact newline_not_mem_linesOf (fits family listed) line among
  have filled : (families.flatMap linesOf).filter (· ≠ []) = families.flatMap linesOf := by
    apply List.filter_eq_self.mpr
    intro line member
    rcases List.mem_flatMap.mp member with ⟨family, -, among⟩
    exact decide_eq_true (ne_nil_of_mem_linesOf line among)
  have last : [[]].filter (fun line : List Char => decide (line ≠ [])) = [] := rfl
  rw [read?, text, splitOn_flatMap plain, List.filter_append, filled, last, List.append_nil,
    mapM_flatMap_linesOf fits]
  exact series?_flatMap_saidOf families "" "" ""

/-- Two series of a family, with a line break in its help and a quote in a label. -/
example :
    let text := "# HELP a One\\ntwo\n# TYPE a gauge\na\x7bk=\"x\\\"\",m=\"\"\x7d 0.5\na 2\n"
    read? text =
      some [⟨"a", "One\ntwo", "gauge", [("k", "x\""), ("m", "")], .ofDecimal false 5 (-1)⟩,
        ⟨"a", "One\ntwo", "gauge", [], .ofNat 2⟩] := by
  decide +kernel

end Exposition
end StorageTelemetry
