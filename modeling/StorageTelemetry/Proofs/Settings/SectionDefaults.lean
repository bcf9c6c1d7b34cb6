import StorageTelemetry.Proofs.Settings.Documents
import StorageTelemetry.Proofs.Settings.LeafReading

namespace StorageTelemetry

/-!
# Sections that are left out, empty or half written

Defaults stand in two places: a field has one for a section that does not
mention it, and a section has one for a document that does not mention the
section.  They agree because an empty section reads as the default of the
section, which is checked once for each section.

From there on a section that is left out is an empty one.  Settings are read
section by section, whatever the other sections are written as, and a section
that is a table is read field by field.  So it does not matter in which of
these ways a default is written.
-/

/-! ## Sections and their fields -/

/-- The sections that may be left out. -/
inductive OptionalSection
  | collection
  | election
  | server
  | inventory
deriving DecidableEq

/-- The fields of all sections: the leaves and the lists. -/
inductive SettingsField
  | scalar (leaf : Leaf)
  | driverNames
  | nodes
  | volumes
  | storageClasses
deriving DecidableEq

/-- The section of a leaf, if it may be left out. -/
def Leaf.section? : Leaf → Option OptionalSection
  | endpoint | username | password | insecure | certPath => none
  | sdcInterval | volumeInterval | poolInterval | sdcEnabled | volumeEnabled | poolEnabled
  | maxConcurrentQueries | tokenRefreshInterval | authTimeout => some .collection
  | electionEnabled | electionEndpoint | electionNamespace => some .election
  | address | port => some .server

namespace SettingsField

/-- The values of a field. -/
def Value : SettingsField → Type
  | scalar leaf => leaf.kind.Value
  | driverNames => List String
  | nodes => List NodeEntry
  | volumes => List VolumeEntry
  | storageClasses => List StorageClassEntry

/-- How a field is read from what is written for it. -/
def read : (field : SettingsField) → Tree → Except Mismatch field.Value
  | scalar leaf => leaf.kind.read
  | driverNames => Readable.list Readable.text
  | nodes => Readable.list NodeEntry.read
  | volumes => Readable.list VolumeEntry.read
  | storageClasses => Readable.list StorageClassEntry.read

/-- The section and the name of a field. -/
def place : SettingsField → String × String
  | scalar leaf => leaf.place
  | driverNames => Settings.driverNamesPlace
  | nodes => ("inventory", "nodes")
  | volumes => ("inventory", "volumes")
  | storageClasses => ("inventory", "storage_classes")

/-- The section of a field, if it may be left out. -/
def section? : SettingsField → Option OptionalSection
  | scalar leaf => leaf.section?
  | driverNames => some .collection
  | nodes | volumes | storageClasses => some .inventory

/-- What settings have in a field. -/
def get : (field : SettingsField) → Settings → field.Value
  | scalar leaf, settings => leaf.get settings
  | driverNames, settings => settings.collection.driverNames
  | nodes, settings => settings.inventory.nodes
  | volumes, settings => settings.inventory.volumes
  | storageClasses, settings => settings.inventory.storageClasses

/-- What a field is in the default of its section. -/
def default (field : SettingsField) : field.Value := field.get Leaf.nothingGiven

end SettingsField

/-- Settings made of their fields. -/
def Settings.ofFields (value : (field : SettingsField) → field.Value) : Settings :=
  .ofLeaves (fun leaf => value (.scalar leaf)) (value .driverNames)
    ⟨value .nodes, value .volumes, value .storageClasses⟩

@[simp] theorem SettingsField.get_ofFields (field : SettingsField)
    (value : (field : SettingsField) → field.Value) :
    field.get (.ofFields value) = value field := by
  cases field with
  | scalar leaf => exact leaf.get_ofLeaves _ _ _
  | driverNames | nodes | volumes | storageClasses => rfl

/-- Values for some of the fields. -/
abbrev GivenFields : Type := (field : SettingsField) → Option field.Value

namespace OptionalSection

def name : OptionalSection → String
  | collection => "collection"
  | election => "leader_election"
  | server => "server"
  | inventory => "inventory"

/-- Settings in which a section has its default. -/
def reset : OptionalSection → Settings → Settings
  | collection, settings => { settings with collection := .default }
  | election, settings => { settings with election := .default }
  | server, settings => { settings with server := .default }
  | inventory, settings => { settings with inventory := .empty }

/-- Settings in which a section has its default, but for the fields that are
given. -/
def override (part : OptionalSection) (given : GivenFields) (settings : Settings) : Settings :=
  .ofFields fun field =>
    if field.section? = some part then (given field).getD field.default else field.get settings

variable {part : OptionalSection} {settings : Settings}

theorem override_nothing : part.override (fun _ => none) settings = part.reset settings := by
  cases part <;> rfl

theorem gateway_override {given : GivenFields} :
    (part.override given settings).gateway = settings.gateway := by
  cases part <;> rfl

theorem get_override {given : GivenFields} {field : SettingsField}
    (own : field.section? = some part) :
    field.get (part.override given settings) = (given field).getD field.default := by
  rw [override, SettingsField.get_ofFields, if_pos own]

/-! ## Reading a section -/

/-- What a section is read as: what is written there, or else its default. -/
def Takes (part : OptionalSection) (settings : Settings) (found : Option Tree) : Prop :=
  match part with
  | collection =>
      StorageTelemetry.Takes CollectionSettings.read (some .default) settings.collection found
  | election =>
      StorageTelemetry.Takes ElectionSettings.read (some .default) settings.election found
  | server => StorageTelemetry.Takes ServerSettings.read (some .default) settings.server found
  | inventory => StorageTelemetry.Takes Inventory.read (some .empty) settings.inventory found

end OptionalSection

theorem Takes.none_iff {α : Type} {reader : Tree → Except Mismatch α} {default value : α}
    {tree : Tree} (reads : reader tree = .ok default) :
    Takes reader (some default) value none ↔ Takes reader (some default) value (some tree) := by
  rw [Takes, Takes, reads, Option.some.injEq, Except.ok.injEq]

theorem Inventory.read_table_eq_ok_iff {members : List (String × Tree)} {inventory : Inventory} :
    Inventory.read (Tree.table members) = .ok inventory ↔
      Takes (Readable.list NodeEntry.read) (some []) inventory.nodes (members.lookup "nodes") ∧
        Takes (Readable.list VolumeEntry.read) (some []) inventory.volumes
          (members.lookup "volumes") ∧
        Takes (Readable.list StorageClassEntry.read) (some []) inventory.storageClasses
          (members.lookup "storage_classes") := by
  simp (disch := decide) only [Inventory.read, Record.opened, bind_eq_ok_iff, Except.ok.injEq,
    exists_eq_left', Record.read_eq_ok_iff, Record.get?_ofTable_of_declared]
  constructor
  · rintro ⟨_, nodes, _, volumes, _, storageClasses, same⟩
    cases same
    exact ⟨nodes, volumes, storageClasses⟩
  · rintro ⟨nodes, volumes, storageClasses⟩
    exact ⟨_, nodes, _, volumes, _, storageClasses, rfl⟩

namespace OptionalSection

variable {part : OptionalSection} {settings : Settings}

/-- The defaults of the fields are those of the sections: a section that is left
out is an empty one. -/
theorem takes_none_iff : part.Takes settings none ↔ part.Takes settings (some (.table [])) := by
  cases part <;> exact StorageTelemetry.Takes.none_iff rfl

/-- A section that is a table is read field by field. -/
theorem takes_table_iff {members : List (String × Tree)} :
    part.Takes settings (some (.table members)) ↔
      ∀ field : SettingsField, field.section? = some part →
        StorageTelemetry.Takes field.read (some field.default) (field.get settings)
          (members.lookup field.place.2) := by
  cases part with
  | collection =>
      refine Iff.trans CollectionSettings.read_table_eq_ok_iff ⟨?_, fun takes => ?_⟩
      · rintro ⟨sdcInterval, volumeInterval, poolInterval, sdcEnabled, volumeEnabled, poolEnabled,
          queries, refreshInterval, timeout, driverNames⟩ (leaf | _) own
        · cases leaf <;> first | assumption | cases own
        all_goals first | assumption | cases own
      · exact ⟨takes (.scalar .sdcInterval) rfl, takes (.scalar .volumeInterval) rfl,
          takes (.scalar .poolInterval) rfl, takes (.scalar .sdcEnabled) rfl,
          takes (.scalar .volumeEnabled) rfl, takes (.scalar .poolEnabled) rfl,
          takes (.scalar .maxConcurrentQueries) rfl, takes (.scalar .tokenRefreshInterval) rfl,
          takes (.scalar .authTimeout) rfl, takes .driverNames rfl⟩
  | election =>
      refine Iff.trans ElectionSettings.read_table_eq_ok_iff ⟨?_, fun takes => ?_⟩
      · rintro ⟨enabled, endpoint, namespaceName⟩ (leaf | _) own
        · cases leaf <;> first | assumption | cases own
        all_goals cases own
      · exact ⟨takes (.scalar .electionEnabled) rfl, takes (.scalar .electionEndpoint) rfl,
          takes (.scalar .electionNamespace) rfl⟩
  | server =>
      refine Iff.trans ServerSettings.read_table_eq_ok_iff ⟨?_, fun takes => ?_⟩
      · rintro ⟨address, port⟩ (leaf | _) own
        · cases leaf <;> first | assumption | cases own
        all_goals cases own
      · exact ⟨takes (.scalar .address) rfl, takes (.scalar .port) rfl⟩
  | inventory =>
      refine Iff.trans Inventory.read_table_eq_ok_iff ⟨?_, fun takes => ?_⟩
      · rintro ⟨nodes, volumes, storageClasses⟩ (leaf | _) own
        · cases leaf <;> cases own
        all_goals first | assumption | cases own
      · exact ⟨takes .nodes rfl, takes .volumes rfl, takes .storageClasses rfl⟩

theorem place_of_section? {field : SettingsField} (own : field.section? = some part) :
    field.place.1 = part.name := by
  rcases field with leaf | _
  · cases leaf <;> cases own <;> rfl
  all_goals cases own; rfl

/-- A section that is left out or a table is read field by field. -/
theorem takes_iff_fields {tree : Tree}
    (table : (tree.members.lookup part.name).all Tree.isTable = true) :
    part.Takes settings (tree.members.lookup part.name) ↔
      ∀ field : SettingsField, field.section? = some part →
        StorageTelemetry.Takes field.read (some field.default) (field.get settings)
          (tree.at? field.place) := by
  have at?_eq : ∀ field : SettingsField, field.section? = some part →
      tree.at? field.place = (tree.partMembers part.name).lookup field.place.2 := by
    intro field own
    rw [← place_of_section? own, tree.lookup_partMembers]
  have opened : part.Takes settings (tree.members.lookup part.name) ↔
      part.Takes settings (some (.table (tree.partMembers part.name))) := by
    rw [Tree.partMembers]
    cases found : tree.members.lookup part.name with
    | none => exact takes_none_iff
    | some written =>
        rw [found] at table
        rw [Option.getD_some, ← Tree.isTable_iff.mp table]
  rw [opened, takes_table_iff]
  refine forall_congr' fun field => forall_congr' fun own => ?_
  rw [at?_eq field own]

/-- Other sections are not touched by overriding one. -/
theorem takes_override_of_ne {other : OptionalSection} (different : other ≠ part)
    {given : GivenFields} {found : Option Tree} :
    other.Takes (part.override given settings) found ↔ other.Takes settings found := by
  cases part <;> cases other <;> first | exact Iff.rfl | exact absurd rfl different

end OptionalSection

/-! ## Reading all sections -/

namespace Settings

variable {tree : Tree} {settings : Settings}

/-- Settings are read section by section, whatever the sections are written
as. -/
theorem read_eq_ok_iff_sections (table : tree.isTable = true) :
    read tree = .ok settings ↔
      Takes GatewaySettings.read none settings.gateway (tree.members.lookup "powerflex") ∧
        ∀ part : OptionalSection, part.Takes settings (tree.members.lookup part.name) := by
  simp (disch := decide) only [read, record_eq table, bind_eq_ok_iff, Except.ok.injEq,
    exists_eq_left', Record.read_eq_ok_iff, Record.require_eq_ok_iff,
    Record.get?_ofTable_of_declared]
  constructor
  · rintro ⟨_, given, _, collection, _, election, _, server, _, inventory, gateway, rfl, same⟩
    cases same
    rw [Record.read?_eq_ok_some_iff, Record.get?_ofTable_of_declared (by decide)] at given
    refine ⟨given, fun part => ?_⟩
    cases part with
    | collection => exact collection
    | election => exact election
    | server => exact server
    | inventory => exact inventory
  · rintro ⟨gateway, sections⟩
    refine ⟨some settings.gateway, ?_, _, sections .collection, _, sections .election, _,
      sections .server, _, sections .inventory, _, rfl, rfl⟩
    rw [Record.read?_eq_ok_some_iff, Record.get?_ofTable_of_declared (by decide)]
    exact gateway

end Settings

/-! ## Writing a section in another way -/

namespace Tree

/-- Whether two documents have the same in all places outside of a section. -/
def SameOutside (part : OptionalSection) (base tree : Tree) : Prop :=
  ∀ name ≠ part.name, tree.members.lookup name = base.members.lookup name

/-- Whether a document is another one in which a section is written with the
fields that are given.  The section may be left out or be a table, and each of
its other fields is left out or written with its default. -/
structure Rewrites (part : OptionalSection) (given : GivenFields) (base tree : Tree) : Prop where
  outside : SameOutside part base tree
  table : (tree.members.lookup part.name).all isTable = true
  mentioned : ∀ field value, field.section? = some part → given field = some value →
    ∃ written, tree.at? field.place = some written ∧ field.read written = .ok value
  others : ∀ field written, field.section? = some part → given field = none →
    tree.at? field.place = some written → field.read written = .ok field.default

variable {part : OptionalSection} {given : GivenFields} {base tree : Tree} {settings : Settings}

/-- A document with the section left out or empty is written with no fields
given. -/
theorem SameOutside.rewrites (outside : SameOutside part base tree)
    (bare : tree.members.lookup part.name = none ∨
      tree.members.lookup part.name = some (.table [])) :
    Rewrites part (fun _ => none) base tree where
  outside := outside
  table := by rcases bare with none | empty <;> simp [*, isTable]
  mentioned _ _ _ := nofun
  others field written own _ found := by
    rw [at?, OptionalSection.place_of_section? own] at found
    rcases bare with none | empty
    · rw [none] at found
      cases found
    · rw [empty] at found
      cases found

theorem Rewrites.takes (rewrites : Rewrites part given base tree) {field : SettingsField}
    (own : field.section? = some part) :
    Takes field.read (some field.default) ((given field).getD field.default)
      (tree.at? field.place) := by
  cases known : given field with
  | some value =>
      rcases rewrites.mentioned field value own known with ⟨written, found, reads⟩
      rw [found]
      exact reads
  | none =>
      cases found : tree.at? field.place with
      | none => rfl
      | some written => exact rewrites.others field written own known found

/-- The settings in a document that is written in another way. -/
theorem Rewrites.read_eq (rewrites : Rewrites part given base tree) (table : base.isTable = true)
    (table' : tree.isTable = true) (reads : Settings.read base = .ok settings) :
    Settings.read tree = .ok (part.override given settings) := by
  rcases (Settings.read_eq_ok_iff_sections table).mp reads with ⟨gateway, sections⟩
  refine (Settings.read_eq_ok_iff_sections table').mpr ⟨?_, fun other => ?_⟩
  · rw [OptionalSection.gateway_override, rewrites.outside "powerflex" (by cases part <;> decide)]
    exact gateway
  · by_cases own : other = part
    · subst own
      refine (OptionalSection.takes_iff_fields rewrites.table).mpr fun field own => ?_
      rw [OptionalSection.get_override own]
      exact rewrites.takes own
    · have elsewhere : other.name ≠ part.name := by
        cases part <;> cases other <;> first | decide | exact absurd rfl own
      rw [rewrites.outside other.name elsewhere, OptionalSection.takes_override_of_ne own]
      exact sections other

end Tree

/-- For every file and environment from which settings are loaded, and each
section that may be left out:

* if the section is left out or empty instead, and all else is the same, the
  settings are the same with the default of the section;
* if it is written with any fields given, and its others are left out or written
  with their defaults, they are the same with the default of the section but for
  the fields given, in whichever of these ways it is written;
* what a section that is a table, or left out, does not mention has its default.

A document may come from a file of either format, from the environment, or from
both. -/
theorem section_defaults_agree (file : Option SettingsFile) (environment : Environment)
    (settings : Settings) (loads : Settings.load file environment = .ok settings) (base : Tree)
    (built : Settings.document? file environment = some base) (part : OptionalSection) :
    (∀ file' environment' tree, Settings.document? file' environment' = some tree →
      Tree.SameOutside part base tree →
      tree.members.lookup part.name = none ∨ tree.members.lookup part.name = some (.table []) →
      Settings.load file' environment' = .ok (part.reset settings)) ∧
    (∀ given file' environment' tree, Settings.document? file' environment' = some tree →
      Tree.Rewrites part given base tree →
      Settings.load file' environment' = .ok (part.override given settings)) ∧
    ((base.members.lookup part.name).all Tree.isTable = true →
      ∀ field : SettingsField, field.section? = some part → base.at? field.place = none →
        field.get settings = field.default) := by
  have table := Settings.isTable_document built
  have reads := (Settings.load_eq_ok_iff_document built).mp loads
  have rewritten : ∀ given file' environment' tree,
      Settings.document? file' environment' = some tree → Tree.Rewrites part given base tree →
      Settings.load file' environment' = .ok (part.override given settings) := by
    intro given file' environment' tree built' rewrites
    apply (Settings.load_eq_ok_iff_document built').mpr
    exact rewrites.read_eq table (Settings.isTable_document built') reads
  refine ⟨fun file' environment' tree built' outside bare => ?_, rewritten,
    fun plain field own absent => ?_⟩
  · rw [← OptionalSection.override_nothing]
    exact rewritten _ file' environment' tree built' (outside.rewrites bare)
  · have sections := ((Settings.read_eq_ok_iff_sections table).mp reads).2 part
    have takes := (OptionalSection.takes_iff_fields plain).mp sections field own
    rw [absent] at takes
    exact (Option.some.inj takes).symm

/-- A file without a section for the server. -/
def serverlessFile : SettingsFile where
  format := .toml
  text := "[powerflex]\nendpoint = \"e\"\nusername = \"u\"\npassword = \"p\"\n"

/-- What is given for the port alone. -/
def portGiven (port : UInt16) : GivenFields
  | .scalar .port => some port
  | _ => none

/-- The environment writes the address of the server with its default and gives
the port. -/
theorem serverlessFile_with_default_address :
    let base : Settings :=
      ⟨⟨"e", "u", "p", false, none⟩, .default, .default, .default, .empty⟩
    let environment : Environment :=
      ⟨[("POWERFLEX_EXPORTER__SERVER__ADDR", "0.0.0.0"),
        ("POWERFLEX_EXPORTER__SERVER__PORT", "9100")]⟩
    Settings.load (some serverlessFile) ⟨[]⟩ = .ok base ∧
      Settings.load (some serverlessFile) environment =
        .ok { base with server := ⟨"0.0.0.0", 9100⟩ } := by
  intro base environment
  have alone : Settings.load (some serverlessFile) ⟨[]⟩ = .ok base :=
    eq_ok_of_toOption (by decide +kernel)
  refine ⟨alone, ?_⟩
  cases opened : serverlessFile.layer? with
  | none =>
      simp only [Settings.load, opened] at alone
      cases alone
  | some layer =>
      let tree := Settings.treeOf layer []
      let written := (tree.put Leaf.address.key (.text "0.0.0.0")).put Leaf.port.key (.text "9100")
      have port : written.at? Leaf.port.place = some (.text "9100") := by
        rw [Tree.at?_put Leaf.port.placeOf_key, if_pos rfl]
      have address : written.at? Leaf.address.place = some (.text "0.0.0.0") := by
        rw [Tree.at?_put Leaf.port.placeOf_key, if_neg (by decide),
          Tree.at?_put Leaf.address.placeOf_key, if_pos rfl]
      have rewrites : Tree.Rewrites .server (portGiven 9100) tree written := by
        refine ⟨fun name other => ?_, ?_, ?_, ?_⟩
        · rw [Tree.lookup_put_of_ne Leaf.port.placeOf_key _ _ other,
            Tree.lookup_put_of_ne Leaf.address.placeOf_key _ _ other]
        · rcases Tree.lookup_put_self Leaf.port.placeOf_key _ _ with ⟨members, found⟩
          exact found ▸ rfl
        · rintro (leaf | _) value own given <;> try cases given
          cases leaf <;> cases given
          exact ⟨_, port, rfl⟩
        · rintro (leaf | _) other own absent found <;> try cases own
          cases leaf <;> cases own
          · cases found.symm.trans address
            rfl
          · cases absent
      have agree := section_defaults_agree (some serverlessFile) ⟨[]⟩ base alone tree
        (Settings.document?_of_layer opened ⟨[]⟩) .server
      exact agree.2.1 (portGiven 9100) (some serverlessFile) environment written
        (Settings.document?_of_layer opened environment) rewrites

end StorageTelemetry
