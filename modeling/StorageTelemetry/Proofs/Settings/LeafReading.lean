import StorageTelemetry.Proofs.Records
import StorageTelemetry.Proofs.Settings.Leaves

namespace StorageTelemetry

/-!
# Reading leaf by leaf

If the sections of a tree are tables, reading it succeeds with some settings
exactly if each leaf, on its own, is read as the settings have it.  And trees
that have the same at every place are read alike, faults included.
-/

/-- What a field is read as: what is given there, or else its default. -/
def Takes {α : Type} (reader : Tree → Except Mismatch α) (default? : Option α) (value : α) :
    Option Tree → Prop
  | some tree => reader tree = .ok value
  | none => default? = some value

theorem Takes.unique {α : Type} {reader : Tree → Except Mismatch α} {default? : Option α}
    {first second : α} {found : Option Tree} (one : Takes reader default? first found)
    (other : Takes reader default? second found) : first = second := by
  cases found with
  | none => exact Option.some.inj (one.symm.trans other)
  | some tree => exact Except.ok.inj (one.symm.trans other)

/-! ## Records -/

namespace Record

variable {α : Type} {record : Record Tree} {name : String} {reader : Tree → Except Mismatch α}

theorem read_eq_ok_iff {default value : α} :
    record.read name reader default = .ok value ↔
      Takes reader (some default) value (record.get? name) := by
  unfold read read?
  cases record.get? name with
  | none => simp [Takes, Except.map]
  | some tree =>
      cases answer : reader tree <;> simp [Takes, Except.map, answer]

theorem read?_eq_ok_some_iff {value : α} :
    record.read? name reader = .ok (some value) ↔ Takes reader none value (record.get? name) := by
  unfold read?
  cases record.get? name with
  | none => simp [Takes]
  | some tree =>
      cases answer : reader tree <;> simp [Takes, Except.map, answer]

theorem require_eq_ok_iff {found : Option α} {value : α} :
    record.require name found = .ok value ↔ found = some value := by
  cases found <;> simp [require]

/-- The declared fields of a table. -/
def ofTable (names : List String) (members : List (String × Tree)) : Record Tree :=
  ⟨members.filter fun member => names.contains member.1, .missingField⟩

theorem opened (title : String) (names : List String) (members : List (String × Tree)) :
    Readable.record title names (Tree.table members) = .ok (ofTable names members) := rfl

theorem get?_ofTable (names : List String) (members : List (String × Tree)) (name : String) :
    (ofTable names members).get? name =
      if names.contains name then members.lookup name else none := by
  simp only [get?, ofTable]
  induction members with
  | nil => simp
  | cons member rest ih =>
      rcases member with ⟨own, tree⟩
      cases declared : names.contains own with
      | true =>
          simp only [List.filter_cons, declared, if_true, Tree.lookup_member, ih]
          by_cases same : name = own
          · rw [same, if_pos rfl, if_pos rfl, declared, if_pos rfl]
          · rw [if_neg same, if_neg same]
      | false =>
          simp only [List.filter_cons, declared, Bool.false_eq_true, if_false,
            Tree.lookup_member, ih]
          by_cases same : name = own
          · rw [same, declared, if_neg Bool.false_ne_true, if_neg Bool.false_ne_true]
          · rw [if_neg same]

theorem get?_ofTable_of_declared {names : List String} {name : String}
    (declared : names.contains name = true) (members : List (String × Tree)) :
    (ofTable names members).get? name = members.lookup name := by
  rw [get?_ofTable, if_pos declared]

end Record

/-! ## Sections -/

variable {members : List (String × Tree)}

theorem GatewaySettings.read_table_eq_ok_iff {settings : GatewaySettings} :
    GatewaySettings.read (Tree.table members) = .ok settings ↔
      Takes Readable.text none settings.endpoint (members.lookup "endpoint") ∧
        Takes Readable.text none settings.username (members.lookup "username") ∧
        Takes Readable.text none settings.password (members.lookup "password") ∧
        Takes Readable.flag (some false) settings.insecure (members.lookup "insecure") ∧
        Takes Readable.optionalText (some none) settings.certPath
          (members.lookup "cert_path") := by
  simp (disch := decide) only [GatewaySettings.read, Record.opened, bind_eq_ok_iff, Except.ok.injEq,
    exists_eq_left', Record.read_eq_ok_iff, Record.require_eq_ok_iff,
    Record.get?_ofTable_of_declared]
  constructor
  · rintro ⟨_, endpoint, _, username, _, password, insecure, flag, certPath, path, _, rfl, _, rfl,
      _, rfl, same⟩
    cases same
    rw [Record.read?_eq_ok_some_iff] at endpoint username password
    simp (disch := decide) only [Record.get?_ofTable_of_declared] at endpoint username password
    exact ⟨endpoint, username, password, flag, path⟩
  · rintro ⟨endpoint, username, password, flag, path⟩
    refine ⟨some settings.endpoint, ?_, some settings.username, ?_, some settings.password, ?_,
      _, flag, _, path, _, rfl, _, rfl, _, rfl, rfl⟩
    all_goals
      rw [Record.read?_eq_ok_some_iff]
      simpa (disch := decide) only [Record.get?_ofTable_of_declared]

theorem ElectionSettings.read_table_eq_ok_iff {settings : ElectionSettings} :
    ElectionSettings.read (Tree.table members) = .ok settings ↔
      Takes Readable.flag (some ElectionSettings.default.enabled) settings.enabled
          (members.lookup "enabled") ∧
        Takes Readable.text (some ElectionSettings.default.endpoint) settings.endpoint
          (members.lookup "endpoint") ∧
        Takes Readable.text (some ElectionSettings.default.namespaceName) settings.namespaceName
          (members.lookup "namespace") := by
  simp (disch := decide) only [ElectionSettings.read, Record.opened, bind_eq_ok_iff,
    Except.ok.injEq, exists_eq_left', Record.read_eq_ok_iff, Record.get?_ofTable_of_declared]
  constructor
  · rintro ⟨_, enabled, _, endpoint, _, name, same⟩
    cases same
    exact ⟨enabled, endpoint, name⟩
  · rintro ⟨enabled, endpoint, name⟩
    exact ⟨_, enabled, _, endpoint, _, name, rfl⟩

theorem ServerSettings.read_table_eq_ok_iff {settings : ServerSettings} :
    ServerSettings.read (Tree.table members) = .ok settings ↔
      Takes Readable.text (some ServerSettings.default.address) settings.address
          (members.lookup "addr") ∧
        Takes Readable.word16 (some ServerSettings.default.port) settings.port
          (members.lookup "port") := by
  simp (disch := decide) only [ServerSettings.read, Record.opened, bind_eq_ok_iff, Except.ok.injEq,
    exists_eq_left', Record.read_eq_ok_iff, Record.get?_ofTable_of_declared]
  constructor
  · rintro ⟨_, address, _, port, same⟩
    cases same
    exact ⟨address, port⟩
  · rintro ⟨address, port⟩
    exact ⟨_, address, _, port, rfl⟩

theorem CollectionSettings.read_table_eq_ok_iff {settings : CollectionSettings} :
    CollectionSettings.read (Tree.table members) = .ok settings ↔
      Takes Readable.word (some CollectionSettings.default.sdcInterval) settings.sdcInterval
          (members.lookup "sdc_poll_interval_seconds") ∧
        Takes Readable.word (some CollectionSettings.default.volumeInterval)
          settings.volumeInterval (members.lookup "volume_poll_interval_seconds") ∧
        Takes Readable.word (some CollectionSettings.default.poolInterval) settings.poolInterval
          (members.lookup "storage_pool_poll_interval_seconds") ∧
        Takes Readable.flag (some CollectionSettings.default.sdcEnabled) settings.sdcEnabled
          (members.lookup "sdc_metrics_enabled") ∧
        Takes Readable.flag (some CollectionSettings.default.volumeEnabled)
          settings.volumeEnabled (members.lookup "volume_metrics_enabled") ∧
        Takes Readable.flag (some CollectionSettings.default.poolEnabled) settings.poolEnabled
          (members.lookup "storage_pool_metrics_enabled") ∧
        Takes Readable.word (some CollectionSettings.default.maxConcurrentQueries)
          settings.maxConcurrentQueries (members.lookup "max_concurrent_queries") ∧
        Takes Readable.word (some CollectionSettings.default.tokenRefreshInterval)
          settings.tokenRefreshInterval (members.lookup "token_refresh_interval_seconds") ∧
        Takes Readable.word (some CollectionSettings.default.authTimeout) settings.authTimeout
          (members.lookup "auth_timeout_seconds") ∧
        Takes (Readable.list Readable.text) (some CollectionSettings.default.driverNames)
          settings.driverNames (members.lookup "driver_names") := by
  simp (disch := decide) only [CollectionSettings.read, Record.opened, bind_eq_ok_iff,
    Except.ok.injEq, exists_eq_left', Record.read_eq_ok_iff, Record.get?_ofTable_of_declared]
  constructor
  · rintro ⟨_, sdcInterval, _, volumeInterval, _, poolInterval, _, sdcEnabled, _, volumeEnabled,
      _, poolEnabled, _, queries, _, refreshInterval, _, timeout, _, driverNames, same⟩
    cases same
    exact ⟨sdcInterval, volumeInterval, poolInterval, sdcEnabled, volumeEnabled, poolEnabled,
      queries, refreshInterval, timeout, driverNames⟩
  · rintro ⟨sdcInterval, volumeInterval, poolInterval, sdcEnabled, volumeEnabled, poolEnabled,
      queries, refreshInterval, timeout, driverNames⟩
    exact ⟨_, sdcInterval, _, volumeInterval, _, poolInterval, _, sdcEnabled, _, volumeEnabled,
      _, poolEnabled, _, queries, _, refreshInterval, _, timeout, _, driverNames, rfl⟩

/-! ## Sections that are read alike -/

section

variable {members' : List (String × Tree)}

theorem Record.read_ofTable_congr (same : ∀ name, members.lookup name = members'.lookup name)
    (names : List String) {α : Type} (name : String) (reader : Tree → Except Mismatch α)
    (default : α) :
    (ofTable names members).read name reader default =
      (ofTable names members').read name reader default := by
  simp only [read, read?, get?_ofTable, same]

theorem GatewaySettings.read_table_congr
    (same : ∀ name, members.lookup name = members'.lookup name) :
    GatewaySettings.read (Tree.table members) = GatewaySettings.read (Tree.table members') := by
  simp only [GatewaySettings.read, Record.opened, bind, Except.bind, Record.read_ofTable_congr same,
    Record.read?, Record.get?_ofTable, same]
  rfl

theorem CollectionSettings.read_table_congr
    (same : ∀ name, members.lookup name = members'.lookup name) :
    CollectionSettings.read (Tree.table members) =
      CollectionSettings.read (Tree.table members') := by
  simp only [CollectionSettings.read, Record.opened, bind, Except.bind,
    Record.read_ofTable_congr same]

theorem ElectionSettings.read_table_congr
    (same : ∀ name, members.lookup name = members'.lookup name) :
    ElectionSettings.read (Tree.table members) = ElectionSettings.read (Tree.table members') := by
  simp only [ElectionSettings.read, Record.opened, bind, Except.bind,
    Record.read_ofTable_congr same]

theorem ServerSettings.read_table_congr
    (same : ∀ name, members.lookup name = members'.lookup name) :
    ServerSettings.read (Tree.table members) = ServerSettings.read (Tree.table members') := by
  simp only [ServerSettings.read, Record.opened, bind, Except.bind, Record.read_ofTable_congr same]

end

/-! ## Trees with sections -/

namespace Tree

/-- Whether the sections of a tree are tables, as far as they are there. -/
def SectionsAreTables (tree : Tree) : Prop :=
  ∀ name ∈ Leaf.sectionNames, (tree.members.lookup name).all isTable = true

instance (tree : Tree) : Decidable tree.SectionsAreTables :=
  inferInstanceAs (Decidable (∀ name ∈ Leaf.sectionNames,
    (tree.members.lookup name).all isTable = true))

/-- A section that is there is a table. -/
theorem SectionsAreTables.eq_table {tree : Tree} (sectioned : tree.SectionsAreTables)
    {name : String} (known : name ∈ Leaf.sectionNames) {part : Tree}
    (found : tree.members.lookup name = some part) : part = .table part.members := by
  have table := sectioned name known
  rw [found] at table
  exact isTable_iff.mp table

/-- What is in a section, nothing if there is none. -/
def partMembers (tree : Tree) (name : String) : List (String × Tree) :=
  ((tree.members.lookup name).getD (.table [])).members

theorem lookup_partMembers (tree : Tree) (place : String × String) :
    (tree.partMembers place.1).lookup place.2 = tree.at? place := by
  rw [partMembers, at?]
  cases tree.members.lookup place.1 <;> rfl

section

variable {tree : Tree} {names : List String} {name : String} {α : Type}
  {reader : Tree → Except Mismatch α}

/-- A section that is left out is read as an empty one. -/
theorem SectionsAreTables.read_eq (sectioned : tree.SectionsAreTables)
    (known : name ∈ Leaf.sectionNames) (declared : names.contains name = true) {default : α}
    (empty : reader (.table []) = .ok default) :
    (Record.ofTable names tree.members).read name reader default =
      reader (.table (tree.partMembers name)) := by
  rw [Record.read, Record.read?, Record.get?_ofTable_of_declared declared, partMembers]
  cases found : tree.members.lookup name with
  | none => exact empty.symm
  | some part =>
      rw [Option.getD_some, ← sectioned.eq_table known found]
      dsimp only
      cases reader part <;> rfl

/-- A section that is there is read by itself. -/
theorem SectionsAreTables.read?_eq (sectioned : tree.SectionsAreTables)
    (known : name ∈ Leaf.sectionNames) (declared : names.contains name = true) {part : Tree}
    (found : tree.members.lookup name = some part) :
    (Record.ofTable names tree.members).read? name reader =
      (reader (.table (tree.partMembers name))).map some := by
  rw [Record.read?, Record.get?_ofTable_of_declared declared, partMembers, found,
    Option.getD_some, ← sectioned.eq_table known found]

end

/-- The inventory of a tree, which has no leaves. -/
def inventory (tree : Tree) : Except Mismatch Inventory :=
  match tree.members.lookup "inventory" with
  | some given => Inventory.read given
  | none => .ok .empty

/-- Whether a tree is a table, with tables as its sections, and has the section
for the gateway. -/
structure Sectioned (tree : Tree) : Prop where
  table : tree.isTable = true
  tables : tree.SectionsAreTables
  gateway : ∃ part, tree.members.lookup "powerflex" = some part

end Tree

namespace Settings

variable {tree other : Tree} {settings : Settings}

theorem record_eq (table : tree.isTable = true) :
    Readable.record "struct Config"
        ["powerflex", "collection", "leader_election", "server", "inventory"] tree =
      .ok (.ofTable ["powerflex", "collection", "leader_election", "server", "inventory"]
        tree.members) := by
  rw [Tree.isTable_iff.mp table, Record.opened]
  rfl

/-- Settings are read section by section. -/
theorem read_eq_sections (sectioned : tree.Sectioned) :
    read tree = do
      let gateway ← GatewaySettings.read (Tree.table (tree.partMembers "powerflex"))
      let collection ← CollectionSettings.read (Tree.table (tree.partMembers "collection"))
      let election ← ElectionSettings.read (Tree.table (tree.partMembers "leader_election"))
      let server ← ServerSettings.read (Tree.table (tree.partMembers "server"))
      let inventory ← tree.inventory
      return { gateway, collection, election, server, inventory } := by
  have gateway : ∀ names : List String, names.contains "powerflex" = true →
      (Record.ofTable names tree.members).read? "powerflex" GatewaySettings.read =
        (GatewaySettings.read (Tree.table (tree.partMembers "powerflex"))).map some := by
    intro names declared
    rcases sectioned.gateway with ⟨part, found⟩
    exact sectioned.tables.read?_eq (by decide) declared found
  have collection : ∀ names : List String, names.contains "collection" = true →
      (Record.ofTable names tree.members).read "collection" CollectionSettings.read .default =
        CollectionSettings.read (Tree.table (tree.partMembers "collection")) :=
    fun _ declared => sectioned.tables.read_eq (by decide) declared rfl
  have election : ∀ names : List String, names.contains "leader_election" = true →
      (Record.ofTable names tree.members).read "leader_election" ElectionSettings.read .default =
        ElectionSettings.read (Tree.table (tree.partMembers "leader_election")) :=
    fun _ declared => sectioned.tables.read_eq (by decide) declared rfl
  have server : ∀ names : List String, names.contains "server" = true →
      (Record.ofTable names tree.members).read "server" ServerSettings.read .default =
        ServerSettings.read (Tree.table (tree.partMembers "server")) :=
    fun _ declared => sectioned.tables.read_eq (by decide) declared rfl
  have inventory : ∀ names : List String, names.contains "inventory" = true →
      (Record.ofTable names tree.members).read "inventory" Inventory.read .empty =
        tree.inventory := by
    intro names declared
    rw [Record.read, Record.read?, Record.get?_ofTable_of_declared declared, Tree.inventory]
    cases tree.members.lookup "inventory" with
    | none => rfl
    | some given =>
        dsimp only
        cases Inventory.read given <;> rfl
  simp (disch := decide) only [read, record_eq sectioned.table, bind, Except.bind, gateway,
    collection, election, server, inventory]
  cases GatewaySettings.read (Tree.table (tree.partMembers "powerflex")) <;> rfl

/-- Without the section for the gateway there are no settings. -/
theorem exists_gateway_of_read (table : tree.isTable = true)
    (reads : read tree = .ok settings) : ∃ part, tree.members.lookup "powerflex" = some part := by
  simp only [read, record_eq table, bind_eq_ok_iff, Except.ok.injEq, exists_eq_left',
    Record.require_eq_ok_iff] at reads
  rcases reads with ⟨gateway, found, _, _, _, _, _, _, _, _, _, rfl, _⟩
  rw [Record.read?_eq_ok_some_iff, Record.get?_ofTable_of_declared (by decide)] at found
  cases known : tree.members.lookup "powerflex" with
  | some part => exact ⟨part, rfl⟩
  | none =>
      rw [known] at found
      cases found

end Settings

/-- Whether a leaf, read on its own, is as settings have it. -/
def Leaf.Fits (leaf : Leaf) (tree : Tree) (settings : Settings) : Prop :=
  Takes leaf.kind.read leaf.default? (leaf.get settings) (tree.at? leaf.place)

namespace Settings

variable {tree other : Tree} {settings : Settings}

/-- Where the driver names stand. -/
def driverNamesPlace : String × String := ("collection", "driver_names")

/-- Settings are read leaf by leaf. -/
theorem read_eq_ok_iff (sectioned : tree.Sectioned) :
    read tree = .ok settings ↔
      (∀ leaf : Leaf, leaf.Fits tree settings) ∧
        Takes (Readable.list Readable.text) (some CollectionSettings.default.driverNames)
          settings.collection.driverNames (tree.at? driverNamesPlace) ∧
        tree.inventory = .ok settings.inventory := by
  simp only [read_eq_sections sectioned, bind_eq_ok_iff, GatewaySettings.read_table_eq_ok_iff,
    CollectionSettings.read_table_eq_ok_iff, ElectionSettings.read_table_eq_ok_iff,
    ServerSettings.read_table_eq_ok_iff]
  constructor
  · rintro ⟨gateway, ⟨endpoint, username, password, insecure, certPath⟩, collection,
      ⟨sdcInterval, volumeInterval, poolInterval, sdcEnabled, volumeEnabled, poolEnabled,
        maxConcurrentQueries, tokenRefreshInterval, authTimeout, driverNames⟩, election,
      ⟨electionEnabled, electionEndpoint, electionNamespace⟩, server, ⟨address, port⟩, inventory,
      given, same⟩
    cases same
    refine ⟨fun leaf => ?_, ?_, given⟩
    · rw [Leaf.Fits, ← tree.lookup_partMembers]
      cases leaf <;> assumption
    · rw [← tree.lookup_partMembers]
      exact driverNames
  · rintro ⟨fits, driverNames, given⟩
    have leaf : ∀ leaf : Leaf, Takes leaf.kind.read leaf.default? (leaf.get settings)
        ((tree.partMembers leaf.place.1).lookup leaf.place.2) := by
      intro leaf
      rw [tree.lookup_partMembers]
      exact fits leaf
    rw [← tree.lookup_partMembers] at driverNames
    exact ⟨settings.gateway,
      ⟨leaf .endpoint, leaf .username, leaf .password, leaf .insecure, leaf .certPath⟩,
      settings.collection,
      ⟨leaf .sdcInterval, leaf .volumeInterval, leaf .poolInterval, leaf .sdcEnabled,
        leaf .volumeEnabled, leaf .poolEnabled, leaf .maxConcurrentQueries,
        leaf .tokenRefreshInterval, leaf .authTimeout, driverNames⟩,
      settings.election,
      ⟨leaf .electionEnabled, leaf .electionEndpoint, leaf .electionNamespace⟩,
      settings.server, ⟨leaf .address, leaf .port⟩, settings.inventory, given, rfl⟩

/-- Trees that have the same at every place, and the same inventory, are read
alike. -/
theorem read_congr (sectioned : tree.Sectioned) (sectioned' : other.Sectioned)
    (same : ∀ place, tree.at? place = other.at? place)
    (inventory : tree.inventory = other.inventory) :
    read tree = read other := by
  have parts : ∀ part name, (tree.partMembers part).lookup name =
      (other.partMembers part).lookup name := by
    intro part name
    exact (tree.lookup_partMembers (part, name)).trans
      ((same (part, name)).trans (other.lookup_partMembers (part, name)).symm)
  rw [read_eq_sections sectioned, read_eq_sections sectioned', inventory,
    GatewaySettings.read_table_congr (parts "powerflex"),
    CollectionSettings.read_table_congr (parts "collection"),
    ElectionSettings.read_table_congr (parts "leader_election"),
    ServerSettings.read_table_congr (parts "server")]

end Settings
end StorageTelemetry
