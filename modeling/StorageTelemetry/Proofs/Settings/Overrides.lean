import Mathlib.Data.List.Perm.Basic
import StorageTelemetry.Proofs.Settings.Documents
import StorageTelemetry.Proofs.Settings.LeafReading

namespace StorageTelemetry

/-!
# The environment over a file

Variables that are leaves put texts at their places in the tree of a file.
Different leaves have different places, so each place has in the end the text
given for it, or what the file has there, in whichever order the variables are
read.  Settings are read leaf by leaf; so each leaf given is the converted text,
and everything else is as the file alone gives it.
-/

/-- Texts given for leaves. -/
abbrev GivenLeaves : Type := List (Leaf × String)

namespace GivenLeaves

/-- The leaves that are given. -/
def leaves (given : GivenLeaves) : List Leaf := given.map (·.1)

/-- The layer of the texts. -/
def layer (given : GivenLeaves) : List (String × Tree) :=
  given.map fun (leaf, text) => (leaf.key, .text text)

/-- Whether every text converts to the kind of its leaf. -/
def Converts (given : GivenLeaves) : Prop :=
  ∀ leaf text, (leaf, text) ∈ given → ∃ value, leaf.kind.read (.text text) = .ok value

variable {given : GivenLeaves} {tree : Tree} {leaf : Leaf} {text : String}

/-! ## The tree with the layer over it -/

theorem putAll_layer_cons (tree : Tree) (leaf : Leaf) (text : String) (rest : GivenLeaves) :
    tree.putAll (layer ((leaf, text) :: rest)) =
      (tree.put leaf.key (.text text)).putAll (layer rest) := rfl

/-- Places of other leaves, and places that are no leaves, stay as they are. -/
theorem at?_putAll_of_ne (tree : Tree) {place : String × String}
    (other : ∀ leaf ∈ given.leaves, place ≠ leaf.place) :
    (tree.putAll given.layer).at? place = tree.at? place := by
  induction given generalizing tree with
  | nil => rfl
  | cons first rest ih =>
      rcases first with ⟨leaf, text⟩
      have here : place ≠ leaf.place := other leaf List.mem_cons_self
      rw [putAll_layer_cons, ih _ fun leaf member => other leaf (List.mem_cons_of_mem _ member),
        Tree.at?_put leaf.placeOf_key, if_neg here]

theorem at?_putAll_of_not_mem (tree : Tree) (absent : leaf ∉ given.leaves) :
    (tree.putAll given.layer).at? leaf.place = tree.at? leaf.place :=
  at?_putAll_of_ne tree fun _ member same => absent (Leaf.place_injective same ▸ member)

/-- A leaf that is given has its text. -/
theorem at?_putAll_of_mem (tree : Tree) (distinct : given.leaves.Nodup)
    (member : (leaf, text) ∈ given) :
    (tree.putAll given.layer).at? leaf.place = some (.text text) := by
  induction given generalizing tree with
  | nil => cases member
  | cons first rest ih =>
      rcases first with ⟨other, text'⟩
      rcases List.nodup_cons.mp distinct with ⟨fresh, distinct⟩
      rw [putAll_layer_cons]
      rcases List.mem_cons.mp member with here | later
      · cases here
        rw [at?_putAll_of_not_mem _ fresh, Tree.at?_put leaf.placeOf_key, if_pos rfl]
      · exact ih _ distinct later

/-- What is no section with leaves stays as it is. -/
theorem lookup_putAll_of_ne (tree : Tree) {name : String} (other : name ∉ Leaf.sectionNames) :
    (tree.putAll given.layer).members.lookup name = tree.members.lookup name := by
  induction given generalizing tree with
  | nil => rfl
  | cons first rest ih =>
      rcases first with ⟨leaf, text⟩
      have here : name ≠ leaf.place.1 := fun same => other (same ▸ leaf.section_mem)
      rw [putAll_layer_cons, ih, Tree.lookup_put_of_ne leaf.placeOf_key tree text here]

/-- Sections stay tables, and the one for the gateway stays there. -/
theorem sectioned_putAll (sectioned : tree.Sectioned) :
    (tree.putAll given.layer).Sectioned := by
  induction given generalizing tree with
  | nil => exact sectioned
  | cons first rest ih =>
      rcases first with ⟨leaf, text⟩
      rw [putAll_layer_cons]
      refine ih ⟨Tree.isTable_put tree leaf.key _, ?_, ?_⟩
      · intro name known
        by_cases own : name = leaf.place.1
        · rcases Tree.lookup_put_self leaf.placeOf_key tree text with ⟨members, there⟩
          rw [own, there]
          rfl
        · rw [Tree.lookup_put_of_ne leaf.placeOf_key tree text own]
          exact sectioned.tables name known
      · by_cases own : "powerflex" = leaf.place.1
        · rcases Tree.lookup_put_self leaf.placeOf_key tree text with ⟨members, there⟩
          exact ⟨_, own ▸ there⟩
        · rw [Tree.lookup_put_of_ne leaf.placeOf_key tree text own]
          exact sectioned.gateway

/-! ## Settings with the layer over them -/

/-- Whether settings are others with the texts in place of what these have at
the leaves given. -/
structure Over (given : GivenLeaves) (base settings : Settings) : Prop where
  converted : ∀ leaf text, (leaf, text) ∈ given →
    leaf.kind.read (.text text) = .ok (leaf.get settings)
  others : ∀ leaf, leaf ∉ given.leaves → leaf.get settings = leaf.get base
  driverNames : settings.collection.driverNames = base.collection.driverNames
  inventory : settings.inventory = base.inventory

theorem inventory_putAll (tree : Tree) : (tree.putAll given.layer).inventory = tree.inventory := by
  rw [Tree.inventory, Tree.inventory, lookup_putAll_of_ne tree (by decide)]

theorem at?_driverNames (tree : Tree) :
    (tree.putAll given.layer).at? Settings.driverNamesPlace =
      tree.at? Settings.driverNamesPlace := by
  refine at?_putAll_of_ne tree fun leaf _ => ?_
  cases leaf <;> decide

/-- What is read from the tree with the layer over it, if settings are read
from the tree. -/
theorem read_putAll_eq_ok_iff (sectioned : tree.Sectioned) {base settings : Settings}
    (alone : Settings.read tree = .ok base) (distinct : given.leaves.Nodup) :
    Settings.read (tree.putAll given.layer) = .ok settings ↔ given.Over base settings := by
  rcases (Settings.read_eq_ok_iff sectioned).mp alone with ⟨fits, driverNames, inventory⟩
  rw [Settings.read_eq_ok_iff (sectioned_putAll sectioned), at?_driverNames, inventory_putAll]
  constructor
  · rintro ⟨fits', driverNames', inventory'⟩
    refine ⟨?_, ?_, driverNames'.unique driverNames, ?_⟩
    · intro leaf text member
      have read := fits' leaf
      rwa [Leaf.Fits, at?_putAll_of_mem tree distinct member] at read
    · intro leaf absent
      have read := fits' leaf
      rw [Leaf.Fits, at?_putAll_of_not_mem tree absent] at read
      exact read.unique (fits leaf)
    · exact Except.ok.inj (inventory'.symm.trans inventory)
  · intro laid
    refine ⟨fun leaf => ?_, laid.driverNames ▸ driverNames, laid.inventory ▸ inventory⟩
    rw [Leaf.Fits]
    by_cases member : leaf ∈ given.leaves
    · rcases List.mem_map.mp member with ⟨⟨_, text⟩, among, rfl⟩
      rw [at?_putAll_of_mem tree distinct among]
      exact laid.converted _ text among
    · rw [at?_putAll_of_not_mem tree member, laid.others leaf member]
      exact fits leaf

/-- If all texts convert there are settings with the texts over others. -/
theorem exists_over (converts : given.Converts) (distinct : given.leaves.Nodup)
    (base : Settings) : ∃ settings, given.Over base settings := by
  have one : ∀ leaf : Leaf, ∃ value : leaf.kind.Value,
      (∀ text, (leaf, text) ∈ given → leaf.kind.read (.text text) = .ok value) ∧
        (leaf ∉ given.leaves → value = leaf.get base) := by
    intro leaf
    by_cases member : leaf ∈ given.leaves
    · rcases List.mem_map.mp member with ⟨⟨_, text⟩, among, rfl⟩
      rcases converts _ text among with ⟨value, read⟩
      refine ⟨value, fun text' among' => ?_, fun absent => absurd member absent⟩
      have place := at?_putAll_of_mem (.table []) distinct among'
      rw [at?_putAll_of_mem (.table []) distinct among] at place
      cases place
      exact read
    · refine ⟨leaf.get base, fun text among => ?_, fun _ => rfl⟩
      exact absurd (List.mem_map_of_mem among) member
  choose value given' others using one
  refine ⟨.ofLeaves value base.collection.driverNames base.inventory, ?_, ?_, rfl, rfl⟩
  · intro leaf text member
    rw [Leaf.get_ofLeaves]
    exact given' leaf text member
  · intro leaf absent
    rw [Leaf.get_ofLeaves]
    exact others leaf absent

/-- In whichever order texts are put, the same stands at each place. -/
theorem at?_putAll_of_perm (tree : Tree) (distinct : given.leaves.Nodup) {other : GivenLeaves}
    (perm : other.Perm given) (place : String × String) :
    (tree.putAll other.layer).at? place = (tree.putAll given.layer).at? place := by
  have distinct' : other.leaves.Nodup := (perm.map _).nodup_iff.mpr distinct
  by_cases known : ∃ leaf text, (leaf, text) ∈ given ∧ place = leaf.place
  · rcases known with ⟨leaf, text, member, rfl⟩
    rw [at?_putAll_of_mem tree distinct member,
      at?_putAll_of_mem tree distinct' (perm.mem_iff.mpr member)]
  · have elsewhere : ∀ leaf ∈ given.leaves, place ≠ leaf.place := by
      intro leaf member same
      rcases List.mem_map.mp member with ⟨⟨_, text⟩, among, rfl⟩
      exact known ⟨_, text, among, same⟩
    rw [at?_putAll_of_ne tree elsewhere,
      at?_putAll_of_ne tree fun leaf member => elsewhere leaf ((perm.map _).mem_iff.mp member)]

/-- In whichever order texts are put, the tree is read alike. -/
theorem read_putAll_of_perm (sectioned : tree.Sectioned) (distinct : given.leaves.Nodup)
    {other : GivenLeaves} (perm : other.Perm given) :
    Settings.read (tree.putAll other.layer) = Settings.read (tree.putAll given.layer) := by
  apply Settings.read_congr (sectioned_putAll sectioned) (sectioned_putAll sectioned)
  · exact at?_putAll_of_perm tree distinct perm
  · rw [inventory_putAll, inventory_putAll]

/-- A layer in another order is that of the texts in another order. -/
theorem exists_layer_of_perm {layer : List (String × Tree)} (perm : layer.Perm given.layer) :
    ∃ other : GivenLeaves, layer = other.layer ∧ other.Perm given := by
  have composed := congrFun (congrFun (List.eq_map_comp_perm
    fun (leaf, text) => (Leaf.key leaf, Tree.text text)) layer) given
  exact composed.mpr perm

end GivenLeaves

namespace Settings

variable {file : SettingsFile} {layer : List (String × Tree)}

/-- Loading from a file whose layer is known. -/
theorem load_of_layer (opened : file.layer? = some layer) (environment : Environment) :
    load (some file) environment =
      (read ((treeOf layer []).putAll environment.layer)).mapError .deserialize :=
  load_of_document (document?_of_layer opened environment)

theorem load_eq_ok_iff (opened : file.layer? = some layer) {environment : Environment}
    {settings : Settings} :
    load (some file) environment = .ok settings ↔
      read ((treeOf layer []).putAll environment.layer) = .ok settings :=
  load_eq_ok_iff_document (document?_of_layer opened environment)

/-- Once a file is opened, loading fails only because something does not fit. -/
theorem exists_mismatch_of_load (opened : file.layer? = some layer) {environment : Environment}
    {failure : LoadFailure} (fails : load (some file) environment = .error failure) :
    ∃ mismatch, failure = .deserialize mismatch := by
  rw [load_of_layer opened] at fails
  cases answer : read ((treeOf layer []).putAll environment.layer) with
  | ok settings =>
      rw [answer] at fails
      cases fails
  | error mismatch =>
      rw [answer] at fails
      cases fails
      exact ⟨mismatch, rfl⟩

/-- Settings that a file alone gives come from a tree with sections. -/
theorem sectioned_of_load (opened : file.layer? = some layer)
    (tables : (treeOf layer []).SectionsAreTables) {base : Settings}
    (alone : load (some file) ⟨[]⟩ = .ok base) :
    (treeOf layer []).Sectioned ∧ read (treeOf layer []) = .ok base := by
  have reads : read (treeOf layer []) = .ok base := (load_eq_ok_iff opened).mp alone
  have table : (treeOf layer []).isTable = true :=
    Tree.isTable_putAll (Tree.isTable_putAll rfl layer) []
  exact ⟨⟨table, tables, exists_gateway_of_read table reads⟩, reads⟩

end Settings

/-- For every settings file whose sections are tables and from which settings
are loaded, and every environment whose settings are texts for different
leaves:

* if all texts convert, loading gives settings in which each leaf given is the
  converted text, and every other leaf, the driver names and the inventory are
  as the file alone gives them;
* otherwise what was put together does not fit;
* in whichever order the variables are read, the result is the same.

The file need not have the leaves that are given, nor the sections they are
in. -/
theorem environment_over_file (file : SettingsFile) (base : Settings)
    (tables : ∀ layer ∈ file.layer?, (Settings.treeOf layer []).SectionsAreTables)
    (alone : Settings.load (some file) ⟨[]⟩ = .ok base)
    (environment : Environment) (given : GivenLeaves) (named : environment.layer = given.layer)
    (distinct : given.leaves.Nodup) :
    (given.Converts → ∃ settings,
      Settings.load (some file) environment = .ok settings ∧ given.Over base settings) ∧
    (¬ given.Converts → ∃ mismatch,
      Settings.load (some file) environment = .error (.deserialize mismatch)) ∧
    ∀ other : Environment, other.assignments.Perm environment.assignments →
      Settings.load (some file) other = Settings.load (some file) environment := by
  cases opened : file.layer? with
  | none =>
      simp only [Settings.load, opened] at alone
      cases alone
  | some layer =>
      rcases Settings.sectioned_of_load opened (tables layer opened) alone with
        ⟨sectioned, reads⟩
      have loads_iff : ∀ {settings : Settings},
          Settings.load (some file) environment = .ok settings ↔ given.Over base settings := by
        intro settings
        rw [Settings.load_eq_ok_iff opened, named]
        exact GivenLeaves.read_putAll_eq_ok_iff sectioned reads distinct
      refine ⟨fun converts => ?_, fun fails => ?_, fun other perm => ?_⟩
      · rcases GivenLeaves.exists_over converts distinct base with ⟨settings, laid⟩
        exact ⟨settings, loads_iff.mpr laid, laid⟩
      · cases loads : Settings.load (some file) environment with
        | ok settings =>
            refine absurd (fun leaf text member => ?_) fails
            exact ⟨_, (loads_iff.mp loads).converted leaf text member⟩
        | error failure =>
            rcases Settings.exists_mismatch_of_load opened loads with ⟨mismatch, rfl⟩
            exact ⟨mismatch, rfl⟩
      · have layers : other.layer.Perm given.layer := named ▸ perm.filterMap _
        rcases GivenLeaves.exists_layer_of_perm layers with ⟨given', named', perm'⟩
        rw [Settings.load_of_layer opened, Settings.load_of_layer opened, named, named',
          GivenLeaves.read_putAll_of_perm sectioned distinct perm']

/-- A file without a section for the server. -/
def gatewayFile : SettingsFile where
  format := .json
  text :=
    "\x7b\"powerflex\": \x7b\"endpoint\": \"e\", \"username\": \"u\", " ++
      "\"password\": \"p\"\x7d\x7d"

/-- A port and a flag from the environment over such a file. -/
theorem gatewayFile_with_port :
    let base : Settings :=
      ⟨⟨"e", "u", "p", false, none⟩, .default, .default, .default, .empty⟩
    let environment : Environment :=
      ⟨[("POWERFLEX_EXPORTER__SERVER__PORT", "9100"),
        ("POWERFLEX_EXPORTER__POWERFLEX__INSECURE", "Yes")]⟩
    ∃ settings, Settings.load (some gatewayFile) environment = .ok settings ∧
      GivenLeaves.Over [(.port, "9100"), (.insecure, "Yes")] base settings := by
  intro base environment
  have alone : Settings.load (some gatewayFile) ⟨[]⟩ = .ok base := by
    have loads : (Settings.load (some gatewayFile) ⟨[]⟩).toOption = some base := by decide +kernel
    cases known : Settings.load (some gatewayFile) ⟨[]⟩ with
    | error failure =>
        rw [known] at loads
        cases loads
    | ok settings =>
        rw [known] at loads
        exact congrArg Except.ok (Option.some.inj loads)
  have loads := environment_over_file gatewayFile base (by decide +kernel) alone environment
    [(.port, "9100"), (.insecure, "Yes")] rfl (by decide)
  refine loads.1 fun leaf text member => ?_
  simp only [List.mem_cons, List.not_mem_nil, or_false, Prod.mk.injEq] at member
  rcases member with ⟨rfl, rfl⟩ | ⟨rfl, rfl⟩
  · exact ⟨(9100 : UInt16), rfl⟩
  · exact ⟨true, rfl⟩

end StorageTelemetry
