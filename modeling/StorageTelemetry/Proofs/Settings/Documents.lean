import StorageTelemetry.Proofs.Settings.Places
import StorageTelemetry.Settings.Load

namespace StorageTelemetry

/-!
# What settings are read from

A file and the environment come down to one tree, and loading is reading that
tree.  The tree is a table in any case, since layers are put into one.
-/

namespace Settings

/-- The tree that settings are read from. -/
def document? (file : Option SettingsFile) (environment : Environment) : Option Tree :=
  (match file with
    | some file => file.layer?
    | none => some []).map fun layer => treeOf layer environment.layer

variable {file : Option SettingsFile} {environment : Environment} {tree : Tree}

theorem load_of_document (built : document? file environment = some tree) :
    load file environment = (read tree).mapError .deserialize := by
  cases file with
  | none =>
      cases built
      rfl
  | some file =>
      rcases Option.map_eq_some_iff.mp built with ⟨layer, opened, rfl⟩
      have opened : file.layer? = some layer := opened
      simp only [load, opened]

theorem load_eq_ok_iff_document (built : document? file environment = some tree)
    {settings : Settings} : load file environment = .ok settings ↔ read tree = .ok settings := by
  rw [load_of_document built]
  cases read tree with
  | ok found =>
      constructor
      · rintro ⟨⟩
        rfl
      · rintro ⟨⟩
        rfl
  | error mismatch => exact iff_of_false nofun nofun

theorem isTable_document (built : document? file environment = some tree) :
    tree.isTable = true := by
  rcases Option.map_eq_some_iff.mp built with ⟨layer, _, rfl⟩
  exact Tree.isTable_putAll (Tree.isTable_putAll rfl layer) environment.layer

/-- The tree of a file whose layer is known. -/
theorem document?_of_layer {file : SettingsFile} {layer : List (String × Tree)}
    (opened : file.layer? = some layer) (environment : Environment) :
    document? (some file) environment = some ((treeOf layer []).putAll environment.layer) :=
  congrArg (Option.map fun layer => treeOf layer environment.layer) opened

end Settings

theorem eq_ok_of_toOption {ε α : Type} {answer : Except ε α} {value : α}
    (found : answer.toOption = some value) : answer = .ok value := by
  cases answer with
  | error fault => cases found
  | ok answer => exact congrArg Except.ok (Option.some.inj found)

end StorageTelemetry
