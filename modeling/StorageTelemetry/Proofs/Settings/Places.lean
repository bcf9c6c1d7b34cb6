import StorageTelemetry.Document.Tree

namespace StorageTelemetry

/-!
# What stands at a place

The settings of a section stand in a table within a table, so a place is named
by two names.  Putting a text at one place leaves every other place as it was,
whether or not the section was there before.
-/

namespace Tree

/-- What stands in a part of a tree under a name. -/
def at? (tree : Tree) (place : String × String) : Option Tree :=
  (tree.members.lookup place.1).bind fun part => part.members.lookup place.2

theorem lookup_member (name own : String) (tree : Tree) (rest : List (String × Tree)) :
    ((own, tree) :: rest).lookup name = if name = own then some tree else rest.lookup name := by
  by_cases same : name = own
  · rw [same, List.lookup_cons_self, if_pos rfl]
  · rw [List.lookup_cons, beq_false_of_ne same, if_neg same]

theorem lookup_modifyMember (name key : String) (change : Tree → Tree)
    (members : List (String × Tree)) :
    (modifyMember key change members).lookup name =
      if name = key then some (change ((members.lookup key).getD .null))
      else members.lookup name := by
  induction members with
  | nil => exact lookup_member name key (change .null) []
  | cons member rest ih =>
      rcases member with ⟨own, tree⟩
      by_cases here : own = key
      · subst here
        by_cases same : name = own <;> simp [modifyMember, lookup_member, same]
      · have elsewhere : ¬ key = own := fun equal => here equal.symm
        by_cases same : name = own
        · simp [modifyMember, here, same]
        · simp [modifyMember, lookup_member, here, same, elsewhere, ih]

section

variable {key : String} {place : String × String}

/-- A text is put into a part, which becomes a table. -/
theorem put_eq (named : placeOf key = [.key place.1, .key place.2]) (tree : Tree) (text : String) :
    tree.put key (.text text) =
      .table (modifyMember place.1
        (fun part => .table (modifyMember place.2 (fun _ => .text text) part.members))
        tree.members) := by
  rw [put, named]
  rfl

/-- Other parts are left alone. -/
theorem lookup_put_of_ne (named : placeOf key = [.key place.1, .key place.2]) (tree : Tree)
    (text : String) {name : String} (other : name ≠ place.1) :
    (tree.put key (.text text)).members.lookup name = tree.members.lookup name := by
  rw [put_eq named, members, lookup_modifyMember, if_neg other]

theorem lookup_put_self (named : placeOf key = [.key place.1, .key place.2]) (tree : Tree)
    (text : String) :
    ∃ members, (tree.put key (.text text)).members.lookup place.1 = some (.table members) := by
  rw [put_eq named, members, lookup_modifyMember, if_pos rfl]
  exact ⟨_, rfl⟩

/-- Other places are left alone. -/
theorem at?_put (named : placeOf key = [.key place.1, .key place.2]) (tree : Tree) (text : String)
    (other : String × String) :
    (tree.put key (.text text)).at? other =
      if other = place then some (.text text) else tree.at? other := by
  rcases other with ⟨part, name⟩
  by_cases inPart : part = place.1
  · subst inPart
    have found : (tree.put key (.text text)).at? (place.1, name) =
        (modifyMember place.2 (fun _ => .text text)
          ((tree.members.lookup place.1).getD .null).members).lookup name := by
      rw [at?, put_eq named, members, lookup_modifyMember, if_pos rfl]
      rfl
    have before : tree.at? (place.1, name) =
        ((tree.members.lookup place.1).getD .null).members.lookup name := by
      rw [at?]
      cases tree.members.lookup place.1 <;> rfl
    by_cases same : name = place.2
    · subst same
      rw [found, lookup_modifyMember, if_pos rfl, if_pos rfl]
    · rw [found, lookup_modifyMember, if_neg same, before, if_neg]
      exact fun equal => same (congrArg Prod.snd equal)
  · rw [at?, lookup_put_of_ne named tree text inPart, if_neg]
    · rfl
    · exact fun equal => inPart (congrArg Prod.fst equal)

end

/-! ## Tables stay tables -/

def isTable : Tree → Bool
  | table _ => true
  | _ => false

theorem isTable_iff {tree : Tree} : tree.isTable = true ↔ tree = .table tree.members := by
  cases tree <;> simp [isTable, members]

theorem exists_placeOf (key : String) : ∃ name rest, placeOf key = .key name :: rest := by
  unfold placeOf place?
  cases name? key.toList with
  | none => exact ⟨key, [], rfl⟩
  | some found =>
      rcases found with ⟨name, rest⟩
      cases steps : steps? rest.length rest with
      | none => exact ⟨key, [], by simp [steps]⟩
      | some steps' => exact ⟨name, steps', by simp [steps]⟩

theorem isTable_put (tree : Tree) (key : String) (value : Tree) :
    (tree.put key value).isTable = true := by
  rcases exists_placeOf key with ⟨name, rest, named⟩
  rw [put, named]
  rfl

theorem isTable_putAll {tree : Tree} (table : tree.isTable = true)
    (layer : List (String × Tree)) : (tree.putAll layer).isTable = true := by
  induction layer generalizing tree with
  | nil => exact table
  | cons entry rest ih => exact ih (isTable_put tree entry.1 entry.2)

end Tree
end StorageTelemetry
