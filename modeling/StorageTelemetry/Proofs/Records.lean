import StorageTelemetry.Document.Record

namespace StorageTelemetry

/-!
# Reading records

A record is read field by field, and the first fault ends the reading.  What a field
is read as depends on what is given under its name and on nothing else.

A field is looked for by its name among all members.  So neither the order of the
members nor members with other names make a difference, as long as every field is
given once.
-/

/-! ## Answers -/

theorem bind_eq_ok_iff {ε α β : Type} {answer : Except ε α} {next : α → Except ε β} {value : β} :
    answer >>= next = .ok value ↔ ∃ first, answer = .ok first ∧ next first = .ok value := by
  cases answer with
  | error fault => simp [bind, Except.bind]
  | ok first => simp [bind, Except.bind]

theorem except_bind_of_ok {ε α β : Type} {answer : Except ε α} {next : α → Except ε β} {first : α}
    (answered : answer = .ok first) : answer >>= next = next first := by
  rw [answered]
  rfl

namespace Record

variable {ν α : Type} {name : String} {value : ν}

/-! ## Fields -/

section

variable {record : Record ν} {reader : ν → Except Mismatch α}

/-- What is read under a name is read from what is given there, or is the
default. -/
theorem read_eq_ok {default value : α} (ended : record.read name reader default = .ok value) :
    record.get? name = none ∧ value = default ∨
      ∃ given, record.get? name = some given ∧ reader given = .ok value := by
  unfold read read? at ended
  cases found : record.get? name with
  | none =>
      simp only [found, Except.map, Option.getD_none, Except.ok.injEq] at ended
      exact Or.inl ⟨rfl, ended.symm⟩
  | some given =>
      simp only [found] at ended
      cases answer : reader given with
      | error mismatch =>
          rw [answer] at ended
          cases ended
      | ok first =>
          simp only [answer, Except.map, Option.getD_some, Except.ok.injEq] at ended
          exact Or.inr ⟨given, rfl, answer.trans (congrArg Except.ok ended)⟩

/-- What is given under a name is what is read. -/
theorem read_of_get? {given : ν} {default value : α} (found : record.get? name = some given)
    (same : reader given = .ok value) : record.read name reader default = .ok value := by
  simp only [read, read?, found, same, Except.map, Option.getD_some]

end

/-! ## Members -/

/-- Members of an object under keys that are texts. -/
def named (members : List (String × ν)) : List (Option String × ν) :=
  members.map fun (key, value) => (some key, value)

theorem named_append (first second : List (String × ν)) :
    named (first ++ second) = named first ++ named second :=
  List.map_append

theorem valuesFor_cons (key : Option String) (members : List (Option String × ν)) :
    valuesFor name ((key, value) :: members) =
      (if key = some name then [value] else []) ++ valuesFor name members := by
  unfold valuesFor
  split <;> simp_all

theorem valuesFor_append (first second : List (Option String × ν)) :
    valuesFor name (first ++ second) = valuesFor name first ++ valuesFor name second :=
  List.filterMap_append

theorem valuesFor_perm {first second : List (Option String × ν)} (perm : first.Perm second) :
    (valuesFor name first).Perm (valuesFor name second) :=
  perm.filterMap _

theorem valuesFor_of_not_mem {members : List (String × ν)}
    (absent : name ∉ members.map Prod.fst) : valuesFor name (named members) = [] := by
  induction members with
  | nil => rfl
  | cons member others ih =>
    have different : some member.1 ≠ some name := by
      intro same
      exact absent (Option.some.inj same ▸ List.mem_cons_self)
    rw [named, List.map_cons, valuesFor_cons, if_neg different]
    exact ih fun found => absent (.tail _ found)

theorem valuesFor_of_mem {given : List (String × ν)} (distinct : (given.map Prod.fst).Nodup)
    (member : (name, value) ∈ given) : valuesFor name (named given) = [value] := by
  induction given with
  | nil => cases member
  | cons first others ih =>
    rcases List.nodup_cons.mp distinct with ⟨absent, distinct'⟩
    rw [named, List.map_cons, valuesFor_cons]
    rcases List.mem_cons.mp member with rfl | member'
    · rw [if_pos rfl]
      exact congrArg (value :: ·) (valuesFor_of_not_mem absent)
    · have different : some first.1 ≠ some name := by
        intro same
        exact absent (Option.some.inj same ▸ List.mem_map_of_mem member')
      rw [if_neg different]
      exact ih distinct' member'

theorem collect_eq_ok {members : List (Option String × ν)} {given : List (String × ν)}
    (once : ∀ member ∈ given, valuesFor member.1 members = [member.2]) :
    collect members (given.map Prod.fst) = .ok given := by
  induction given with
  | nil => rfl
  | cons first others ih =>
    rcases List.forall_mem_cons.mp once with ⟨once, once'⟩
    simp [collect, once, ih once', Except.map]

/-- An object that gives every field once, among any other members and in any order,
opens as the fields. -/
theorem ofMembers_of_perm {given extras members : List (String × ν)}
    (distinct : (given.map Prod.fst).Nodup)
    (unknown : ∀ extra ∈ extras, extra.1 ∉ given.map Prod.fst)
    (perm : members.Perm (given ++ extras)) :
    ofMembers (given.map Prod.fst) (named members) = .ok ⟨given, .missingField⟩ := by
  have texts : (named members).any (fun member => member.1.isNone) = false := by
    simp [named]
  have once : ∀ member ∈ given, valuesFor member.1 (named members) = [member.2] := by
    intro member given'
    have absent : member.1 ∉ extras.map Prod.fst := by
      intro found
      rcases List.mem_map.mp found with ⟨extra, extra', same⟩
      exact unknown extra extra' (same ▸ List.mem_map_of_mem given')
    have own : valuesFor member.1 (named given) = [member.2] := valuesFor_of_mem distinct given'
    have none : valuesFor member.1 (named extras) = [] := valuesFor_of_not_mem absent
    have arranged : (valuesFor member.1 (named members)).Perm
        (valuesFor member.1 (named (given ++ extras))) := valuesFor_perm (perm.map _)
    rw [named_append, valuesFor_append, own, none, List.append_nil] at arranged
    exact List.perm_singleton.mp arranged
  have accepted : ofMembers (given.map Prod.fst) (named members) =
      (collect (named members) (given.map Prod.fst)).map fun given => ⟨given, .missingField⟩ :=
    if_neg (Bool.eq_false_iff.mp texts)
  rw [accepted, collect_eq_ok once]
  rfl

end Record
end StorageTelemetry
