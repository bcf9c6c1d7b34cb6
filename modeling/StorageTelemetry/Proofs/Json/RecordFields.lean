import StorageTelemetry.Json.Fields
import StorageTelemetry.Proofs.Records

namespace StorageTelemetry

/-!
# What records give for their fields

A record can be described from outside by what it gives for each declared field: an
object gives a field by its name and no more than once, and an array gives the first
fields by their places.  Other members of an object do not count.  A document opens
exactly if it is such a record, and then each field is read from what is given for
it, or is its default.
-/

/-! ## Members and items -/

namespace Record

variable {ν : Type} {keys : List String} {field : String → Option ν} {key : String} {value : ν}

/-- The fields for which something is given, in declaration order. -/
def fieldsOf (keys : List String) (field : String → Option ν) : List (String × ν) :=
  keys.filterMap fun key => (field key).map (key, ·)

theorem mem_fieldsOf_iff :
    (key, value) ∈ fieldsOf keys field ↔ key ∈ keys ∧ field key = some value := by
  simp [fieldsOf, Option.map_eq_some_iff]

theorem fieldsOf_cons : fieldsOf (key :: keys) field =
    ((field key).map (key, ·)).toList ++ fieldsOf keys field := by
  cases given : field key <;> simp [fieldsOf, given]

theorem lookup_fieldsOf (declared : key ∈ keys) :
    (fieldsOf keys field).lookup key = field key := by
  induction keys with
  | nil => cases declared
  | cons first others ih =>
    rw [fieldsOf_cons]
    by_cases same : key = first
    · cases given : field first with
      | some value => simp [same, given]
      | none =>
        -- The field may be declared again, but nothing is given for it there either.
        rw [same, given, Option.map_none, Option.toList_none, List.nil_append]
        apply List.lookup_eq_none_iff.mpr
        intro entry listed
        have found := (mem_fieldsOf_iff.mp listed).2
        apply bne_iff_ne.mpr
        intro own
        rw [← own, given] at found
        cases found
    · have apart : (((field first).map (first, ·)).toList).lookup key = none := by
        cases field first <;> simp [same]
      rw [List.lookup_append, apart, Option.none_or]
      exact ih ((List.mem_cons.mp declared).resolve_left same)

theorem map_fst_fieldsOf :
    (fieldsOf keys field).map Prod.fst = keys.filter fun key => (field key).isSome := by
  induction keys with
  | nil => rfl
  | cons first others ih =>
    rw [fieldsOf_cons, List.map_append, ih]
    cases given : field first <;> simp [given]

/-- Given fields are found by their names. -/
theorem valuesFor_fieldsOf (distinct : keys.Nodup) (declared : key ∈ keys) :
    valuesFor key (named (fieldsOf keys field)) = (field key).toList := by
  cases given : field key with
  | some value =>
    apply valuesFor_of_mem
    · rw [map_fst_fieldsOf]
      exact distinct.filter _
    · exact mem_fieldsOf_iff.mpr ⟨declared, given⟩
  | none =>
    apply valuesFor_of_not_mem
    rw [map_fst_fieldsOf, List.mem_filter, given]
    exact fun found => nomatch found.2

section

variable {members : List (Option String × ν)} {given : List (String × ν)}

theorem collect_eq_ok_of_once (once : ∀ key ∈ keys, valuesFor key members = (field key).toList) :
    collect members keys = .ok (fieldsOf keys field) := by
  induction keys with
  | nil => rfl
  | cons key keys ih =>
    rcases List.forall_mem_cons.mp once with ⟨once, once'⟩
    cases given : field key with
    | none => simp [collect, once, ih once', given, fieldsOf_cons]
    | some value => simp [collect, once, ih once', given, fieldsOf_cons, Except.map]

/-- The members of an object that opens give each field at most once. -/
theorem exists_once_of_collect (collected : collect members keys = .ok given) :
    ∃ field : String → Option ν, given = fieldsOf keys field ∧
      ∀ key ∈ keys, valuesFor key members = (field key).toList := by
  refine ⟨fun key => (valuesFor key members).head?, ?_⟩
  induction keys generalizing given with
  | nil =>
    cases collected
    exact ⟨rfl, nofun⟩
  | cons key keys ih =>
    rw [collect] at collected
    split at collected
    · rename_i none
      rcases ih collected with ⟨rfl, once⟩
      exact ⟨by simp [fieldsOf_cons, none], List.forall_mem_cons.mpr ⟨by simp [none], once⟩⟩
    · rename_i value single
      cases rest : collect members keys with
      | error mismatch =>
        rw [rest] at collected
        cases collected
      | ok others =>
        rw [rest] at collected
        cases collected
        rcases ih rest with ⟨rfl, once⟩
        exact ⟨by simp [fieldsOf_cons, single], List.forall_mem_cons.mpr ⟨by simp [single], once⟩⟩
    · cases collected

/-- Fields that are given by their places are found there. -/
theorem lookup_zip (distinct : keys.Nodup) {items : List ν} {i : Nat}
    (placed : keys[i]? = some key) : (keys.zip items).lookup key = items[i]? := by
  induction keys generalizing items i with
  | nil => cases placed
  | cons first others ih =>
    rcases List.nodup_cons.mp distinct with ⟨fresh, distinct'⟩
    cases items with
    | nil => simp
    | cons item rest =>
      cases i with
      | zero =>
        cases placed
        simp
      | succ i =>
        have listed : key ∈ others := List.mem_of_getElem? placed
        have apart : (key == first) = false := beq_false_of_ne fun same => fresh (same ▸ listed)
        rw [List.zip_cons_cons, List.lookup_cons, apart]
        exact ih distinct' placed

theorem exists_named (texts : members.any (fun member => member.1.isNone) = false) :
    ∃ members' : List (String × ν), members = named members' := by
  induction members with
  | nil => exact ⟨[], rfl⟩
  | cons member others ih =>
    rcases member with ⟨key, value⟩
    rw [List.any_cons, Bool.or_eq_false_iff] at texts
    rcases ih texts.2 with ⟨others', rfl⟩
    cases key with
    | none => cases texts.1
    | some key => exact ⟨(key, value) :: others', rfl⟩

end

variable {α : Type} {record : Record ν} {reader : ν → Except Mismatch α} {default result : α}

/-- What a field is read as: what is given for it, or else its default. -/
def Reads (reader : ν → Except Mismatch α) (default result : α) : Option ν → Prop
  | some given => reader given = .ok result
  | none => result = default

/-- Whether what is given for a field is read as what a value has there. -/
def Fits (reader : ν → Except Mismatch α) (default : α) (part? : String → Option α) (key : String)
    (given : Option ν) : Prop :=
  ∀ part, part? key = some part → Reads reader default part given

/-- If only some fields are kept, each as it is written, then the others are read as
the default. -/
theorem fits_of_kept {part? kept? : String → Option α} {kept : String → Bool} {write : α → ν}
    {keep : α → α}
    (rest : kept? key = (part? key).map fun part => if kept key then keep part else default)
    (reads : ∀ part, part? key = some part → kept key = true →
      reader (write part) = .ok (keep part)) :
    Fits reader default kept? key (if kept key then (part? key).map write else none) := by
  intro result known
  rw [rest] at known
  rcases Option.map_eq_some_iff.mp known with ⟨part, own, rfl⟩
  cases written : kept key with
  | true =>
    rw [if_pos rfl, if_pos rfl, own]
    exact reads part own written
  | false => rfl

theorem read_eq_ok_iff_reads :
    record.read key reader default = .ok result ↔
      Reads reader default result (record.get? key) := by
  unfold read read?
  cases record.get? key with
  | none => simp [Reads, Except.map, eq_comm]
  | some given => cases answer : reader given <;> simp [Reads, Except.map, answer]

end Record

/-! ## Documents -/

namespace Json

open Record

variable {keys : List String} {field : String → Option Json} {document : Json}

/-- Whether a document gives the declared fields of a record. -/
inductive IsRecord (keys : List String) (field : String → Option Json) : Json → Prop
  | object {members : List (String × Json)}
      (once : ∀ key ∈ keys, valuesFor key (named members) = (field key).toList) :
      IsRecord keys field (.ofMembers members)
  | array {items : List Json} (short : items.length ≤ keys.length)
      (inOrder : ∀ (i : Nat) (key : String), keys[i]? = some key → field key = items[i]?) :
      IsRecord keys field (.array items)

theorem isRecord_of_record (distinct : keys.Nodup) {title : String} {record : Record Json}
    (opened : document.record title keys = .ok record) :
    IsRecord keys record.get? document := by
  cases document with
  | object members =>
    rw [Json.record, Record.ofMembers] at opened
    split at opened
    · cases opened
    · rename_i texts
      rcases exists_named (Bool.eq_false_iff.mpr texts) with ⟨members, rfl⟩
      cases collected : collect (named members) keys with
      | error mismatch =>
        rw [collected] at opened
        cases opened
      | ok given =>
        rw [collected] at opened
        cases opened
        rcases exists_once_of_collect collected with ⟨field, rfl, once⟩
        apply IsRecord.object
        intro key declared
        rw [once key declared, get?, lookup_fieldsOf declared]
  | array items =>
    rw [Json.record, ofItems] at opened
    split at opened
    · cases opened
    · rename_i short
      cases opened
      exact .array (Nat.le_of_not_lt short) fun i key placed => lookup_zip distinct placed
  | null | bool | number | string => cases opened

theorem IsRecord.exists_record (isRecord : IsRecord keys field document) (distinct : keys.Nodup)
    (title : String) : ∃ record, document.record title keys = .ok record ∧
      ∀ key ∈ keys, record.get? key = field key := by
  cases isRecord with
  | @object members once =>
    have texts : (named members).any (fun member => member.1.isNone) = false := by simp [named]
    refine ⟨⟨fieldsOf keys field, .missingField⟩, ?_, fun key => lookup_fieldsOf⟩
    have opened : (ofMembers members).record title keys =
        (collect (named members) keys).map fun given => ⟨given, .missingField⟩ :=
      if_neg (Bool.eq_false_iff.mp texts)
    rw [opened, collect_eq_ok_of_once once]
    rfl
  | @array items short inOrder =>
    refine ⟨_, if_neg (Nat.not_lt_of_le short), ?_⟩
    intro key declared
    rcases List.getElem?_of_mem declared with ⟨i, placed⟩
    rw [inOrder i key placed]
    exact lookup_zip distinct placed

/-- What is read from a document of a record depends on what it gives for each
declared field, and on nothing else. -/
theorem record_bind_eq_ok_iff {α : Type} {title : String} {result : α} (distinct : keys.Nodup)
    {next : Record Json → Except Mismatch α} {fits : String → Option Json → Prop}
    (reads : ∀ record, next record = .ok result ↔ ∀ key ∈ keys, fits key (record.get? key)) :
    document.record title keys >>= next = .ok result ↔
      ∃ field, IsRecord keys field document ∧ ∀ key ∈ keys, fits key (field key) := by
  rw [bind_eq_ok_iff]
  constructor
  · rintro ⟨record, opened, read⟩
    exact ⟨record.get?, isRecord_of_record distinct opened, (reads record).mp read⟩
  · rintro ⟨field, isRecord, fits⟩
    rcases isRecord.exists_record distinct title with ⟨record, opened, same⟩
    refine ⟨record, opened, (reads record).mpr ?_⟩
    intro key declared
    rw [same key declared]
    exact fits key declared

/-- An object of some fields: it has a member for each of them, in any order, and
other members only under names that are not declared. -/
def IsObjectOf (keys : List String) (field : String → Option Json) (document : Json) : Prop :=
  ∃ members extras : List (String × Json), document = .ofMembers members ∧
    members.Perm (fieldsOf keys field ++ extras) ∧ ∀ extra ∈ extras, extra.1 ∉ keys

theorem IsObjectOf.isRecord (isObject : IsObjectOf keys field document) (distinct : keys.Nodup) :
    IsRecord keys field document := by
  rcases isObject with ⟨members, extras, rfl, perm, unknown⟩
  apply IsRecord.object
  intro key declared
  have none : valuesFor key (named extras) = [] := by
    apply valuesFor_of_not_mem
    intro found
    rcases List.mem_map.mp found with ⟨extra, listed, rfl⟩
    exact unknown extra listed declared
  have arranged : (valuesFor key (named members)).Perm
      (valuesFor key (named (fieldsOf keys field ++ extras))) := valuesFor_perm (perm.map _)
  rw [named_append, valuesFor_append, valuesFor_fieldsOf distinct declared, none,
    List.append_nil] at arranged
  cases given : field key with
  | none =>
    rw [given] at arranged
    exact List.perm_nil.mp arranged
  | some value =>
    rw [given] at arranged
    exact List.perm_singleton.mp arranged

/-- A document of a record that gives a field twice, or for a field something bad. -/
inductive Faulty (keys : List String) (bad : Json → Prop) : Json → Prop
  | twice {members : List (Option String × Json)} {key : String} (declared : key ∈ keys)
      (repeated : 2 ≤ (valuesFor key members).length) : Faulty keys bad (.object members)
  | member {members : List (Option String × Json)} {key : String} {value : Json}
      (declared : key ∈ keys) (given : (some key, value) ∈ members) (unfit : bad value) :
      Faulty keys bad (.object members)
  | item {items : List Json} {i : Nat} {value : Json} (declared : i < keys.length)
      (given : items[i]? = some value) (unfit : bad value) : Faulty keys bad (.array items)

/-- If such a document is a record at all, then it gives something bad for a
declared field. -/
theorem IsRecord.exists_bad {bad : Json → Prop} (isRecord : IsRecord keys field document)
    (faulty : Faulty keys bad document) :
    ∃ key ∈ keys, ∃ value, field key = some value ∧ bad value := by
  cases faulty with
  | @twice _ key declared repeated =>
    cases isRecord with
    | object once =>
      have once := once key declared
      have few : (field key).toList.length ≤ 1 := by cases field key <;> simp
      rw [← once] at few
      exact absurd (Nat.le_trans repeated few) (by decide)
  | @member _ key value declared given unfit =>
    cases isRecord with
    | object once =>
      have found : value ∈ valuesFor key (named _) :=
        List.mem_filterMap.mpr ⟨_, given, if_pos rfl⟩
      rw [once key declared] at found
      exact ⟨key, declared, value, Option.mem_toList.mp found, unfit⟩
  | @item items i value declared given unfit =>
    cases isRecord with
    | array short inOrder =>
      have placed : keys[i]? = some keys[i] := List.getElem?_eq_getElem declared
      exact ⟨keys[i], List.getElem_mem declared, value, (inOrder i _ placed).trans given, unfit⟩

/-- No value fits such a document, if nothing bad can be read. -/
theorem IsRecord.not_fits {α : Type} {reader : Json → Except Mismatch α} {default : α}
    {part? : String → Option α} {bad : Json → Prop} (isRecord : IsRecord keys field document)
    (faulty : Faulty keys bad document) (known : ∀ key ∈ keys, ∃ part, part? key = some part)
    (unread : ∀ given part, bad given → reader given ≠ .ok part) :
    ¬∀ key ∈ keys, Fits reader default part? key (field key) := by
  intro fits
  rcases isRecord.exists_bad faulty with ⟨key, declared, given, found, unfit⟩
  rcases known key declared with ⟨part, own⟩
  have read := fits key declared part own
  rw [found] at read
  exact unread given part unfit read

end Json
end StorageTelemetry
