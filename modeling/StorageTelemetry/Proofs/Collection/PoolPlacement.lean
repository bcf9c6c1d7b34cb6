import StorageTelemetry.Proofs.Collection.Answers
import StorageTelemetry.Proofs.Text.ByteOrder

namespace StorageTelemetry

/-!
# Where storage pools are placed

Several names may resolve to one pool, and several classes may list it, but it
is exported once: under the first class that lists it, and there in the place of
the first of its names.

A class claims the pools that its names resolve to, one name after another,
unless they are taken.  What it claims is a function of its names and of what
was taken before, and this is shown from the last name to the first.  From class
to class the pools taken are those that the classes so far have listed.
-/

/-! ## Names of pools -/

/-- The pool that a name resolves to: the last pool of the gateway that has
it. -/
def poolOf? (pools : List StoragePool) (name : String) : Option StoragePool :=
  (pools.filter fun pool => pool.name = name).getLast?

/-- The identifier that a name resolves to. -/
def poolIdOf? (pools : List StoragePool) (name : String) : Option String :=
  (poolOf? pools name).map (·.id)

/-- The identifiers that the names of a class resolve to. -/
def listedIds (pools : List StoragePool) (entry : StorageClassEntry) : List String :=
  entry.storagePools.filterMap (poolIdOf? pools)

/-- The position of the first name that resolves to an identifier. -/
def firstNaming (pools : List StoragePool) (names : List String) (id : String) : Nat :=
  (names.map (poolIdOf? pools)).idxOf (some id)

theorem get?_poolsByName (pools : List StoragePool) (name : String) :
    (poolsByName pools).get? name = poolOf? pools name :=
  Table.get?_ofPairs_map StoragePool.name pools name

/-- A name that does not resolve to an identifier moves its first name on. -/
theorem firstNaming_cons {pools : List StoragePool} {name id : String}
    (other : poolIdOf? pools name ≠ some id) (names : List String) :
    firstNaming pools (name :: names) id = firstNaming pools names id + 1 :=
  List.idxOf_cons_ne _ other

/-- Whether pools are claimed by names: those that the names resolve to and that
are not taken, each in the place of its first name. -/
structure ClaimsPools (pools : List StoragePool) (names : List String) (taken : String → Prop)
    (claimed : List StoragePoolMeta) : Prop where
  mem_iff : ∀ id, id ∈ claimed.map (·.id) ↔ id ∈ names.filterMap (poolIdOf? pools) ∧ ¬ taken id
  inOrder : claimed.Pairwise fun pool later =>
    firstNaming pools names pool.id < firstNaming pools names later.id
  described : ∀ member ∈ claimed, ∃ name pool,
    names[firstNaming pools names member.id]? = some name ∧ poolOf? pools name = some pool ∧
      member = ⟨pool.id, pool.name⟩

namespace ClaimsPools

variable {pools : List StoragePool} {names : List String} {taken : String → Prop}
  {claimed : List StoragePoolMeta} {name : String}

theorem nil (pools : List StoragePool) (taken : String → Prop) : ClaimsPools pools [] taken [] where
  mem_iff id := by simp
  inOrder := List.Pairwise.nil
  described := nofun

/-- A name that resolves to nothing else than what is taken claims nothing. -/
theorem skip (claims : ClaimsPools pools names taken claimed)
    (known : ∀ id, poolIdOf? pools name = some id → taken id) :
    ClaimsPools pools (name :: names) taken claimed := by
  have shifted : ∀ member ∈ claimed,
      firstNaming pools (name :: names) member.id = firstNaming pools names member.id + 1 := by
    intro member own
    apply firstNaming_cons
    intro same
    exact ((claims.mem_iff member.id).mp (List.mem_map_of_mem own)).2 (known member.id same)
  constructor
  · intro id
    rw [claims.mem_iff]
    apply and_congr_left
    intro free
    cases resolved : poolIdOf? pools name with
    | none => rw [List.filterMap_cons_none resolved]
    | some other =>
        have different : id ≠ other := fun same => free (same ▸ known other resolved)
        rw [List.filterMap_cons_some resolved, List.mem_cons, or_iff_right different]
  · apply List.Pairwise.imp_of_mem _ claims.inOrder
    intro member later own own' before
    rw [shifted member own, shifted later own']
    exact Nat.succ_lt_succ before
  · intro member own
    rw [shifted member own, List.getElem?_cons_succ]
    exact claims.described member own

/-- A name that resolves to a pool that is not taken claims it, ahead of what
the names after it claim. -/
theorem claim {pool : StoragePool} (resolved : poolOf? pools name = some pool)
    (free : ¬ taken pool.id)
    (claims : ClaimsPools pools names (fun id => taken id ∨ id = pool.id) claimed) :
    ClaimsPools pools (name :: names) taken (⟨pool.id, pool.name⟩ :: claimed) := by
  have named : poolIdOf? pools name = some pool.id := by rw [poolIdOf?, resolved, Option.map_some]
  have first : firstNaming pools (name :: names) pool.id = 0 := by
    rw [firstNaming, List.map_cons, named, List.idxOf_cons_self]
  have shifted : ∀ member ∈ claimed,
      firstNaming pools (name :: names) member.id = firstNaming pools names member.id + 1 := by
    intro member own
    apply firstNaming_cons
    intro same
    have unclaimed := ((claims.mem_iff member.id).mp (List.mem_map_of_mem own)).2
    exact unclaimed (Or.inr (Option.some.inj (same.symm.trans named)))
  constructor
  · intro id
    rw [List.map_cons, List.mem_cons, claims.mem_iff, List.filterMap_cons_some named,
      List.mem_cons]
    by_cases own : id = pool.id
    · subst own
      simp [free]
    · simp [own]
  · apply List.Pairwise.cons
    · intro later own
      rw [first, shifted later own]
      exact Nat.succ_pos _
    · apply List.Pairwise.imp_of_mem _ claims.inOrder
      intro member later own own' before
      rw [shifted member own, shifted later own']
      exact Nat.succ_lt_succ before
  · intro member either
    rcases List.mem_cons.mp either with rfl | own
    · exact ⟨name, pool, by rw [first, List.getElem?_cons_zero], resolved, rfl⟩
    · rw [shifted member own, List.getElem?_cons_succ]
      exact claims.described member own

/-- The pools that a class claims. -/
theorem of_claimPools (pools : List StoragePool) (taken names : List String) :
    ClaimsPools pools names (· ∈ taken) (claimPools (poolsByName pools) taken names).1 := by
  induction names generalizing taken with
  | nil => exact nil pools _
  | cons name rest ih =>
      simp only [claimPools, get?_poolsByName]
      cases resolved : poolOf? pools name with
      | none => exact (ih taken).skip (by simp [poolIdOf?, resolved])
      | some pool =>
          dsimp only
          by_cases claimed : pool.id ∈ taken
          · rw [if_pos (List.contains_iff_mem.mpr claimed)]
            exact (ih taken).skip (by simp [poolIdOf?, resolved, claimed])
          · rw [if_neg (by simpa using claimed)]
            have others := ih (taken ++ [pool.id])
            simp only [List.mem_append, List.mem_singleton] at others
            exact claim resolved claimed others

end ClaimsPools

/-! ## From class to class -/

/-- A class and the pools that it is exported with. -/
abbrev ClassWithPools := StorageClassMeta × List StoragePoolMeta

/-- The identifiers of all pools of some classes. -/
def presentIds (found : List ClassWithPools) : List String :=
  found.flatMap fun entry => entry.2.map (·.id)

/-- The description of a class by its declaration. -/
def describedClass (entry : StorageClassEntry) : StorageClassMeta :=
  ⟨entry.name, entry.driver, entry.storageSystemId⟩

/-- Whether classes are those that are declared, one by one, and have the pools
that their names resolve to, each pool under the first class that lists it. -/
structure PoolsPlaced (pools : List StoragePool) (entries : List StorageClassEntry)
    (found : List ClassWithPools) : Prop where
  classes : found.map (·.1) = entries.map describedClass
  distinct : (presentIds found).Nodup
  present_iff : ∀ id, id ∈ presentIds found ↔ ∃ entry ∈ entries, id ∈ listedIds pools entry
  placed : ∀ (place : Nat) (entry : StorageClassEntry) (item : ClassWithPools),
    entries[place]? = some entry → found[place]? = some item →
      ClaimsPools pools entry.storagePools
        (fun id => ∃ earlier ∈ entries.take place, id ∈ listedIds pools earlier) item.2

section

variable (pools : List StoragePool) (known : Table String StoragePool) {taken : List String}

theorem classes_resolveClasses (taken : List String) (entries : List StorageClassEntry) :
    (resolveClasses known taken entries).1.map (·.1) = entries.map describedClass := by
  induction entries generalizing taken with
  | nil => rfl
  | cons entry rest ih => exact congrArg (describedClass entry :: ·) (ih _)

/-- The pools taken by some classes are those that they list. -/
theorem mem_taken_iff (distinct : taken.Nodup) (entries : List StorageClassEntry) (id : String) :
    id ∈ (resolveClasses (poolsByName pools) taken entries).2.1 ↔
      id ∈ taken ∨ ∃ entry ∈ entries, id ∈ listedIds pools entry := by
  induction entries generalizing taken with
  | nil => simp [resolveClasses]
  | cons entry rest ih =>
      have spec := claimPools_spec (poolsByName pools) taken entry.storagePools distinct
      have claims := ClaimsPools.of_claimPools pools taken entry.storagePools
      simp only [resolveClasses, List.exists_mem_cons_iff]
      rw [ih spec.2, spec.1, List.mem_append, claims.mem_iff, listedIds]
      tauto

/-- A class claims its pools after the classes ahead of it. -/
theorem getElem?_resolveClasses (taken : List String) (entries : List StorageClassEntry)
    (place : Nat) :
    (resolveClasses known taken entries).1[place]? = entries[place]?.map fun entry =>
      (describedClass entry, (claimPools known
        (resolveClasses known taken (entries.take place)).2.1 entry.storagePools).1) := by
  induction entries generalizing taken place with
  | nil => rfl
  | cons entry rest ih =>
      cases place with
      | zero => rfl
      | succ place => exact ih _ place

/-- The classes that are resolved have their pools in their places. -/
theorem PoolsPlaced.of_resolveClasses (entries : List StorageClassEntry) :
    PoolsPlaced pools entries (resolveClasses (poolsByName pools) [] entries).1 := by
  have spec := resolveClasses_spec (poolsByName pools) [] entries List.nodup_nil
  rw [List.nil_append, ← presentIds] at spec
  have taken := fun entries => mem_taken_iff pools List.nodup_nil entries
  simp only [List.not_mem_nil, false_or] at taken
  constructor
  · exact classes_resolveClasses _ _ _
  · exact spec.1 ▸ spec.2
  · intro id
    rw [← taken, spec.1]
  · intro place entry item declared found
    rw [getElem?_resolveClasses, declared, Option.map_some] at found
    rw [← Option.some.inj found]
    have claims := ClaimsPools.of_claimPools pools
      (resolveClasses (poolsByName pools) [] (entries.take place)).2.1 entry.storagePools
    simpa only [taken] using claims

end

/-! ## Sorting -/

/-- Identifiers are sorted by their bytes. -/
theorem sortIds_ascending {ids : List String} (distinct : ids.Nodup) :
    (sortIds ids).Pairwise fun id later => Text.bytes id < Text.bytes later := by
  have sorted : (sortIds ids).Pairwise (· ≤ ·) :=
    pairwise_sorted id (fun _ _ => not_lt_test_iff) ids
  have apart : (sortIds ids).Nodup := (List.mergeSort_perm ids _).nodup_iff.mpr distinct
  apply (sorted.and apart).imp
  rintro id later ⟨least, different⟩
  exact Text.bytes_lt_of_lt (least.lt_of_ne different)

/-- There is one way to sort identifiers by their bytes. -/
theorem sortIds_eq {ids ascending : List String} (perm : ids.Perm ascending)
    (sorted : ascending.Pairwise fun id later => Text.bytes id < Text.bytes later) :
    sortIds ids = ascending := by
  have distinct : ascending.Nodup := sorted.imp fun less same => by
    rw [same] at less
    exact List.lt_irrefl _ less
  apply List.Perm.eq_of_pairwise _ (sortIds_ascending (perm.nodup_iff.mpr distinct)) sorted
    ((List.mergeSort_perm ids _).trans perm)
  intro id other _ _ less greater
  exact absurd greater (List.lt_asymm less)

end StorageTelemetry
