namespace StorageTelemetry

/-!
# Finite tables

A table is a list of entries with one entry per key, in the order in which the
keys were first put.  It is used where the order of entries is shown or where
a small table is reasoned about entry by entry.
-/

/-- Entries by key.  The operations below keep one entry per key. -/
structure Table (κ ν : Type) where
  entries : List (κ × ν)
deriving DecidableEq

namespace Table

variable {κ ν : Type} [DecidableEq κ]

/-- A table without entries. -/
def empty : Table κ ν := ⟨[]⟩

def get? (table : Table κ ν) (key : κ) : Option ν :=
  (table.entries.find? fun entry => entry.1 = key).map (·.2)

/-- Entries with the value under one key replaced, or with an entry added at
the end if the key was absent. -/
def putEntry (key : κ) (value : ν) : List (κ × ν) → List (κ × ν)
  | [] => [(key, value)]
  | entry :: rest =>
      if entry.1 = key then (key, value) :: rest else entry :: putEntry key value rest

def put (table : Table κ ν) (key : κ) (value : ν) : Table κ ν :=
  ⟨putEntry key value table.entries⟩

def erase (table : Table κ ν) (key : κ) : Table κ ν :=
  ⟨table.entries.filter fun entry => entry.1 ≠ key⟩

def contains (table : Table κ ν) (key : κ) : Bool := (table.get? key).isSome

def size (table : Table κ ν) : Nat := table.entries.length

/-- A table in which the last of several pairs with one key counts. -/
def ofPairs (pairs : List (κ × ν)) : Table κ ν :=
  pairs.foldl (fun table pair => table.put pair.1 pair.2) empty

end Table
end StorageTelemetry
