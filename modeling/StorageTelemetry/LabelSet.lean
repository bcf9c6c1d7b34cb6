namespace StorageTelemetry

/-!
# Label sets

The labels of an entity's series are ordered pairs of key and value.  Order
and repetition matter: two label sets are the same only if they list the same
pairs in the same order.
-/

/-- Ordered key and value pairs. -/
structure LabelSet where
  pairs : List (String × String)
deriving DecidableEq

namespace LabelSet

/-- A label set without labels. -/
def empty : LabelSet := ⟨[]⟩

/-- A label set with one more pair at its end. -/
def push (labels : LabelSet) (key value : String) : LabelSet := ⟨labels.pairs ++ [(key, value)]⟩

/-- The value of the first pair with a key. -/
def get? (labels : LabelSet) (key : String) : Option String := labels.pairs.lookup key

def keys (labels : LabelSet) : List String := labels.pairs.map (·.1)

def values (labels : LabelSet) : List String := labels.pairs.map (·.2)

def size (labels : LabelSet) : Nat := labels.pairs.length

/-- Whether there is no pair. -/
def isEmpty (labels : LabelSet) : Bool := labels.pairs.isEmpty

end LabelSet
end StorageTelemetry
