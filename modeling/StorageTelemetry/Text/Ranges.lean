namespace StorageTelemetry
namespace Text

/-!
# Ranges of characters

A class of characters that follows no short rule is a table of ranges of code
points, each given by its first and its last, in ascending order.
-/

/-- Whether a code point lies in one of some ranges.  They ascend, so that the
first one beyond it settles the question. -/
def inRanges : List (Nat × Nat) → Nat → Bool
  | [], _ => false
  | (first, last) :: rest, code => first ≤ code && (code ≤ last || inRanges rest code)

end Text
end StorageTelemetry
