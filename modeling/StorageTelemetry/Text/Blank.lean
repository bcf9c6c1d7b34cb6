import StorageTelemetry.Text.Ranges

namespace StorageTelemetry
namespace Text

/-!
# Blank characters

The characters with the white-space property, and texts with blanks removed
from their ends.
-/

def blankRanges : List (Nat × Nat) :=
  [(0x09, 0x0D), (0x20, 0x20), (0x85, 0x85), (0xA0, 0xA0), (0x1680, 0x1680),
   (0x2000, 0x200A), (0x2028, 0x2029), (0x202F, 0x202F), (0x205F, 0x205F),
   (0x3000, 0x3000)]

def isBlank (c : Char) : Bool := inRanges blankRanges c.toNat

/-- A text without the characters of a class at its ends. -/
def trimEnds (inClass : Char → Bool) (text : List Char) : List Char :=
  ((text.dropWhile inClass).reverse.dropWhile inClass).reverse

/-- Whether a text has only blanks. -/
def allBlank (text : String) : Bool := text.toList.all isBlank

end Text
end StorageTelemetry
