import StorageTelemetry.Proofs.Json.Reading

namespace StorageTelemetry
namespace Json

/-!
# The compact writing of a document

Every character of a text is written so that it stands for itself: the quote, the
backslash and the control characters are escaped, and no other character can be taken
for the end of a string.  So the compact writing is one of the writings of a
document, and reading it gives the document back.

A document can be built with a number token that no text denotes, one that has a
scale although it is integral.  Documents without such tokens are regular.
-/

/-! ## Digits -/

theorem digitsValue_toDigits (n : Nat) : Text.digitsValue (Nat.toDigits 10 n) = n :=
  Nat.ofDigitChars_ten_toDigits

theorem digits_toDigits (n : Nat) : Digits (Nat.toDigits 10 n) where
  nonempty := Nat.toDigits_ne_nil
  digit _ member := Nat.isDigit_of_mem_toDigits (by decide) (by decide) member

theorem digits_zeros (zeros n : Nat) : Digits (List.replicate zeros '0' ++ Nat.toDigits 10 n) where
  nonempty := by simp [Nat.toDigits_ne_nil]
  digit c member := by
    rcases List.mem_append.mp member with zero | digit
    · rw [(List.mem_replicate.mp zero).2]
      rfl
    · exact (digits_toDigits n).digit c digit

/-- Zeros in front do not count. -/
theorem digitsValue_zeros (zeros n : Nat) :
    Text.digitsValue (List.replicate zeros '0' ++ Nat.toDigits 10 n) = n := by
  induction zeros with
  | zero => exact digitsValue_toDigits n
  | succ zeros ih => exact ih

/-- The first digit is the last quotient by ten that is not zero. -/
theorem head?_toDigits_ne_zero {n : Nat} (positive : 0 < n) :
    (Nat.toDigits 10 n).head? ≠ some '0' := by
  induction n using Nat.strongRecOn with
  | ind n ih =>
    by_cases single : n < 10
    · rw [Nat.toDigits_of_lt_base single]
      simpa using Nat.ne_of_gt positive
    · have leading := ih (n / 10) (by omega) (by omega)
      rw [Nat.toDigits_of_base_le (by decide) (Nat.le_of_not_lt single)]
      rcases List.exists_cons_of_ne_nil (Nat.toDigits_ne_nil (n := n / 10) (b := 10)) with
        ⟨first, others, higher⟩
      rw [higher] at leading ⊢
      exact leading

theorem wholeDigits_toDigits (n : Nat) : WholeDigits (Nat.toDigits 10 n) where
  toDigits := digits_toDigits n
  leading := by
    rcases Nat.eq_zero_or_pos n with rfl | positive
    · exact .inl rfl
    · exact .inr (head?_toDigits_ne_zero positive)

theorem writtenExponent_toString (scale : Int) :
    WrittenExponent (some scale) ('e' :: (toString scale).toList) := by
  have written : ∀ (negative : Bool) (sign : List Char) (size : Nat), WrittenSign negative sign →
      WrittenExponent (some (if negative then -(size : Int) else size))
        ('e' :: (sign ++ Nat.toDigits 10 size)) := by
    intro negative sign size signed
    have present := WrittenExponent.present (.inl rfl : 'e' = 'e' ∨ 'e' = 'E') signed
      (digits_toDigits size)
    rwa [digitsValue_toDigits] at present
  rw [Int.toString_eq_repr, Int.repr_eq_if]
  by_cases natural : 0 ≤ scale
  · rw [if_pos natural, Nat.toList_repr]
    have power := written false [] scale.toNat .absent
    rwa [if_neg nofun, Int.toNat_of_nonneg natural] at power
  · rw [if_neg natural, String.toList_append, Nat.toList_repr]
    have power := written true ['-'] (-scale).toNat .minus
    rwa [if_pos rfl, Int.toNat_of_nonneg (by omega), Int.neg_neg] at power

/-! ## Numbers -/

/-- Whether there is a text that denotes a token. -/
def IsWritable (token : NumberToken) : Prop := token.integral = true → token.scale = 0

theorem writtenNumber_tokenChars {token : NumberToken} (writable : IsWritable token) :
    WrittenNumber token (tokenChars token) := by
  rcases token with ⟨negative, digits, scale, integral⟩
  cases integral with
  | true =>
    obtain rfl : scale = 0 := writable rfl
    have written := WrittenNumber.intro negative (wholeDigits_toDigits digits) .absent .absent
    simpa [tokenOf, tokenChars, digitsValue_toDigits] using written
  | false =>
    have written := WrittenNumber.intro negative (wholeDigits_toDigits digits) .absent
      (writtenExponent_toString scale)
    simpa [tokenOf, tokenChars, digitsValue_toDigits] using written

/-! ## Strings -/

theorem hexValue?_hexDigit {digit : Nat} (small : digit < 16) :
    Text.hexValue? (Text.hexDigit digit) = some digit := by
  have all : ∀ digit < 16, Text.hexValue? (Text.hexDigit digit) = some digit := by decide
  exact all digit small

/-- Four hexadecimal digits denote a number below the fourth power of sixteen. -/
theorem hexDigits_four {n : Nat} (small : n < 65536) :
    ∃ a b c d, Text.hexDigits 4 n = [a, b, c, d] ∧ hex4? a b c d = some n := by
  refine ⟨_, _, _, _, rfl, ?_⟩
  have digit : ∀ n, Text.hexValue? (Text.hexDigit (n % 16)) = some (n % 16) :=
    fun n => hexValue?_hexDigit (Nat.mod_lt n (by decide))
  simp [hex4?, digit]
  omega

theorem unitOfCode_toNat {c : Char} (control : c < ' ') : unitOfCode c.toNat = .char c := by
  have small : c.toNat < 32 := control
  have single : ¬(0xD800 ≤ c.toNat ∧ c.toNat < 0xE000) := by omega
  rw [unitOfCode, if_neg single, Char.ofNat_toNat]

/-- An escaped character stands for that character. -/
theorem writtenUnits_escaped (c : Char) {units : List StringUnit} {text : List Char}
    (written : WrittenUnits units text) :
    WrittenUnits (.char c :: units) (Text.escaped c ++ text) := by
  unfold Text.escaped
  -- seven characters have an escape of one letter
  iterate 7
    split
    · subst c
      exact .letter rfl written
  split
  · have small : c.toNat < 32 := ‹_›
    rcases hexDigits_four (Nat.lt_trans small (by decide)) with ⟨_, _, _, _, digits, code⟩
    rw [digits, ← unitOfCode_toNat ‹_›]
    exact .digits code written
  · exact .plain ‹_› ‹_› (Char.not_lt.mp ‹_›) written

theorem writtenUnits_flatMap_escaped (text : List Char) :
    WrittenUnits (text.map .char) (text.flatMap Text.escaped) := by
  induction text with
  | nil => exact .nil
  | cons c _ ih => exact writtenUnits_escaped c ih

theorem joinUnits?_map_char (text : List Char) : joinUnits? (text.map .char) = some text := by
  induction text with
  | nil => rfl
  | cons c text ih => simp [joinUnits?, ih]

theorem writtenString_stringChars (content : Option String) :
    WrittenString content (stringChars content) := by
  cases content with
  | none => exact .intro (.digits (rfl : hex4? 'd' '8' '0' '0' = some 0xd800) .nil)
  | some text =>
    have written := WrittenString.intro (writtenUnits_flatMap_escaped text.toList)
    rwa [unitsText?, joinUnits?_map_char, Option.map_some, String.ofList_toList] at written

/-! ## Documents -/

/-- A document whose tokens can all be written. -/
inductive Regular : Json → Prop
  | null : Regular .null
  | bool (value : Bool) : Regular (.bool value)
  | number {token : NumberToken} : IsWritable token → Regular (.number token)
  | string (content : Option String) : Regular (.string content)
  | array {items : List Json} : (∀ item ∈ items, Regular item) → Regular (.array items)
  | object {members : List (Option String × Json)} :
      (∀ member ∈ members, Regular member.2) → Regular (.object members)

theorem blanks_nil : Blanks [] := nofun

theorem Written.tight {document : Json} {text : List Char}
    (written : Written (.value document) text) : Written (.spaced document) text := by
  have spaced := Written.spaced blanks_nil written blanks_nil
  rwa [List.nil_append, List.append_nil] at spaced

theorem writtenKey_stringChars (key : Option String) : WrittenKey key (stringChars key) := by
  have spaced := WrittenKey.intro blanks_nil (writtenString_stringChars key) blanks_nil
  rwa [List.nil_append, List.append_nil] at spaced

theorem written_itemChars {items : List Json} (some : items ≠ [])
    (written : ∀ item ∈ items, Written (.value item) item.chars) :
    Written (.items items) (itemChars items) := by
  induction items with
  | nil => exact absurd rfl some
  | cons item others ih =>
    have first := (written item List.mem_cons_self).tight
    cases others with
    | nil => exact .lastItem first
    | cons next rest =>
      exact .nextItem first (ih nofun fun item member => written item (.tail _ member))

theorem written_memberChars {members : List (Option String × Json)} (some : members ≠ [])
    (written : ∀ member ∈ members, Written (.value member.2) member.2.chars) :
    Written (.members members) (memberChars members) := by
  induction members with
  | nil => exact absurd rfl some
  | cons member others ih =>
    have key := writtenKey_stringChars member.1
    have first := (written member List.mem_cons_self).tight
    cases others with
    | nil => exact .lastMember key first
    | cons next rest =>
      have more := ih nofun fun member found => written member (.tail _ found)
      have text := Written.nextMember key first more
      rwa [← List.cons_append, ← List.append_assoc] at text

/-- The compact writing is a writing. -/
theorem written_chars {document : Json} (regular : Regular document) :
    Written (.value document) document.chars := by
  induction regular with
  | null => exact .null
  | bool value =>
    cases value with
    | true => exact .yes
    | false => exact .no
  | number writable => exact .number (writtenNumber_tokenChars writable)
  | string content => exact .string (writtenString_stringChars content)
  | @array items _ ih =>
    by_cases none : items = []
    · subst none
      exact .emptyArray blanks_nil
    · exact .array (written_itemChars none ih)
  | @object members _ ih =>
    by_cases none : members = []
    · subst none
      exact .emptyObject blanks_nil
    · exact .object (written_memberChars none ih)

theorem isText_compact {document : Json} (regular : Regular document) :
    IsText document document.compact := by
  rw [IsText, compact, String.toList_ofList]
  exact (written_chars regular).tight

/-- Reading undoes the compact writing. -/
theorem ofString?_compact {document : Json} (regular : Regular document) :
    ofString? document.compact = some document :=
  ofString?_of_isText (isText_compact regular)

/-! ## Building documents -/

theorem regular_ofText (text : String) : Regular (.ofText text) := .string _

theorem regular_ofNat (n : Nat) : Regular (.ofNat n) := .number fun _ => rfl

theorem regular_ofTexts (texts : List String) : Regular (.ofTexts texts) := by
  apply Regular.array
  intro item member
  rcases List.mem_map.mp member with ⟨text, _, rfl⟩
  exact regular_ofText text

theorem regular_ofMembers {members : List (String × Json)}
    (regular : ∀ member ∈ members, Regular member.2) : Regular (.ofMembers members) := by
  apply Regular.object
  intro member found
  rcases List.mem_map.mp found with ⟨member', found', rfl⟩
  exact regular member' found'

end Json
end StorageTelemetry
