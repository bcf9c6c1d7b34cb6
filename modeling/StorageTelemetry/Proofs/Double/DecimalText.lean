import StorageTelemetry.Json.Fields
import StorageTelemetry.Proofs.Double.ShortestDecimals
import StorageTelemetry.Proofs.Json.Writing

namespace StorageTelemetry

/-!
# The text of a double

A finite double is written as a number without exponent: the digits of its shortest
decimal, with zeros behind them or a point among them or in front.  Wherever the
point stands the decimal is the same, so the number reads back as the double.
-/

namespace Double

/-- The double that a text denotes. -/
def readText? (text : List Char) : Option Double :=
  if text = "NaN".toList then some .nan
  else if text = "inf".toList then some (.infinite false)
  else if text = "-inf".toList then some (.infinite true)
  else
    match Json.number? text with
    | some (token, []) => some (Json.tokenDouble token)
    | _ => none

/-! ## Digits around a point -/

theorem digitsValue_append_zeros (n zeros : Nat) :
    Text.digitsValue (Nat.toDigits 10 n ++ List.replicate zeros '0') = n * tenPow zeros := by
  induction zeros with
  | zero =>
      rw [List.replicate_zero, List.append_nil, Json.digitsValue_toDigits]
      exact (Nat.mul_one n).symm
  | succ zeros ih =>
      have next : ∀ text, Text.digitsValue (text ++ ['0']) = Text.digitsValue text * 10 := by
        intro text
        rw [Text.digitsValue, List.foldl_append, Nat.mul_comm]
        rfl
      rw [List.replicate_succ', ← List.append_assoc, next, ih, Nat.mul_assoc, tenPow_add]
      rfl

/-- Whether a text is a number that denotes a decimal. -/
def WritesDecimal (text : List Char) (negative : Bool) (digits : Nat) (exponent : Int) : Prop :=
  ∃ token, Json.WrittenNumber token text ∧ token.negative = negative ∧
    decimalPoint token.digits token.scale = decimalPoint digits exponent ∧
      (-token.scale).toNat = (-exponent).toNat

/-- The sign of a number. -/
def signChars (negative : Bool) : List Char := if negative then ['-'] else []

section

variable {digits : Nat} {exponent : Int} (negative : Bool)

/-- Zeros behind the digits stand for a power of ten. -/
theorem writesDecimal_whole (positive : 0 < digits) (whole : 0 ≤ exponent) :
    WritesDecimal (signChars negative ++
      (Nat.toDigits 10 digits ++ List.replicate exponent.toNat '0')) negative digits exponent := by
  have text := Json.digits_toDigits digits
  have digital : Json.WholeDigits
      (Nat.toDigits 10 digits ++ List.replicate exponent.toNat '0') := by
    refine ⟨⟨by simp [text.nonempty], ?_⟩, .inr ?_⟩
    · intro c member
      rcases List.mem_append.mp member with digit | zero
      · exact text.digit c digit
      · rw [(List.mem_replicate.mp zero).2]
        rfl
    · rw [List.head?_append, Option.or_of_isSome (by simp)]
      exact Json.head?_toDigits_ne_zero positive
  have written := Json.WrittenNumber.intro negative digital .absent .absent
  rw [List.append_nil, List.append_nil] at written
  have scale : (-exponent).toNat = 0 := Int.toNat_of_nonpos (by omega)
  refine ⟨_, written, rfl, ?_, scale.symm⟩
  simp only [Json.tokenOf, Option.getD_none, List.append_nil, digitsValue_append_zeros]
  rw [decimalPoint_eq, decimalPoint_eq]
  congr 1
  exact Nat.mul_one _

/-- A number with a point denotes its digits at the place of the last. -/
theorem writesDecimal_point {whole places : List Char} (digital : Json.WholeDigits whole)
    (digital' : Json.Digits places) (value : Text.digitsValue (whole ++ places) = digits)
    (places_eq : exponent = -places.length) :
    WritesDecimal (signChars negative ++ (whole ++ '.' :: places)) negative digits exponent := by
  have written := Json.WrittenNumber.intro negative digital (.present digital') .absent
  rw [List.append_nil, List.append_assoc] at written
  refine ⟨_, written, rfl, ?_, ?_⟩
  · simp only [Json.tokenOf, Option.getD_some, Option.getD_none, value, places_eq, Int.zero_sub]
  · simp only [Json.tokenOf, Option.getD_some, Option.getD_none, places_eq, Int.zero_sub]

/-- The positional writing of a decimal denotes it. -/
theorem writesDecimal_positional (positive : 0 < digits) :
    WritesDecimal (signChars negative ++ (positional digits exponent).toList) negative digits
      exponent := by
  have text := Json.digits_toDigits digits
  unfold positional
  dsimp only
  by_cases whole : 0 ≤ exponent
  · rw [if_pos whole, String.toList_ofList]
    exact writesDecimal_whole negative positive whole
  · rw [if_neg whole]
    by_cases inside : (-exponent).toNat < (Nat.toDigits 10 digits).length
    · rw [if_pos inside, String.toList_ofList]
      have some : (-exponent).toNat ≠ 0 := by omega
      apply writesDecimal_point negative
      · refine ⟨⟨?_, fun c member => text.digit c (List.mem_of_mem_take member)⟩, .inr ?_⟩
        · exact List.ne_nil_of_length_pos (by rw [List.length_take]; omega)
        · rw [List.head?_take, if_neg (by omega)]
          exact Json.head?_toDigits_ne_zero positive
      · refine ⟨?_, fun c member => text.digit c (List.mem_of_mem_drop member)⟩
        exact List.ne_nil_of_length_pos (by rw [List.length_drop]; omega)
      · rw [List.take_append_drop, Json.digitsValue_toDigits]
      · rw [List.length_drop]
        omega
    · rw [if_neg inside, String.toList_ofList, List.cons_append, List.cons_append]
      apply writesDecimal_point negative (Json.wholeDigits_toDigits 0) (Json.digits_zeros _ _)
      · exact Json.digitsValue_zeros _ _
      · rw [List.length_append, List.length_replicate]
        omega

end

/-! ## Reading back -/

theorem readText?_number {text : List Char} {token : NumberToken}
    (written : Json.WrittenNumber token text) : readText? text = some (Json.tokenDouble token) := by
  have stops : Json.Stops Json.goesOn [] := nofun
  have read := Json.number?_append written stops
  rw [List.append_nil] at read
  have other : ∀ name : String, Json.number? name.toList = none → text ≠ name.toList := by
    rintro name unread rfl
    cases unread.symm.trans read
  rw [readText?, if_neg (other "NaN" rfl), if_neg (other "inf" rfl), if_neg (other "-inf" rfl),
    read]

/-- A finite double is written as a number that denotes it. -/
theorem exists_writtenNumber_toText (negative : Bool) (m : Magnitude) :
    ∃ token, Json.WrittenNumber token (toText (.finite negative m)).toList ∧
      Json.tokenDouble token = .finite negative m := by
  have signed : (toText (.finite negative m)).toList =
      signChars negative ++ (magnitudeText m).toList := by
    rw [toText, String.toList_append]
    cases negative <;> rfl
  rw [signed, magnitudeText]
  by_cases zero : m.pattern = 0
  · have same : m = .zero := by
      cases m
      cases zero
      rfl
    have written := Json.WrittenNumber.intro negative (Json.wholeDigits_toDigits 0) .absent .absent
    rw [List.append_nil, List.append_nil] at written
    rw [if_pos zero]
    exact ⟨_, written, by rw [same]; rfl⟩
  · have within := within_shortestDecimal zero
    rw [if_neg zero]
    rcases writesDecimal_positional negative (within.digits_pos zero) with
      ⟨token, written, sign, point, places⟩
    have within' : DecimalWithin m token.digits token.scale := by
      rw [DecimalWithin, point, places]
      exact within
    exact ⟨token, written, sign ▸ within'.ofDecimal_eq zero token.negative⟩

/-- The text of a double reads back as the double. -/
theorem readText?_toText (x : Double) : readText? x.toText.toList = some x := by
  cases x with
  | nan => rfl
  | infinite negative => cases negative <;> rfl
  | finite negative m =>
      rcases exists_writtenNumber_toText negative m with ⟨token, written, denotes⟩
      rw [readText?_number written, denotes]

theorem newline_not_mem_toText (x : Double) : '\n' ∉ x.toText.toList := by
  cases x with
  | nan => decide
  | infinite negative => cases negative <;> decide
  | finite negative m =>
      rcases exists_writtenNumber_toText negative m with ⟨token, written, -⟩
      intro member
      rcases written.goesOn_or_sign _ member with inside | sign
      · cases inside
      · revert sign
        decide

end Double
end StorageTelemetry
