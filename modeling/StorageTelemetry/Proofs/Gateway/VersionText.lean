import StorageTelemetry.Gateway.Generation
import StorageTelemetry.Proofs.Json.Writing

namespace StorageTelemetry

/-!
# Which versions answer in bulk

A version is a text of which only the number at its front counts.  Blanks around it
are removed first and quotes after that, each as many as there are, and what stands
before the first dot must be a number of 32 bits and nothing else.  The order
matters: blanks within the quotes stay, and so does a quote behind a blank.

What is left when both ends of a text are trimmed is described here by what was
removed, without saying how a reader would find it.
-/

namespace Text

open Json

/-- Whether a text is another one with characters of a class on both sides, which
itself neither begins nor ends with such a character. -/
structure Trims (inClass : Char → Bool) (text core : List Char) : Prop where
  around : ∃ before after, text = before ++ (core ++ after) ∧
    (∀ c ∈ before, inClass c = true) ∧ ∀ c ∈ after, inClass c = true
  first : Stops inClass core
  last : Stops inClass core.reverse

/-- What stands before the first dot of a text, which is all of it if there is no
dot. -/
structure IsFirstPart (text part : List Char) : Prop where
  dotless : '.' ∉ part
  front : text = part ∨ ∃ rest, text = part ++ '.' :: rest

/-- Whether a text is a number in decimal digits, with or without a plus sign. -/
inductive IsDecimal (n : Nat) : List Char → Prop
  | bare {digits : List Char} :
      Digits digits → Nat.ofDigitChars 10 digits 0 = n → IsDecimal n digits
  | signed {digits : List Char} :
      Digits digits → Nat.ofDigitChars 10 digits 0 = n → IsDecimal n ('+' :: digits)

section

variable {inClass : Char → Bool} {text core before after : List Char}

/-! ## Trimming -/

theorem stops_dropWhile (inClass : Char → Bool) (text : List Char) :
    Stops inClass (text.dropWhile inClass) := by
  intro c first
  have outside := List.head?_dropWhile_not inClass text
  rw [Option.mem_def.mp first] at outside
  simpa using outside

/-- A text that stops a class stops it with anything behind it, if it is not empty. -/
theorem stops_append (stops : Stops inClass core) (some : core ≠ []) :
    Stops inClass (core ++ after) := by
  rcases List.exists_cons_of_ne_nil some with ⟨c, rest, rfl⟩
  exact stops_cons.mpr (stops_cons.mp stops)

theorem dropWhile_around (before' : ∀ c ∈ before, inClass c = true)
    (after' : ∀ c ∈ after, inClass c = true) (stops : Stops inClass core) :
    (before ++ (core ++ after)).dropWhile inClass = if core = [] then [] else core ++ after := by
  by_cases none : core = []
  · rw [if_pos none, none, List.nil_append]
    have inside : ∀ c ∈ before ++ after, inClass c = true :=
      fun c member => (List.mem_append.mp member).elim (before' c) (after' c)
    have nothing : (before ++ after ++ []).dropWhile inClass = [] := dropWhile_append inside nofun
    rwa [List.append_nil] at nothing
  · rw [if_neg none]
    exact dropWhile_append before' (stops_append stops none)

/-- There is only one text that is left by trimming. -/
theorem Trims.trimEnds_eq (trims : Trims inClass text core) : trimEnds inClass text = core := by
  rcases trims.around with ⟨before, after, rfl, before', after'⟩
  rw [trimEnds, dropWhile_around before' after' trims.first]
  by_cases none : core = []
  · rw [if_pos none, none]
    rfl
  · have after'' : ∀ c ∈ after.reverse, inClass c = true :=
      fun c member => after' c (List.mem_reverse.mp member)
    rw [if_neg none, List.reverse_append, dropWhile_append after'' trims.last,
      List.reverse_reverse]

theorem trims_trimEnds (inClass : Char → Bool) (text : List Char) :
    Trims inClass text (trimEnds inClass text) := by
  let front := text.dropWhile inClass
  have split : front.reverse.takeWhile inClass ++ front.reverse.dropWhile inClass =
      front.reverse := List.takeWhile_append_dropWhile
  have back : front =
      trimEnds inClass text ++ (front.reverse.takeWhile inClass).reverse := by
    rw [trimEnds, ← List.reverse_append, split, List.reverse_reverse]
  constructor
  · refine ⟨text.takeWhile inClass, (front.reverse.takeWhile inClass).reverse, ?_, ?_, ?_⟩
    · rw [← back, List.takeWhile_append_dropWhile]
    · exact List.all_eq_true.mp List.all_takeWhile
    · intro c member
      exact List.all_eq_true.mp List.all_takeWhile c (List.mem_reverse.mp member)
  · -- The front of what is left is the front of what was left before.
    intro c first
    apply stops_dropWhile inClass text c
    have first' := Option.mem_def.mp first
    have whole : front.head? = some c := by
      rw [back, List.head?_append, first', Option.some_or]
    exact Option.mem_def.mpr whole
  · rw [trimEnds, List.reverse_reverse]
    exact stops_dropWhile inClass front.reverse

theorem dropWhile_append_cons {c : Char} (outside : inClass c = false) (front rest : List Char) :
    (front ++ c :: rest).dropWhile inClass = front.dropWhile inClass ++ c :: rest := by
  have stays : (c :: rest).dropWhile inClass = c :: rest :=
    List.dropWhile_cons_of_neg (Bool.eq_false_iff.mp outside)
  rw [List.dropWhile_append, stays]
  split
  · rename_i empty
    rw [List.isEmpty_iff.mp empty, List.nil_append]
  · rfl

theorem takeWhile_append_cons {c : Char} (outside : inClass c = false) (front rest : List Char) :
    (front ++ c :: rest).takeWhile inClass = front.takeWhile inClass := by
  induction front with
  | nil => exact List.takeWhile_cons_of_neg (Bool.eq_false_iff.mp outside)
  | cons first front ih =>
    cases inside : inClass first with
    | true => simp [inside, ih]
    | false => simp [inside]

/-- Trimming passes no character outside of the class. -/
theorem exists_trimEnds_append_cons {c : Char} (outside : inClass c = false)
    (front rest : List Char) :
    ∃ rest', trimEnds inClass (front ++ c :: rest) = front.dropWhile inClass ++ c :: rest' := by
  refine ⟨(rest.reverse.dropWhile inClass).reverse, ?_⟩
  rw [trimEnds, dropWhile_append_cons outside, List.reverse_append, List.reverse_cons,
    List.append_assoc, List.singleton_append, dropWhile_append_cons outside]
  simp

/-! ## Parts -/

theorem isFirstPart_iff {part : List Char} :
    IsFirstPart text part ↔ text.takeWhile (· ≠ '.') = part := by
  constructor
  · rintro ⟨dotless, front⟩
    have inside : ∀ c ∈ part, decide (c ≠ '.') = true := by
      intro c member
      apply decide_eq_true
      rintro rfl
      exact dotless member
    rcases front with rfl | ⟨rest, rfl⟩
    · have whole : (text ++ []).takeWhile (· ≠ '.') = text := takeWhile_append inside nofun
      rwa [List.append_nil] at whole
    · exact takeWhile_append inside (stops_cons.mpr rfl)
  · rintro rfl
    refine ⟨?_, ?_⟩
    · intro member
      have inside := List.all_eq_true.mp List.all_takeWhile _ member
      cases inside
    · rcases rest : text.dropWhile (· ≠ '.') with _ | ⟨c, rest'⟩
      · left
        have split := List.takeWhile_append_dropWhile (p := (· ≠ '.')) (l := text)
        rw [rest, List.append_nil] at split
        exact split.symm
      · right
        have dot : c = '.' := by
          have outside := stops_dropWhile (· ≠ '.') text c (by rw [rest]; rfl)
          simpa using outside
        have split := List.takeWhile_append_dropWhile (p := (· ≠ '.')) (l := text)
        rw [rest, dot] at split
        exact ⟨rest', split.symm⟩

/-! ## Numbers -/

theorem digits?_eq_some_iff {n : Nat} :
    digits? text = some n ↔ Digits text ∧ Nat.ofDigitChars 10 text 0 = n := by
  have value : digitsValue text = Nat.ofDigitChars 10 text 0 := rfl
  unfold digits?
  by_cases digital : Digits text
  · have some : (text.isEmpty || !text.all Char.isDigit) = false := by
      simpa [digital.nonempty] using digital.digit
    simp [some, digital, value]
  · have none : (text.isEmpty || !text.all Char.isDigit) = true := by
      by_contra other
      simp only [Bool.or_eq_true, not_or, Bool.not_eq_true, Bool.not_eq_false',
        List.all_eq_true] at other
      exact digital ⟨fun empty => by simp [empty] at other, other.2⟩
    simp [none, digital]

theorem unsigned?_eq_some_iff {n : Nat} : unsigned? text = some n ↔ IsDecimal n text := by
  unfold unsigned?
  split
  · rename_i digits
    rw [digits?_eq_some_iff]
    constructor
    · rintro ⟨digital, value⟩
      exact .signed digital value
    · intro decimal
      cases decimal with
      | signed digital value => exact ⟨digital, value⟩
      | bare digital _ => cases digital.digit '+' List.mem_cons_self
  · rename_i unsigned
    rw [digits?_eq_some_iff]
    constructor
    · rintro ⟨digital, value⟩
      exact .bare digital value
    · intro decimal
      cases decimal with
      | bare digital value => exact ⟨digital, value⟩
      | signed digital _ => exact absurd rfl (unsigned _)

end

end Text

/-! ## Versions -/

namespace Generation

open Text

/-- Whether a version tells a number: the one that stands before the first dot of
what is left without the blanks and then the quotes around the version. -/
def TellsMajor (version : String) (major : Nat) : Prop :=
  ∃ outer inner part, Trims isBlank version.toList outer ∧ Trims (· = '"') outer inner ∧
    IsFirstPart inner part ∧ IsDecimal major part

theorem tellsMajor_iff {version : String} {major : Nat} :
    TellsMajor version major ↔ unsigned? (majorText version.toList) = some major := by
  rw [unsigned?_eq_some_iff]
  constructor
  · rintro ⟨outer, inner, part, blanks, quotes, first, decimal⟩
    rw [majorText, blanks.trimEnds_eq, quotes.trimEnds_eq, isFirstPart_iff.mp first]
    exact decimal
  · intro decimal
    exact ⟨_, _, _, trims_trimEnds _ _, trims_trimEnds _ _, isFirstPart_iff.mpr rfl, decimal⟩

theorem ofVersion_eq_bulk_iff {version : String} :
    ofVersion version = .bulk ↔
      ∃ major, TellsMajor version major ∧ firstBulkMajor ≤ major ∧ major < twoPow 32 := by
  simp only [tellsMajor_iff, ofVersion, decimal32?]
  cases unsigned? (majorText version.toList) with
  | none => simp
  | some major =>
    rw [Option.filter_some]
    by_cases short : major < twoPow 32
    · simp [short]
    · simp [short]

theorem ofVersion_eq_legacy_iff {version : String} :
    ofVersion version = .legacy ↔
      ¬∃ major, TellsMajor version major ∧ firstBulkMajor ≤ major ∧ major < twoPow 32 := by
  rw [← ofVersion_eq_bulk_iff]
  cases ofVersion version with
  | legacy => simp
  | bulk => simp

/-- What stands behind a dot does not count, since neither blanks nor quotes are
removed beyond it. -/
theorem majorText_append_dot (front rest : List Char) :
    majorText (front ++ '.' :: rest) =
      ((front.dropWhile isBlank).dropWhile (· = '"')).takeWhile (· ≠ '.') := by
  rcases exists_trimEnds_append_cons (rfl : isBlank '.' = false) front rest with ⟨rest', outer⟩
  rcases @exists_trimEnds_append_cons (· = '"') '.' rfl (front.dropWhile isBlank) rest' with
    ⟨rest'', inner⟩
  rw [majorText, outer, inner]
  exact takeWhile_append_cons rfl _ _

theorem isBlank_eq_false_of_isDigit {c : Char} (digit : c.isDigit = true) :
    isBlank c = false := by
  rcases Char.isDigit_iff_toNat.mp digit with ⟨low, high⟩
  have low' : 48 ≤ c.toNat := low
  have high' : c.toNat ≤ 57 := high
  simp only [isBlank, blankRanges, inRanges, Bool.and_eq_false_iff, Bool.or_eq_false_iff,
    decide_eq_false_iff_not]
  omega

section

variable {before quotes number : List Char} {n : Nat}

/-- Digits are not removed with the blanks and the quotes in front of them. -/
theorem majorText_of_padding (before' : ∀ c ∈ before, isBlank c = true)
    (quotes' : ∀ c ∈ quotes, c = '"') (digital : Json.Digits number) (rest : List Char) :
    majorText (before ++ (quotes ++ number) ++ '.' :: rest) = number := by
  have outer : Json.Stops isBlank (quotes ++ number) := by
    cases quotes with
    | nil =>
      intro c first
      exact isBlank_eq_false_of_isDigit (digital.digit c (List.mem_of_mem_head? first))
    | cons c quotes =>
      rw [quotes' c List.mem_cons_self]
      exact Json.stops_cons.mpr rfl
  have inner : Json.Stops (· = '"') number := by
    intro c first
    apply decide_eq_false
    rintro rfl
    cases digital.digit '"' (List.mem_of_mem_head? first)
  have dotless : number.takeWhile (· ≠ '.') = number := by
    apply isFirstPart_iff.mp
    refine ⟨?_, .inl rfl⟩
    intro member
    cases digital.digit '.' member
  have quotes'' : ∀ c ∈ quotes, decide (c = '"') = true :=
    fun c member => decide_eq_true (quotes' c member)
  rw [majorText_append_dot, Json.dropWhile_append before' outer,
    Json.dropWhile_append quotes'' inner, dotless]

theorem ofVersion_of_padding
    (before' : ∀ c ∈ before, isBlank c = true) (quotes' : ∀ c ∈ quotes, c = '"')
    (many : firstBulkMajor ≤ n) (short : n < twoPow 32) (zeros : Nat) (rest : List Char) :
    ofVersion (String.ofList (before ++
      (quotes ++ (List.replicate zeros '0' ++ Nat.toDigits 10 n)) ++ '.' :: rest)) = .bulk := by
  apply ofVersion_eq_bulk_iff.mpr
  refine ⟨n, tellsMajor_iff.mpr ?_, many, short⟩
  have digital := Json.digits_zeros zeros n
  rw [String.toList_ofList, majorText_of_padding before' quotes' digital, unsigned?_eq_some_iff]
  exact .bare digital (Json.digitsValue_zeros zeros n)

end

theorem ofVersion_append_dot (front rest rest' : String) :
    ofVersion (front ++ "." ++ rest) = ofVersion (front ++ "." ++ rest') := by
  have same : majorText (front ++ "." ++ rest).toList =
      majorText (front ++ "." ++ rest').toList := by
    have dot : ".".toList = ['.'] := rfl
    simp only [String.toList_append, dot, List.append_assoc, List.singleton_append,
      majorText_append_dot]
  rw [ofVersion, ofVersion, same]

/-- A version answers in bulk exactly if it tells a number of 32 bits from the fifth
on, and is old otherwise.  Such a number is told in whatever way it is padded, and
nothing behind the first dot changes the answer. -/
theorem bulk_from_fifth_major :
    (∀ version : String,
      (ofVersion version = .bulk ↔
        ∃ major, TellsMajor version major ∧ 5 ≤ major ∧ major < twoPow 32) ∧
      (ofVersion version = .legacy ↔
        ¬∃ major, TellsMajor version major ∧ 5 ≤ major ∧ major < twoPow 32)) ∧
    (∀ (n zeros : Nat) (suffix before after quote : List Char),
      5 ≤ n → n < twoPow 32 → (∀ c ∈ before, isBlank c = true) →
      (∀ c ∈ after, isBlank c = true) → quote = [] ∨ quote = ['"'] →
      ofVersion (String.ofList (before ++
        (quote ++ (List.replicate zeros '0' ++ Nat.toDigits 10 n)) ++
          '.' :: (suffix ++ quote ++ after))) = .bulk) ∧
    ∀ front rest rest' : String,
      ofVersion (front ++ "." ++ rest) = ofVersion (front ++ "." ++ rest') := by
  refine ⟨fun version => ⟨ofVersion_eq_bulk_iff, ofVersion_eq_legacy_iff⟩, ?_,
    ofVersion_append_dot⟩
  intro n zeros suffix before after quote many short before' _ quote'
  have quotes' : ∀ c ∈ quote, c = '"' := by
    rcases quote' with rfl | rfl
    · exact fun c member => (List.not_mem_nil member).elim
    · exact fun c member => List.mem_singleton.mp member
  exact ofVersion_of_padding before' quotes' many short zeros _

/-- A padded and quoted version with a zero in front of its number. -/
theorem bulk_from_padded_seven :
    5 ≤ 7 ∧ 7 < twoPow 32 ∧ (∀ c ∈ ['\u2003'], isBlank c = true) ∧
      ofVersion "\u2003\"07.beta\"\u2003" = .bulk :=
  have short : 7 < twoPow 32 := by decide
  have blank : ∀ c ∈ ['\u2003'], isBlank c = true := List.forall_mem_singleton.mpr rfl
  ⟨by decide, short, blank,
    bulk_from_fifth_major.2.1 7 1 "beta".toList ['\u2003'] ['\u2003'] ['"'] (by decide) short
      blank blank (.inr rfl)⟩

end Generation
end StorageTelemetry
