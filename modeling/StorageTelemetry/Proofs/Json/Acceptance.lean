import StorageTelemetry.Proofs.Json.Writing

namespace StorageTelemetry
namespace Json

/-!
# Nothing but writings of documents is read

Whatever a part of the reader consumes is a writing of what it returns.  Together
with the completeness of the reader this makes the grammar exact: a text is read as
a document if it stands for it, and not otherwise.  A document that was read can be
written, and two that are written alike are the same.
-/

section

variable {text rest rest' : List Char}

/-! ## Numbers -/

theorem minusSign_eq (text : List Char) :
    (if (minusSign text).1 then ['-'] else []) ++ (minusSign text).2 = text := by
  unfold minusSign
  split <;> rfl

theorem digitRun_eq (text : List Char) : (digitRun text).1 ++ (digitRun text).2 = text :=
  List.takeWhile_append_dropWhile

theorem digits_digitRun (some : (digitRun text).1.isEmpty = false) :
    Digits (digitRun text).1 where
  nonempty none := by simp [none] at some
  digit := List.all_eq_true.mp List.all_takeWhile

theorem writtenFraction_of_fraction? {fraction : Option (List Char)}
    (read : fraction? text = some (fraction, rest)) :
    ∃ point, text = point ++ rest ∧ WrittenFraction fraction point := by
  unfold fraction? at read
  split at read
  · rename_i digits
    by_cases none : (digitRun digits).1.isEmpty = true
    · simp [none] at read
    · simp only [none, Bool.false_eq_true, if_false, Option.some.injEq, Prod.mk.injEq] at read
      rcases read with ⟨rfl, rfl⟩
      refine ⟨_, ?_, .present (digits_digitRun (Bool.eq_false_iff.mpr none))⟩
      rw [List.cons_append, digitRun_eq]
  · rcases Prod.mk.inj (Option.some.inj read) with ⟨rfl, rfl⟩
    exact ⟨[], rfl, .absent⟩

/-- An exponent is a sign and the digits behind it. -/
theorem signedExponent?_eq (text : List Char) :
    ∃ negative sign unsigned, WrittenSign negative sign ∧ text = sign ++ unsigned ∧
      signedExponent? text =
        if (digitRun unsigned).1.isEmpty then none
        else
          let size : Int := Text.digitsValue (digitRun unsigned).1
          some (if negative then -size else size, (digitRun unsigned).2) := by
  unfold signedExponent?
  split
  rename_i split
  split at split
  · cases split
    exact ⟨true, ['-'], _, .minus, rfl, rfl⟩
  · cases split
    exact ⟨false, ['+'], _, .plus, rfl, rfl⟩
  · cases split
    exact ⟨false, [], _, .absent, rfl, rfl⟩

theorem writtenExponent_of_signedExponent? {scale : Int} {letter : Char}
    (exponential : letter = 'e' ∨ letter = 'E')
    (read : signedExponent? text = some (scale, rest)) :
    ∃ power, letter :: text = power ++ rest ∧ WrittenExponent (some scale) power := by
  rcases signedExponent?_eq text with ⟨negative, sign, unsigned, signed, rfl, run⟩
  rw [run] at read
  by_cases none : (digitRun unsigned).1.isEmpty = true
  · simp [none] at read
  · rw [if_neg none] at read
    rcases Prod.mk.inj (Option.some.inj read) with ⟨rfl, rfl⟩
    refine ⟨_, ?_, .present exponential signed (digits_digitRun (Bool.eq_false_iff.mpr none))⟩
    rw [List.cons_append, List.append_assoc, digitRun_eq]

theorem writtenExponent_of_exponent? {exponent : Option Int}
    (read : exponent? text = some (exponent, rest)) :
    ∃ power, text = power ++ rest ∧ WrittenExponent exponent power := by
  unfold exponent? at read
  split at read
  · rcases Option.map_eq_some_iff.mp read with ⟨⟨scale, rest'⟩, read', same⟩
    cases same
    exact writtenExponent_of_signedExponent? (.inl rfl) read'
  · rcases Option.map_eq_some_iff.mp read with ⟨⟨scale, rest'⟩, read', same⟩
    cases same
    exact writtenExponent_of_signedExponent? (.inr rfl) read'
  · rcases Prod.mk.inj (Option.some.inj read) with ⟨rfl, rfl⟩
    exact ⟨[], rfl, .absent⟩

theorem wholeDigits_digitRun
    (checked : (!(digitRun text).1.isEmpty &&
      ((digitRun text).1.length == 1 || (digitRun text).1.head? != some '0')) = true) :
    WholeDigits (digitRun text).1 := by
  simp only [Bool.and_eq_true, Bool.not_eq_true', Bool.or_eq_true, beq_iff_eq,
    bne_iff_ne] at checked
  exact ⟨digits_digitRun checked.1, checked.2⟩

theorem writtenNumber_of_number? {token : NumberToken} (read : number? text = some (token, rest)) :
    ∃ written, text = written ++ rest ∧ WrittenNumber token written := by
  simp only [number?, Option.bind_eq_bind, Option.bind_eq_some_iff] at read
  rcases read with ⟨_, checked, ⟨fraction, powered⟩, point, ⟨exponent, rest'⟩, power, same⟩
  cases same
  have whole := wholeDigits_digitRun ((Option.guard_eq_some' _).mp checked)
  rcases writtenFraction_of_fraction? point with ⟨point, split, fraction'⟩
  rcases writtenExponent_of_exponent? power with ⟨power, split', exponent'⟩
  refine ⟨_, ?_, .intro (minusSign text).1 whole fraction' exponent'⟩
  simp only at split split'
  rw [List.append_assoc, ← split', List.append_assoc, ← split, List.append_assoc, digitRun_eq,
    minusSign_eq]

/-! ## Strings -/

theorem writtenUnits_of_stringUnits? {units : List StringUnit}
    (read : stringUnits? text = some (units, rest)) :
    ∃ written, text = written ++ '"' :: rest ∧ WrittenUnits units written := by
  fun_induction stringUnits? text generalizing units with
  | case1 => cases read
  | case2 rest =>
    cases read
    exact ⟨[], rfl, .nil⟩
  | case3 a b c d others ih =>
    simp only [Option.bind_eq_bind, Option.bind_eq_some_iff] at read
    rcases read with ⟨code, digits, ⟨units', rest'⟩, read', same⟩
    cases same
    rcases ih read' with ⟨written, rfl, units⟩
    exact ⟨_, rfl, .digits digits units⟩
  | case4 letter others _ ih =>
    simp only [Option.bind_eq_bind, Option.bind_eq_some_iff] at read
    rcases read with ⟨c, escape, ⟨units', rest'⟩, read', same⟩
    cases same
    rcases ih read' with ⟨written, rfl, units⟩
    exact ⟨_, rfl, .letter escape units⟩
  | case5 c others quote _ _ ih =>
    simp only [Option.bind_eq_bind, Option.bind_eq_some_iff] at read
    rcases read with ⟨_, checked, ⟨units', rest'⟩, read', same⟩
    cases same
    rcases ih read' with ⟨written, rfl, units⟩
    have plain := (Option.guard_eq_some' _).mp checked
    simp only [Bool.and_eq_true, bne_iff_ne, decide_eq_true_eq] at plain
    exact ⟨_, rfl, .plain quote plain.1 plain.2 units⟩

theorem writtenString_of_stringToken? {content : Option String}
    (read : stringToken? text = some (content, rest)) :
    ∃ others, text = others ++ rest ∧ WrittenString content ('"' :: others) := by
  rcases Option.map_eq_some_iff.mp read with ⟨⟨units, rest'⟩, read', same⟩
  cases same
  rcases writtenUnits_of_stringUnits? read' with ⟨written, rfl, units⟩
  exact ⟨written ++ ['"'], by simp, .intro units⟩

/-! ## Documents -/

theorem exists_skipBlank_eq (text : List Char) : ∃ gap, Blanks gap ∧ text = gap ++ skipBlank text :=
  ⟨text.takeWhile isBlank, List.all_eq_true.mp List.all_takeWhile,
    List.takeWhile_append_dropWhile.symm⟩

/-- Whether what a step of the reader accepts is a writing of what it returns. -/
structure Accepts (steps : Nat) : Prop where
  value {document : Json} {text rest : List Char} :
    value? steps text = some (document, rest) →
      ∃ gap written, Blanks gap ∧ text = gap ++ (written ++ rest) ∧
        Written (.value document) written
  items {items : List Json} {text rest : List Char} :
    items? steps text = some (items, rest) →
      ∃ written, text = written ++ ']' :: rest ∧ Written (.items items) written
  members {members : List (Option String × Json)} {text rest : List Char} :
    members? steps text = some (members, rest) →
      ∃ written, text = written ++ '}' :: rest ∧ Written (.members members) written

theorem spaced_of_value {steps : Nat} (accepts : Accepts steps) {document : Json} {c : Char}
    (read : value? steps text = some (document, rest)) (close : skipBlank rest = c :: rest') :
    ∃ written, text = written ++ c :: rest' ∧ Written (.spaced document) written := by
  rcases accepts.value read with ⟨before, written, blanks, rfl, value⟩
  rcases exists_skipBlank_eq rest with ⟨after, blanks', split⟩
  refine ⟨_, ?_, .spaced blanks value blanks'⟩
  rw [List.append_assoc, List.append_assoc, ← close, ← split]

/-- Behind its blanks a document is accepted token by token. -/
theorem written_of_value?_succ {steps : Nat} (accepts : Accepts steps) {document : Json}
    (read : value? (steps + 1) text = some (document, rest)) :
    ∃ written, skipBlank text = written ++ rest ∧ Written (.value document) written := by
  unfold value? at read
  generalize skipBlank text = token at read ⊢
  split at read
  · cases read
    exact ⟨_, rfl, .null⟩
  · cases read
    exact ⟨_, rfl, .yes⟩
  · cases read
    exact ⟨_, rfl, .no⟩
  · rcases Option.map_eq_some_iff.mp read with ⟨⟨content, _⟩, string, same⟩
    cases same
    rcases writtenString_of_stringToken? string with ⟨others, rfl, units⟩
    exact ⟨_, rfl, .string units⟩
  · rename_i inner
    split at read
    · rename_i close
      cases read
      rcases exists_skipBlank_eq inner with ⟨gap, blanks, split⟩
      rw [split, close]
      exact ⟨_, by simp, .emptyArray blanks⟩
    · rcases Option.map_eq_some_iff.mp read with ⟨⟨items, _⟩, inside, same⟩
      cases same
      rcases accepts.items (items?_skipBlank ▸ inside) with ⟨written, rfl, items⟩
      exact ⟨_, by simp, .array items⟩
  · rename_i inner
    split at read
    · rename_i close
      cases read
      rcases exists_skipBlank_eq inner with ⟨gap, blanks, split⟩
      rw [split, close]
      exact ⟨_, by simp, .emptyObject blanks⟩
    · rcases Option.map_eq_some_iff.mp read with ⟨⟨members, _⟩, inside, same⟩
      cases same
      rcases accepts.members (members?_skipBlank ▸ inside) with ⟨written, rfl, members⟩
      exact ⟨_, by simp, .object members⟩
  · rcases Option.map_eq_some_iff.mp read with ⟨⟨token, _⟩, number, same⟩
    cases same
    rcases writtenNumber_of_number? number with ⟨written, rfl, parts⟩
    exact ⟨_, rfl, .number parts⟩

theorem written_of_items?_succ {steps : Nat} (accepts : Accepts steps) {items : List Json}
    (read : items? (steps + 1) text = some (items, rest)) :
    ∃ written, text = written ++ ']' :: rest ∧ Written (.items items) written := by
  simp only [items?, Option.bind_eq_bind, Option.bind_eq_some_iff] at read
  rcases read with ⟨⟨item, _⟩, value, tail⟩
  dsimp only at tail
  split at tail
  · simp only [Option.bind_eq_some_iff] at tail
    rcases tail with ⟨⟨others, _⟩, next, same⟩
    cases same
    rcases spaced_of_value accepts value ‹_› with ⟨written, rfl, first⟩
    rcases accepts.items next with ⟨written', rfl, others⟩
    exact ⟨_, by simp, .nextItem first others⟩
  · cases tail
    rcases spaced_of_value accepts value ‹_› with ⟨written, rfl, first⟩
    exact ⟨_, rfl, .lastItem first⟩
  · cases tail

theorem writtenKey_of_stringToken? {key : Option String} {others : List Char}
    (quote : skipBlank text = '"' :: others) (read : stringToken? others = some (key, rest))
    (colon : skipBlank rest = ':' :: rest') :
    ∃ name, text = name ++ ':' :: rest' ∧ WrittenKey key name := by
  rcases exists_skipBlank_eq text with ⟨before, blanks, split⟩
  rcases exists_skipBlank_eq rest with ⟨after, blanks', split'⟩
  rcases writtenString_of_stringToken? read with ⟨characters, rfl, string⟩
  refine ⟨_, ?_, .intro blanks string blanks'⟩
  rw [List.append_assoc, List.append_assoc, ← colon, ← split', List.cons_append, ← quote, ← split]

theorem written_of_members?_succ {steps : Nat} (accepts : Accepts steps)
    {members : List (Option String × Json)}
    (read : members? (steps + 1) text = some (members, rest)) :
    ∃ written, text = written ++ '}' :: rest ∧ Written (.members members) written := by
  unfold members? at read
  split at read
  · simp only [Option.bind_eq_bind, Option.bind_eq_some_iff] at read
    rcases read with ⟨⟨key, afterKey⟩, string, tail⟩
    dsimp only at tail
    split at tail
    · simp only [Option.bind_eq_some_iff] at tail
      rcases tail with ⟨⟨value, _⟩, read, tail⟩
      rcases writtenKey_of_stringToken? ‹_› string ‹_› with ⟨name, rfl, key⟩
      dsimp only at tail
      split at tail
      · simp only [Option.bind_eq_some_iff] at tail
        rcases tail with ⟨⟨entries, _⟩, next, same⟩
        cases same
        rcases spaced_of_value accepts read ‹_› with ⟨written, rfl, first⟩
        rcases accepts.members next with ⟨written', rfl, entries⟩
        exact ⟨_, by simp, .nextMember key first entries⟩
      · cases tail
        rcases spaced_of_value accepts read ‹_› with ⟨written, rfl, first⟩
        exact ⟨_, by simp, .lastMember key first⟩
      · cases tail
    · cases tail
  · cases read

theorem accepts (steps : Nat) : Accepts steps := by
  induction steps with
  | zero => exact ⟨nofun, nofun, nofun⟩
  | succ steps ih =>
    refine ⟨?_, written_of_items?_succ ih, written_of_members?_succ ih⟩
    intro document text rest read
    rcases exists_skipBlank_eq text with ⟨gap, blanks, split⟩
    rcases written_of_value?_succ ih read with ⟨written, behind, value⟩
    exact ⟨gap, written, blanks, behind ▸ split, value⟩

end

/-- A text is read as a document exactly if it stands for it. -/
theorem ofString?_eq_some_iff {text : String} {document : Json} :
    ofString? text = some document ↔ IsText document text := by
  refine ⟨fun read => ?_, ofString?_of_isText⟩
  unfold ofString? read? at read
  split at read
  · rename_i rest value
    split at read
    · rename_i nothing
      cases read
      rcases (accepts _).value value with ⟨gap, written, blanks, split, document⟩
      rcases exists_skipBlank_eq rest with ⟨gap', blanks', split'⟩
      rw [List.isEmpty_iff.mp nothing, List.append_nil] at split'
      rw [IsText, split, split', ← List.append_assoc]
      exact .spaced blanks document blanks'
    · cases read
  · cases read

/-! ## Writing what was read -/

/-- Whether all documents of a phrase can be written. -/
def Phrase.Regular : Phrase → Prop
  | .value document | .spaced document => Json.Regular document
  | .items documents => ∀ document ∈ documents, Json.Regular document
  | .members entries => ∀ member ∈ entries, Json.Regular member.2

theorem isWritable_of_writtenNumber {token : NumberToken} {text : List Char}
    (written : WrittenNumber token text) : IsWritable token := by
  cases written with
  | intro _ _ point power =>
    intro integral
    cases point <;> cases power <;> first | rfl | cases integral

theorem Written.regular {phrase : Phrase} {text : List Char} (written : Written phrase text) :
    phrase.Regular := by
  induction written with
  | null => exact .null
  | yes | no => exact .bool _
  | number written => exact .number (isWritable_of_writtenNumber written)
  | string _ => exact .string _
  | emptyArray _ => exact .array nofun
  | array _ ih => exact .array ih
  | emptyObject _ => exact .object nofun
  | object _ ih => exact .object ih
  | spaced _ _ _ ih => exact ih
  | lastItem _ ih => exact List.forall_mem_cons.mpr ⟨ih, nofun⟩
  | nextItem _ _ ih ih' => exact List.forall_mem_cons.mpr ⟨ih, ih'⟩
  | lastMember _ _ ih => exact List.forall_mem_cons.mpr ⟨ih, nofun⟩
  | nextMember _ _ _ ih ih' => exact List.forall_mem_cons.mpr ⟨ih, ih'⟩

theorem regular_of_ofString? {text : String} {document : Json}
    (read : ofString? text = some document) : Regular document :=
  Written.regular (ofString?_eq_some_iff.mp read)

theorem compact_injective {first second : Json} (regular : Regular first)
    (regular' : Regular second) (same : first.compact = second.compact) : first = second := by
  apply Option.some.inj
  rw [← ofString?_compact regular, ← ofString?_compact regular', same]

/-- What a text is read as is known from how that is written. -/
theorem ofString?_eq_some_of_compact {text : String} {document : Json} (regular : Regular document)
    (same : (ofString? text).map compact = some document.compact) :
    ofString? text = some document := by
  rcases Option.map_eq_some_iff.mp same with ⟨document', read, same'⟩
  rw [read, compact_injective (regular_of_ofString? read) regular same']

end Json
end StorageTelemetry
