import StorageTelemetry.Proofs.Json.Tokens

namespace StorageTelemetry
namespace Json

/-!
# Every writing of a document is read

The reader is bounded by a number of steps, of which a phrase takes at most two for
each of its characters.  Within these steps a phrase is read to its end, whichever way
it was written, and what follows is left.  So a text stands for one document at most,
and the reader finds it.
-/

section

variable {steps : Nat} {gap text rest : List Char}

/-! ## Blanks -/

theorem skipBlank_append (blanks : Blanks gap) : skipBlank (gap ++ rest) = skipBlank rest :=
  List.dropWhile_append_of_pos blanks

theorem skipBlank_cons {c : Char} (token : isBlank c = false) : skipBlank (c :: rest) = c :: rest :=
  List.dropWhile_cons_of_neg (by simp [token])

theorem skipBlank_skipBlank : skipBlank (skipBlank text) = skipBlank text := by
  induction text with
  | nil => rfl
  | cons c text ih =>
    cases blank : isBlank c with
    | true => simpa [skipBlank, blank] using ih
    | false => rw [skipBlank_cons blank, skipBlank_cons blank]

theorem value?_skipBlank : value? steps (skipBlank text) = value? steps text := by
  cases steps with
  | zero => rfl
  | succ steps => simp only [value?, skipBlank_skipBlank]

theorem items?_skipBlank : items? steps (skipBlank text) = items? steps text := by
  cases steps with
  | zero => rfl
  | succ steps => simp only [items?, value?_skipBlank]

theorem members?_skipBlank : members? steps (skipBlank text) = members? steps text := by
  cases steps with
  | zero => rfl
  | succ steps => simp only [members?, skipBlank_skipBlank]

theorem goesOn_of_isBlank {c : Char} (blank : isBlank c = true) : goesOn c = false := by
  simp only [isBlank, Bool.or_eq_true, decide_eq_true_eq] at blank
  rcases blank with ((rfl | rfl) | rfl) | rfl <;> rfl

theorem Blanks.stops (blanks : Blanks gap) (stops : Stops goesOn rest) :
    Stops goesOn (gap ++ rest) := by
  cases gap with
  | nil => exact stops
  | cons c _ => exact stops_cons.mpr (goesOn_of_isBlank (blanks c List.mem_cons_self))

/-! ## First characters -/

/-- Whether a character may start a number. -/
def startsNumber (c : Char) : Bool := c.isDigit || c = '-'

theorem WrittenNumber.starts {token : NumberToken} (written : WrittenNumber token text) :
    ∃ c others, text = c :: others ∧ startsNumber c = true := by
  cases written with
  | intro negative whole _ _ =>
    cases negative with
    | true => exact ⟨'-', _, rfl, rfl⟩
    | false =>
      rcases List.exists_cons_of_ne_nil whole.nonempty with ⟨first, others, rfl⟩
      have digit := whole.digit first List.mem_cons_self
      exact ⟨first, _, rfl, by simp [startsNumber, digit]⟩

/-- A character that is neither blank nor a closing bracket. -/
structure Opens (c : Char) : Prop where
  visible : isBlank c = false
  bracket : c ≠ ']'
  brace : c ≠ '}'

theorem opens_of_startsNumber {c : Char} (starts : startsNumber c = true) : Opens c := by
  constructor
  · apply Bool.eq_false_iff.mpr
    intro blank
    simp only [isBlank, Bool.or_eq_true, decide_eq_true_eq] at blank
    rcases blank with ((rfl | rfl) | rfl) | rfl <;> cases starts
  · rintro rfl
    cases starts
  · rintro rfl
    cases starts

/-- A text that starts, behind blanks, with a character that opens something. -/
def Opened (text : List Char) : Prop :=
  ∃ gap c others, Blanks gap ∧ Opens c ∧ text = gap ++ c :: others

theorem opened_cons {c : Char} {others : List Char} (opens : Opens c) : Opened (c :: others) :=
  ⟨[], c, others, nofun, opens, rfl⟩

theorem Opened.append (opened : Opened text) (rest : List Char) : Opened (text ++ rest) := by
  rcases opened with ⟨gap, c, others, blanks, opens, rfl⟩
  exact ⟨gap, c, others ++ rest, blanks, opens, by simp⟩

theorem Opened.behind (opened : Opened text) (blanks : Blanks gap) : Opened (gap ++ text) := by
  rcases opened with ⟨gap', c, others, blanks', opens, rfl⟩
  refine ⟨gap ++ gap', c, others, ?_, opens, (List.append_assoc _ _ _).symm⟩
  exact fun c member => (List.mem_append.mp member).elim (blanks c) (blanks' c)

theorem WrittenString.opened {content : Option String} (written : WrittenString content text) :
    Opened text := by
  cases written
  exact opened_cons ⟨rfl, by decide, by decide⟩

theorem WrittenKey.opened {key : Option String} (written : WrittenKey key text) :
    Opened text := by
  cases written with
  | intro blanks string _ => exact (string.opened.behind blanks).append _

theorem Written.opened {phrase : Phrase} (written : Written phrase text) : Opened text := by
  induction written with
  | null | yes | no | emptyArray | array | emptyObject | object =>
    exact opened_cons ⟨rfl, by decide, by decide⟩
  | number written =>
    rcases written.starts with ⟨c, others, rfl, starts⟩
    exact opened_cons (opens_of_startsNumber starts)
  | string written => exact written.opened
  | spaced blanks _ _ ih => exact (ih.behind blanks).append _
  | lastItem _ ih => exact ih
  | nextItem _ _ ih _ => exact ih.append _
  | lastMember key _ _ => exact key.opened.append _
  | nextMember key _ _ _ _ => exact key.opened.append _

/-! ## Steps of the reader -/

theorem Opened.skipBlank (opened : Opened text) :
    ∃ c others, Opens c ∧ Json.skipBlank text = c :: others := by
  rcases opened with ⟨gap, c, others, blanks, opens, rfl⟩
  exact ⟨c, others, opens, (skipBlank_append blanks).trans (skipBlank_cons opens.visible)⟩

theorem value?_array (opened : Opened text) :
    value? (steps + 1) ('[' :: text) =
      (items? steps text).map fun (items, rest) => (.array items, rest) := by
  rcases opened.skipBlank with ⟨c, others, opens, first⟩
  rw [← items?_skipBlank, first]
  have bracket : skipBlank ('[' :: text) = '[' :: text := skipBlank_cons rfl
  simp [value?, bracket, first, opens.bracket]

theorem value?_object (opened : Opened text) :
    value? (steps + 1) ('{' :: text) =
      (members? steps text).map fun (members, rest) => (.object members, rest) := by
  rcases opened.skipBlank with ⟨c, others, opens, first⟩
  rw [← members?_skipBlank, first]
  have bracket : skipBlank ('{' :: text) = '{' :: text := skipBlank_cons rfl
  simp [value?, bracket, first, opens.brace]

theorem value?_number {c : Char} (starts : startsNumber c = true) :
    value? (steps + 1) (c :: text) =
      (number? (c :: text)).map fun (token, rest) => (.number token, rest) := by
  have visible := (opens_of_startsNumber starts).visible
  unfold value?
  rw [skipBlank_cons visible]
  split <;> first | rfl | simp_all [startsNumber]

/-- A key is read up to the colon behind it. -/
theorem WrittenKey.read {key : Option String} {name : List Char} (written : WrittenKey key name)
    (text : List Char) :
    ∃ others rest, skipBlank (name ++ ':' :: text) = '"' :: others ∧
      stringToken? others = some (key, rest) ∧ skipBlank rest = ':' :: text := by
  cases written with
  | @intro before _ after blanks string blanks' =>
    rcases string.read with ⟨others, rfl, read⟩
    refine ⟨others ++ (after ++ ':' :: text), after ++ ':' :: text, ?_, read _, ?_⟩
    · rw [List.append_assoc, List.append_assoc, skipBlank_append blanks, List.cons_append,
        skipBlank_cons rfl]
    · rw [skipBlank_append blanks', skipBlank_cons rfl]

end

/-! ## Phrases are read -/

namespace Phrase

/-- As many steps as a phrase may take. -/
def bound (text : List Char) : Phrase → Nat
  | value _ | spaced _ => 2 * text.length
  | items _ | members _ => 2 * text.length + 1

/-- Whether a phrase is read to its end, whatever may follow it. -/
def IsRead (steps : Nat) (text : List Char) : Phrase → Prop
  | value document =>
      ∀ rest, Stops goesOn rest → value? steps (text ++ rest) = some (document, rest)
  | spaced document =>
      ∀ rest, Stops goesOn rest →
        ∃ gap, Blanks gap ∧ value? steps (text ++ rest) = some (document, gap ++ rest)
  | items documents => ∀ rest, items? steps (text ++ ']' :: rest) = some (documents, rest)
  | members documents => ∀ rest, members? steps (text ++ '}' :: rest) = some (documents, rest)

variable {steps : Nat} {text text' name gap gap' : List Char} {document : Json}
  {documents : List Json} {key : Option String} {entries : List (Option String × Json)}

theorem isRead_number {token : NumberToken} (written : WrittenNumber token text) :
    (value (.number token)).IsRead (steps + 1) text := by
  intro rest stops
  have read := number?_append written stops
  rcases written.starts with ⟨c, others, rfl, starts⟩
  rw [List.cons_append, value?_number starts]
  exact congrArg (Option.map _) read

theorem isRead_string {content : Option String} (written : WrittenString content text) :
    (value (.string content)).IsRead (steps + 1) text := by
  intro rest _
  rcases written.read with ⟨others, rfl, read⟩
  have quote : skipBlank ('"' :: (others ++ rest)) = '"' :: (others ++ rest) := skipBlank_cons rfl
  simp [value?, quote, read]

theorem isRead_emptyArray (blanks : Blanks gap) :
    (value (.array [])).IsRead (steps + 1) ('[' :: (gap ++ [']'])) := by
  intro rest _
  have bracket : skipBlank ('[' :: (gap ++ ']' :: rest)) = '[' :: (gap ++ ']' :: rest) :=
    skipBlank_cons rfl
  have close : skipBlank (gap ++ ']' :: rest) = ']' :: rest :=
    (skipBlank_append blanks).trans (skipBlank_cons rfl)
  simp [value?, bracket, close]

theorem isRead_emptyObject (blanks : Blanks gap) :
    (value (.object [])).IsRead (steps + 1) ('{' :: (gap ++ ['}'])) := by
  intro rest _
  have brace : skipBlank ('{' :: (gap ++ '}' :: rest)) = '{' :: (gap ++ '}' :: rest) :=
    skipBlank_cons rfl
  have close : skipBlank (gap ++ '}' :: rest) = '}' :: rest :=
    (skipBlank_append blanks).trans (skipBlank_cons rfl)
  simp [value?, brace, close]

theorem isRead_array (opened : Opened text) (inner : (items documents).IsRead steps text) :
    (value (.array documents)).IsRead (steps + 1) ('[' :: (text ++ [']'])) := by
  intro rest _
  have read := inner rest
  rw [List.cons_append, List.append_assoc, List.singleton_append,
    value?_array (opened.append _), read]
  rfl

theorem isRead_object (opened : Opened text) (inner : (members entries).IsRead steps text) :
    (value (.object entries)).IsRead (steps + 1) ('{' :: (text ++ ['}'])) := by
  intro rest _
  have read := inner rest
  rw [List.cons_append, List.append_assoc, List.singleton_append,
    value?_object (opened.append _), read]
  rfl

theorem isRead_spaced (before : Blanks gap) (after : Blanks gap')
    (inner : (value document).IsRead steps text) :
    (spaced document).IsRead steps (gap ++ text ++ gap') := by
  intro rest stops
  refine ⟨gap', after, ?_⟩
  rw [List.append_assoc, List.append_assoc, ← value?_skipBlank, skipBlank_append before,
    value?_skipBlank]
  exact inner _ (after.stops stops)

/-- What follows a document in a list or an object is nothing that a number could go
on with. -/
theorem IsRead.before (inner : (spaced document).IsRead steps text) {c : Char}
    (close : goesOn c = false) (visible : isBlank c = false) (rest : List Char) :
    ∃ rest', value? steps (text ++ c :: rest) = some (document, rest') ∧
      skipBlank rest' = c :: rest := by
  rcases inner (c :: rest) (stops_cons.mpr close) with ⟨gap, blanks, read⟩
  exact ⟨_, read, (skipBlank_append blanks).trans (skipBlank_cons visible)⟩

theorem isRead_lastItem (inner : (spaced document).IsRead steps text) :
    (items [document]).IsRead (steps + 1) text := by
  intro rest
  rcases inner.before (c := ']') rfl rfl rest with ⟨rest', read, close⟩
  simp [items?, read, close]

theorem isRead_nextItem (inner : (spaced document).IsRead steps text)
    (next : (items documents).IsRead steps text') :
    (items (document :: documents)).IsRead (steps + 1) (text ++ ',' :: text') := by
  intro rest
  have others := next rest
  rcases inner.before (c := ',') rfl rfl (text' ++ ']' :: rest) with ⟨rest', read, comma⟩
  simp [items?, read, comma, others]

theorem isRead_lastMember (written : WrittenKey key name)
    (inner : (spaced document).IsRead steps text) :
    (members [(key, document)]).IsRead (steps + 1) (name ++ ':' :: text) := by
  intro rest
  rcases written.read (text ++ '}' :: rest) with ⟨others, rest', quote, name, colon⟩
  rcases inner.before (c := '}') rfl rfl rest with ⟨rest'', read, close⟩
  simp [members?, quote, name, colon, read, close]

theorem isRead_nextMember (written : WrittenKey key name)
    (inner : (spaced document).IsRead steps text)
    (next : (members entries).IsRead steps text') :
    (members ((key, document) :: entries)).IsRead (steps + 1)
      (name ++ ':' :: (text ++ ',' :: text')) := by
  intro rest
  have entries := next rest
  rcases written.read (text ++ ',' :: (text' ++ '}' :: rest)) with
    ⟨others, rest', quote, name, colon⟩
  rcases inner.before (c := ',') rfl rfl (text' ++ '}' :: rest) with ⟨rest'', read, comma⟩
  simp [members?, quote, name, colon, read, comma, entries]

/-- A phrase that takes a step at all is read in any number of steps if it is read in
any that is not zero. -/
theorem isRead_of_succ {phrase : Phrase} (some : 0 < phrase.bound text)
    (read : ∀ steps, phrase.bound text ≤ steps + 1 → phrase.IsRead (steps + 1) text) :
    ∀ steps, phrase.bound text ≤ steps → phrase.IsRead steps text := by
  intro steps enough
  cases steps with
  | zero => exact absurd (Nat.lt_of_lt_of_le some enough) (Nat.lt_irrefl 0)
  | succ steps => exact read steps enough

theorem bound_value_pos (opened : Opened text) : 0 < (value document).bound text := by
  rcases opened with ⟨gap, c, others, _, _, rfl⟩
  simp only [bound, List.length_append, List.length_cons]
  omega

end Phrase

open Phrase in
/-- Every phrase is read, by induction on how it is written.  Each step of the reader
enters a bracket or passes a comma or a colon, and the characters behind it pay for
the steps that are left. -/
theorem Written.isRead {phrase : Phrase} {text : List Char} (written : Written phrase text) :
    ∀ steps, phrase.bound text ≤ steps → phrase.IsRead steps text := by
  induction written with
  | null | yes | no => exact isRead_of_succ (by decide) fun _ _ _ _ => rfl
  | number written =>
    apply isRead_of_succ (bound_value_pos (Written.number written).opened)
    exact fun _ _ => isRead_number written
  | string written =>
    apply isRead_of_succ (bound_value_pos written.opened)
    exact fun _ _ => isRead_string written
  | emptyArray blanks =>
    exact isRead_of_succ (by simp [bound]) fun _ _ => isRead_emptyArray blanks
  | emptyObject blanks =>
    exact isRead_of_succ (by simp [bound]) fun _ _ => isRead_emptyObject blanks
  | array items ih =>
    apply isRead_of_succ (by simp [bound])
    intro steps enough
    simp only [bound, List.length_append, List.length_cons, List.length_nil] at enough ih
    exact isRead_array items.opened (ih steps (by omega))
  | object members ih =>
    apply isRead_of_succ (by simp [bound])
    intro steps enough
    simp only [bound, List.length_append, List.length_cons, List.length_nil] at enough ih
    exact isRead_object members.opened (ih steps (by omega))
  | spaced before _ after ih =>
    intro steps enough
    simp only [bound, List.length_append] at enough ih
    exact isRead_spaced before after (ih steps (by omega))
  | lastItem _ ih =>
    apply isRead_of_succ (by simp [bound])
    intro steps enough
    simp only [bound] at enough ih
    exact isRead_lastItem (ih steps (by omega))
  | nextItem _ _ ih ih' =>
    apply isRead_of_succ (by simp [bound])
    intro steps enough
    simp only [bound, List.length_append, List.length_cons] at enough ih ih'
    exact isRead_nextItem (ih steps (by omega)) (ih' steps (by omega))
  | lastMember key _ ih =>
    apply isRead_of_succ (by simp [bound])
    intro steps enough
    simp only [bound, List.length_append, List.length_cons] at enough ih
    exact isRead_lastMember key (ih steps (by omega))
  | nextMember key _ _ ih ih' =>
    apply isRead_of_succ (by simp [bound])
    intro steps enough
    simp only [bound, List.length_append, List.length_cons] at enough ih ih'
    exact isRead_nextMember key (ih steps (by omega)) (ih' steps (by omega))

/-- A text stands for one document at most, and that is what is read. -/
theorem ofString?_of_isText {document : Json} {text : String} (written : IsText document text) :
    ofString? text = some document := by
  rcases Written.isRead written (2 * text.toList.length + 2) (Nat.le_add_right _ 2) [] nofun with
    ⟨gap, blanks, read⟩
  rw [List.append_nil, List.append_nil] at read
  have nothing : skipBlank gap = [] := by
    rw [← List.append_nil gap, skipBlank_append blanks]
    rfl
  simp [ofString?, read?, read, nothing]

theorem IsText.unique {first second : Json} {text : String} (one : IsText first text)
    (other : IsText second text) : first = second :=
  Option.some.inj ((ofString?_of_isText one).symm.trans (ofString?_of_isText other))

end Json
end StorageTelemetry
