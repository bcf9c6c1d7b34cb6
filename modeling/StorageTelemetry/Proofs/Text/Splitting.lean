import Mathlib.Data.String.Basic

namespace StorageTelemetry
namespace Text

/-!
# Splitting what was joined

Texts that are joined with a separator between them are found again by splitting
at the separator, if no text has the character that the separator begins with.
Then every such character belongs to a separator, so no separator begins too
early, neither within a text nor within another separator.

A splitter goes over the characters one by one.  Its state is told here by the
characters themselves: those before the current piece, those of the piece, those
of a separator that were matched behind it, and those to come.  Each step moves
one character.
-/

open String

/-- The position behind the first characters of a text. -/
def behind (chars : List Char) : Pos.Raw := ⟨utf8Len chars⟩

/-- What becomes of a text in the middle of splitting it, after some pieces were
found. -/
def splitFrom (separator before piece matched after : List Char) (found : List String) :
    List String :=
  splitOnAux (ofList (before ++ piece ++ matched ++ after)) (ofList separator) (behind before)
    (behind (before ++ piece ++ matched)) (behind matched) found

/-! ## Positions -/

theorem atEnd_behind (chars rest : List Char) :
    (behind chars).atEnd (ofList (chars ++ rest)) = rest.isEmpty := by
  rw [Bool.eq_iff_iff, List.isEmpty_iff]
  exact atEnd_of_valid chars rest

theorem atEnd_behind_self (chars : List Char) : (behind chars).atEnd (ofList chars) = true := by
  simpa using atEnd_behind chars []

theorem atEnd_behind_cons (chars rest : List Char) (c : Char) :
    (behind chars).atEnd (ofList (chars ++ c :: rest)) = false :=
  atEnd_behind chars (c :: rest)

theorem get_behind (chars rest : List Char) (c : Char) :
    (behind chars).get (ofList (chars ++ c :: rest)) = c :=
  get_of_valid chars (c :: rest)

theorem next_behind (chars rest : List Char) (c : Char) :
    (behind chars).next (ofList (chars ++ c :: rest)) = behind (chars ++ [c]) := by
  have next := next_of_valid chars c rest
  simpa [behind] using next

theorem extract_behind (chars piece rest : List Char) :
    (behind chars).extract (ofList (chars ++ piece ++ rest)) (behind (chars ++ piece)) =
      ofList piece := by
  have cut := extract_of_valid chars piece rest
  rwa [← utf8Len_append] at cut

theorem unoffsetBy_behind (chars matched : List Char) :
    (behind (chars ++ matched)).unoffsetBy (behind matched) = behind chars := by
  simp [behind, Pos.Raw.unoffsetBy]

section

variable {before piece matched after rest : List Char} {first c : Char} {found : List String}

/-! ## Characters -/

/-- At the end of a text, what was passed is the last piece. -/
theorem splitFrom_end (separator before piece : List Char) (found : List String) :
    splitFrom separator before piece [] [] found = found.reverse ++ [ofList piece] := by
  have last := extract_behind before piece []
  simp only [splitFrom, List.append_nil] at last ⊢
  rw [splitOnAux, atEnd_behind_self, if_pos rfl, last, List.reverse_cons]

/-- A character that does not begin a separator is passed. -/
theorem splitFrom_pass (different : c ≠ first) :
    splitFrom (first :: rest) before piece [] (c :: after) found =
      splitFrom (first :: rest) before (piece ++ [c]) [] after found := by
  have begins : (behind []).get (ofList (first :: rest)) = first := get_behind [] rest first
  have start : (behind (before ++ piece)).unoffsetBy (behind []) = behind (before ++ piece) := rfl
  have text : before ++ (piece ++ [c]) ++ after = before ++ piece ++ c :: after := by simp
  simp only [splitFrom, List.append_nil, text]
  rw [splitOnAux, atEnd_behind_cons, if_neg Bool.false_ne_true, get_behind, begins,
    if_neg (by simpa using different), start, next_behind, ← List.append_assoc before]
  rfl

/-- A character of a separator is matched if it is not the last. -/
theorem splitFrom_match {d : Char} :
    splitFrom (matched ++ c :: d :: rest) before piece matched (c :: after) found =
      splitFrom (matched ++ c :: d :: rest) before piece (matched ++ [c]) after found := by
  have more : (behind (matched ++ [c])).atEnd (ofList (matched ++ c :: d :: rest)) = false := by
    have onward := atEnd_behind_cons (matched ++ [c]) rest d
    rwa [List.append_assoc] at onward
  have text : before ++ piece ++ (matched ++ [c]) ++ after =
      before ++ piece ++ matched ++ c :: after := by simp
  simp only [splitFrom, text]
  rw [splitOnAux, atEnd_behind_cons, if_neg Bool.false_ne_true, get_behind, get_behind,
    if_pos (beq_self_eq_true c), next_behind, next_behind]
  dsimp only
  rw [more, if_neg Bool.false_ne_true, List.append_assoc (before ++ piece) matched [c]]

/-- The last character of a separator ends a piece. -/
theorem splitFrom_complete :
    splitFrom (matched ++ [c]) before piece matched (c :: after) found =
      splitFrom (matched ++ [c]) (before ++ piece ++ (matched ++ [c])) [] [] after
        (ofList piece :: found) := by
  have start : (behind (before ++ piece ++ matched ++ [c])).unoffsetBy (behind (matched ++ [c])) =
      behind (before ++ piece) := by
    rw [List.append_assoc (before ++ piece), unoffsetBy_behind]
  have last := extract_behind before piece (matched ++ c :: after)
  have text : before ++ piece ++ (matched ++ [c]) ++ after =
      before ++ piece ++ matched ++ c :: after := by simp
  rw [← List.append_assoc] at last
  simp only [splitFrom, List.append_nil, text]
  rw [splitOnAux, atEnd_behind_cons, if_neg Bool.false_ne_true, get_behind, get_behind,
    if_pos (beq_self_eq_true c), next_behind, next_behind]
  dsimp only
  rw [atEnd_behind_self, if_pos rfl, start, last, List.append_assoc (before ++ piece) matched [c]]
  rfl

/-! ## Pieces and separators -/

/-- Characters of which none begins a separator are passed. -/
theorem splitFrom_piece (rest before piece after : List Char) (found : List String)
    {chars : List Char} (plain : first ∉ chars) :
    splitFrom (first :: rest) before piece [] (chars ++ after) found =
      splitFrom (first :: rest) before (piece ++ chars) [] after found := by
  induction chars generalizing piece with
  | nil => rw [List.nil_append, List.append_nil]
  | cons c chars ih =>
      have different : c ≠ first := fun same => plain (same ▸ List.mem_cons_self)
      have others : first ∉ chars := fun later => plain (List.mem_cons_of_mem c later)
      rw [List.cons_append, splitFrom_pass different, ih (piece ++ [c]) others, List.append_assoc,
        List.singleton_append]

/-- The rest of a separator ends a piece. -/
theorem splitFrom_separator (before piece matched after : List Char) (found : List String)
    (unfinished : rest ≠ []) :
    splitFrom (matched ++ rest) before piece matched (rest ++ after) found =
      splitFrom (matched ++ rest) (before ++ piece ++ (matched ++ rest)) [] [] after
        (ofList piece :: found) := by
  induction rest generalizing matched with
  | nil => exact absurd rfl unfinished
  | cons c rest ih =>
      cases rest with
      | nil => exact splitFrom_complete
      | cons d rest =>
          have others := ih (matched ++ [c]) (List.cons_ne_nil d rest)
          rw [List.append_assoc, List.singleton_append] at others
          rw [List.cons_append, splitFrom_match, others]

/-- Pieces in which no separator begins are found between separators. -/
theorem splitFrom_intercalate (rest before : List Char) (found : List String)
    {pieces : List (List Char)} (nonempty : pieces ≠ []) (plain : ∀ piece ∈ pieces, first ∉ piece) :
    splitFrom (first :: rest) before [] [] ((first :: rest).intercalate pieces) found =
      found.reverse ++ pieces.map ofList := by
  -- A separator moves the piece before it to what was found, so both may be anything.
  induction pieces generalizing before found with
  | nil => exact absurd rfl nonempty
  | cons piece pieces ih =>
      have own : first ∉ piece := plain piece List.mem_cons_self
      cases pieces with
      | nil =>
          have last := splitFrom_piece rest before [] [] found own
          rw [List.append_nil, splitFrom_end] at last
          rw [List.intercalate_singleton]
          exact last
      | cons next pieces =>
          have ended := fun after => splitFrom_separator before piece [] after found
            (List.cons_ne_nil first rest)
          have others := fun other listed => plain other (List.mem_cons_of_mem piece listed)
          rw [List.nil_append] at ended
          rw [List.intercalate_cons_cons, List.append_assoc, splitFrom_piece _ _ _ _ _ own,
            List.nil_append, ended, ih _ _ (List.cons_ne_nil next pieces) others,
            List.reverse_cons, List.append_assoc]
          rfl

end

/-- Texts that were joined are found again by splitting, if there is one at least
and none has the character that the separator begins with. -/
theorem splitOn_intercalate {separator : String} {first : Char} {pieces : List String}
    (begins : separator.toList.head? = some first) (nonempty : pieces ≠ [])
    (plain : ∀ piece ∈ pieces, first ∉ piece.toList) :
    (separator.intercalate pieces).splitOn separator = pieces := by
  rcases List.head?_eq_some_iff.mp begins with ⟨rest, spelled⟩
  have written : separator = ofList (first :: rest) := by rw [← spelled, ofList_toList]
  have joined : separator.intercalate pieces =
      ofList ((first :: rest).intercalate (pieces.map String.toList)) := by
    rw [← spelled, ← toList_intercalate, ofList_toList]
  have separates : (separator == "") = false := by
    rw [beq_eq_false_iff_ne]
    rintro rfl
    cases begins
  have charsNonempty : pieces.map String.toList ≠ [] := by simpa using nonempty
  have charsPlain : ∀ chars ∈ pieces.map String.toList, first ∉ chars := by simpa using plain
  rw [splitOn, separates, if_neg Bool.false_ne_true, joined, written]
  calc splitOnAux _ _ 0 0 0 []
      = [].reverse ++ (pieces.map String.toList).map ofList :=
        splitFrom_intercalate rest [] [] charsNonempty charsPlain
    _ = pieces := by simp

end Text
end StorageTelemetry
