import StorageTelemetry.Gateway.Connection
import StorageTelemetry.Proofs.Json.Acceptance
import StorageTelemetry.Proofs.Statistics.Wiring

namespace StorageTelemetry

/-!
# The text of a window

A window is written as an object of three whole numbers.  Any number of 64 bits is
read back as it was, whichever way the object is written: with its members in
another order, with blanks between its tokens, and with members that are not
counters of a window and may be any documents whatever.
-/

open Json

/-! ## Bodies -/

namespace GatewayConnection

variable {α : Type} {reader : Json → Except Mismatch α}

theorem readBody_of_isText {document : Json} {text : String} {value : α}
    (written : IsText document text) (fits : reader document = .ok value) :
    readBody reader text = .ok value := by
  rw [readBody, ofString?_of_isText written]
  dsimp only
  rw [fits]
  rfl

theorem decode_of_isSuccess {answer : RestAnswer} (success : isSuccess answer.status = true)
    (path : String) : decode path reader answer = readBody reader answer.text := by
  have authorized : answer.status ≠ 401 := by
    intro unauthorized
    rw [unauthorized] at success
    cases success
  rw [decode, if_neg authorized, if_pos success]

end GatewayConnection

/-! ## Windows -/

open GatewayConnection

namespace Window

variable (window : Window)

/-- The members of a window may be arranged in any order, among others. -/
theorem ofJson_of_perm {extras members : List (String × Json)}
    (unknown : ∀ extra ∈ extras, extra.1 ∉ keys)
    (perm : members.Perm (window.toJson.entries ++ extras)) :
    ofJson (.ofMembers members) = .ok window := by
  have distinct : (window.toJson.entries.map Prod.fst).Nodup := show keys.Nodup by decide
  apply ofJson_of_record
  exact Record.ofMembers_of_perm distinct unknown perm

theorem regular_entries : ∀ member ∈ window.toJson.entries, Regular member.2 := by
  have entries : window.toJson.entries =
      [("numOccurrences", .ofNat window.occurrences.toNat),
        ("numSeconds", .ofNat window.seconds.toNat),
        ("totalWeightInKb", .ofNat window.weightInKb.toNat)] := rfl
  simp only [entries, List.forall_mem_cons]
  exact ⟨regular_ofNat _, regular_ofNat _, regular_ofNat _, nofun⟩

theorem regular_toJson : Regular window.toJson := regular_ofMembers window.regular_entries

/-- A window is read back from its text, and from every text of an object that has
the members of the window, in any order, and otherwise only members with names of
their own. -/
theorem window_text_decodes :
    readBody ofJson window.toJson.compact = .ok window ∧
    ∀ (extras members : List (String × Json)) (text : String),
      (∀ extra ∈ extras, extra.1 ∉ keys) →
      members.Perm (window.toJson.entries ++ extras) →
      IsText (.ofMembers members) text →
      readBody ofJson text = .ok window ∧
        ∀ path answer, isSuccess answer.status = true → answer.text = text →
          decode path ofJson answer = .ok window := by
  refine ⟨readBody_of_isText (isText_compact window.regular_toJson) window.ofJson_toJson, ?_⟩
  intro extras members text unknown perm written
  have same := readBody_of_isText written (window.ofJson_of_perm unknown perm)
  refine ⟨same, ?_⟩
  intro path answer success body
  rw [decode_of_isSuccess success, body, same]

/-- A member that windows do not have. -/
def unitMember : String × Json := ("unit", .ofMembers [("kb", .ofTexts ["1/s"])])

/-- A text with an unknown member, with its members in reverse, with blanks between
its tokens and with an escape that is not needed. -/
def reversedText : String :=
  " \x7b\"unit\" : \x7b \"kb\":[\"1\\/s\"]\x7d,\n\"totalWeightInKb\":3 ," ++
    "\t\"numSeconds\":18446744073709551615,\"numOccurrences\" :1 \x7d\n"

theorem window_of_reversedText :
    readBody ofJson reversedText = .ok ⟨1, 18446744073709551615, 3⟩ := by
  let window : Window := ⟨1, 18446744073709551615, 3⟩
  let members := (window.toJson.entries ++ [unitMember]).reverse
  have regular : Regular (.ofMembers members) := by
    apply regular_ofMembers
    intro member found
    rcases List.mem_append.mp (List.mem_reverse.mp found) with own | unit
    · exact window.regular_entries member own
    · cases List.mem_singleton.mp unit
      exact regular_ofMembers (List.forall_mem_singleton.mpr (regular_ofTexts _))
  have written : IsText (.ofMembers members) reversedText :=
    ofString?_eq_some_iff.mp (ofString?_eq_some_of_compact regular (by decide +kernel))
  have unknown : ∀ extra ∈ [unitMember], extra.1 ∉ keys := by decide
  have text := (window_text_decodes window).2 [unitMember] members reversedText
  exact (text unknown (List.reverse_perm _) written).1

end Window
end StorageTelemetry
