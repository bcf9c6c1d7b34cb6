import Mathlib.Data.Option.Basic
import StorageTelemetry.Proofs.Json.Grammar

namespace StorageTelemetry
namespace Json

/-!
# Tokens are read to their end

A number ends where no digit, point or exponent follows, and a string at its first
quote that is not escaped.  So what follows a token is left as it is, and whatever
writing of a token is met, the reader finds what it denotes.
-/

/-! ## What follows -/

/-- A text whose first character, if there is one, is outside of a class. -/
def Stops (inClass : Char → Bool) (text : List Char) : Prop :=
  ∀ c ∈ text.head?, inClass c = false

section

variable {inClass : Char → Bool} {text rest : List Char}

theorem stops_cons {c : Char} : Stops inClass (c :: rest) ↔ inClass c = false := by
  simp [Stops]

theorem Stops.mono {wider : Char → Bool} (stops : Stops wider text)
    (within : ∀ c, inClass c = true → wider c = true) : Stops inClass text := by
  intro c first
  apply Bool.eq_false_iff.mpr
  intro inside
  have outside := stops c first
  rw [within c inside] at outside
  cases outside

theorem takeWhile_append (inside : ∀ c ∈ text, inClass c = true) (stops : Stops inClass rest) :
    (text ++ rest).takeWhile inClass = text := by
  rw [List.takeWhile_append_of_pos inside]
  cases rest with
  | nil => rw [List.takeWhile_nil, List.append_nil]
  | cons c rest =>
    have outside := stops_cons.mp stops
    rw [List.takeWhile_cons_of_neg (by simp [outside]), List.append_nil]

theorem dropWhile_append (inside : ∀ c ∈ text, inClass c = true) (stops : Stops inClass rest) :
    (text ++ rest).dropWhile inClass = rest := by
  rw [List.dropWhile_append_of_pos inside]
  cases rest with
  | nil => rfl
  | cons c rest =>
    have outside := stops_cons.mp stops
    rw [List.dropWhile_cons_of_neg (by simp [outside])]

end

/-! ## Numbers -/

/-- The characters that digits could go on with. -/
def isPlace (c : Char) : Bool := c.isDigit || c = '.'

/-- The characters that a number could go on with. -/
def goesOn (c : Char) : Bool := isPlace c || c = 'e' || c = 'E'

section

variable {rest : List Char}

theorem Stops.isPlace (stops : Stops goesOn rest) : Stops isPlace rest :=
  stops.mono fun _ place => by simp [goesOn, place]

theorem Stops.isDigit (stops : Stops Json.isPlace rest) : Stops Char.isDigit rest :=
  stops.mono fun _ digit => by simp [Json.isPlace, digit]

theorem digitRun_append {digits : List Char} (all : ∀ c ∈ digits, c.isDigit = true)
    (stops : Stops Char.isDigit rest) : digitRun (digits ++ rest) = (digits, rest) := by
  rw [digitRun, takeWhile_append all stops, dropWhile_append all stops]

theorem minusSign_append {text : List Char} (negative : Bool)
    (unsigned : text.head? ≠ some '-') :
    minusSign ((if negative then ['-'] else []) ++ text) = (negative, text) := by
  cases negative with
  | true => rfl
  | false =>
    unfold minusSign
    split
    · exact absurd (congrArg List.head? ‹_›) unsigned
    · rfl

theorem signedExponent?_append {negative : Bool} {sign digits : List Char}
    (signed : WrittenSign negative sign) (digital : Digits digits) (stops : Stops goesOn rest) :
    signedExponent? (sign ++ (digits ++ rest)) =
      some (if negative then -(Text.digitsValue digits : Int) else Text.digitsValue digits,
        rest) := by
  have run : digitRun (digits ++ rest) = (digits, rest) :=
    digitRun_append digital.digit stops.isPlace.isDigit
  have nonempty : digits.isEmpty = false := by simp [digital.nonempty]
  cases signed with
  | plus => simp [signedExponent?, run, nonempty]
  | minus => simp [signedExponent?, run, nonempty]
  | absent =>
    rcases List.exists_cons_of_ne_nil digital.nonempty with ⟨first, others, rfl⟩
    have digit := digital.digit first List.mem_cons_self
    have minus : first ≠ '-' := by rintro rfl; cases digit
    have plus : first ≠ '+' := by rintro rfl; cases digit
    simp_all [signedExponent?]

variable {fraction : Option (List Char)} {exponent : Option Int} {point power : List Char}

theorem exponent?_append (written : WrittenExponent exponent power) (stops : Stops goesOn rest) :
    exponent? (power ++ rest) = some (exponent, rest) := by
  cases written with
  | absent =>
    cases rest with
    | nil => rfl
    | cons c rest =>
      have outside := stops_cons.mp stops
      simp only [goesOn, Bool.or_eq_false_iff, decide_eq_false_iff_not] at outside
      simp [exponent?, outside.1.2, outside.2]
  | present letter signed digital =>
    have tail := signedExponent?_append signed digital stops
    rcases letter with rfl | rfl <;> simp [exponent?, tail]

theorem WrittenExponent.stops (written : WrittenExponent exponent power)
    (stops : Stops goesOn rest) : Stops isPlace (power ++ rest) := by
  cases written with
  | absent => exact stops.isPlace
  | present letter _ _ => rcases letter with rfl | rfl <;> exact stops_cons.mpr rfl

theorem fraction?_append (written : WrittenFraction fraction point)
    (stops : Stops isPlace rest) : fraction? (point ++ rest) = some (fraction, rest) := by
  cases written with
  | absent =>
    cases rest with
    | nil => rfl
    | cons c rest =>
      have outside := stops_cons.mp stops
      simp only [isPlace, Bool.or_eq_false_iff, decide_eq_false_iff_not] at outside
      simp [fraction?, outside.2]
  | present digital =>
    have run := digitRun_append digital.digit stops.isDigit
    simp [fraction?, run, digital.nonempty]

theorem WrittenFraction.stops (written : WrittenFraction fraction point)
    (stops : Stops isPlace rest) : Stops Char.isDigit (point ++ rest) := by
  cases written with
  | absent => exact stops.isDigit
  | present _ => exact stops_cons.mpr rfl

/-- A number that nothing goes on with is read as what its parts denote. -/
theorem number?_append {token : NumberToken} {text : List Char}
    (written : WrittenNumber token text) (stops : Stops goesOn rest) :
    number? (text ++ rest) = some (token, rest) := by
  cases written with
  | @intro whole point power fraction exponent negative whole' fraction' exponent' =>
    rcases List.exists_cons_of_ne_nil whole'.nonempty with ⟨first, others, rfl⟩
    have digit := whole'.digit first List.mem_cons_self
    have unsigned : ((first :: others) ++ (point ++ (power ++ rest))).head? ≠ some '-' := by
      rintro ⟨rfl⟩
      cases digit
    have run : digitRun ((first :: others) ++ (point ++ (power ++ rest))) =
        (first :: others, point ++ (power ++ rest)) :=
      digitRun_append whole'.digit (fraction'.stops (exponent'.stops stops))
    have leading := whole'.leading
    have places := fraction?_append fraction' (exponent'.stops stops)
    have powers := exponent?_append exponent' stops
    simp only [List.append_assoc, number?, minusSign_append negative unsigned, run, places]
    simp_all [tokenOf, guard]

end

/-- The characters of a number. -/
theorem WrittenNumber.goesOn_or_sign {token : NumberToken} {text : List Char}
    (written : WrittenNumber token text) :
    ∀ c ∈ text, Json.goesOn c = true ∨ c = '-' ∨ c = '+' := by
  have digits : ∀ {part : List Char}, Digits part → ∀ c ∈ part,
      Json.goesOn c = true ∨ c = '-' ∨ c = '+' := by
    intro part digital c member
    simp [Json.goesOn, Json.isPlace, digital.digit c member]
  rcases written with ⟨negative, whole, fraction, exponent⟩
  simp only [List.forall_mem_append]
  refine ⟨⟨⟨?_, digits whole.toDigits⟩, ?_⟩, ?_⟩
  · cases negative <;> simp
  · cases fraction with
    | absent => exact List.forall_mem_nil _
    | present digital => exact List.forall_mem_cons.mpr ⟨.inl rfl, digits digital⟩
  · cases exponent with
    | absent => exact List.forall_mem_nil _
    | present letter signed digital =>
        refine List.forall_mem_cons.mpr ⟨?_, List.forall_mem_append.mpr ⟨?_, digits digital⟩⟩
        · rcases letter with rfl | rfl <;> exact .inl rfl
        · cases signed <;> simp

/-! ## Strings -/

theorem letterEscape?_ne_u {letter c : Char} (escape : letterEscape? letter = some c) :
    letter ≠ 'u' := by
  rintro rfl
  cases escape

theorem stringUnits?_append {units : List StringUnit} {text : List Char} (rest : List Char)
    (written : WrittenUnits units text) :
    stringUnits? (text ++ '"' :: rest) = some (units, rest) := by
  induction written with
  | nil => rfl
  | plain quote backslash printable _ ih => simp_all [stringUnits?, guard]
  | letter escape _ ih =>
    have code := letterEscape?_ne_u escape
    simp_all [stringUnits?]
  | digits code _ ih => simp_all [stringUnits?]

/-- Behind its opening quote a string is read as what its units denote. -/
theorem WrittenString.read {content : Option String} {text : List Char}
    (written : WrittenString content text) :
    ∃ others, text = '"' :: others ∧
      ∀ rest, stringToken? (others ++ rest) = some (content, rest) := by
  cases written with
  | intro units =>
    refine ⟨_, rfl, fun rest => ?_⟩
    rw [stringToken?, List.append_assoc, List.singleton_append, stringUnits?_append rest units]
    rfl

end Json
end StorageTelemetry
