import StorageTelemetry.Proofs.Json.RecordFields
import StorageTelemetry.Proofs.Statistics.Wiring

namespace StorageTelemetry

/-!
# Sparse statistics

A gateway leaves out whatever it has never sampled.  So a document of counters may
write any of its fields and, within a window, any of the counters of the window, and
what it leaves out counts as zero.  What it writes has to be right: a counter is a
whole number of 64 bits, a window is a record of its own, and each is given once.
-/

open Json Record

/-! ## Counters -/

/-- Whether a document is a whole number of 64 bits, written without a sign. -/
def Json.IsCounter : Json → Prop
  | .number token => token.integral = true ∧ token.negative = false ∧ token.digits < twoPow 64
  | _ => False

theorem Json.isCounter_of_word {document : Json} {word : UInt64}
    (read : document.word = .ok word) : document.IsCounter := by
  cases document with
  | number token =>
    have whole : isWhole token = true := by
      cases whole : isWhole token with
      | true => rfl
      | false => simp [Json.word, natBelow, whole, Except.map] at read
    have fits : (token.negative || decide (twoPow 64 ≤ token.digits)) = false := by
      cases fits : token.negative || decide (twoPow 64 ≤ token.digits) with
      | false => rfl
      | true => simp only [Json.word, natBelow, whole, fits, Except.map] at read; cases read
    rw [Bool.or_eq_false_iff, decide_eq_false_iff_not, Nat.not_le] at fits
    exact ⟨(Bool.and_eq_true_iff.mp whole).1, fits⟩
  | null | bool | string | array | object => cases read

theorem Json.word_ne_ok (document : Json) (word : UInt64) (bad : ¬document.IsCounter) :
    document.word ≠ .ok word := fun read => bad (isCounter_of_word read)

/-- What a document has for a counter, if it is kept. -/
def Json.ofCounter? (kept : String → Bool) (counter? : String → Option UInt64) (key : String) :
    Option Json :=
  if kept key then (counter? key).map fun counter => .ofNat counter.toNat else none

/-! ## Windows -/

namespace Window

variable {window : Window} {document : Json}

theorem keys_nodup : keys.Nodup := by decide

theorem exists_counter (window : Window) :
    ∀ key ∈ keys, ∃ counter, window.counter? key = some counter := by
  intro key declared
  simp only [keys, List.mem_cons, List.not_mem_nil, or_false] at declared
  rcases declared with rfl | rfl | rfl <;> exact ⟨_, rfl⟩

theorem ofJson_eq_ok_iff : ofJson document = .ok window ↔
    ∃ field, IsRecord keys field document ∧
      ∀ key ∈ keys, Fits Json.word 0 window.counter? key (field key) := by
  apply record_bind_eq_ok_iff keys_nodup
  intro record
  simp only [keys, Fits, counter?, List.forall_mem_cons, bind_eq_ok_iff, read_eq_ok_iff_reads,
    Option.some.injEq, forall_eq']
  constructor
  · rintro ⟨occurrences, first, seconds, second, weightInKb, third, same⟩
    cases same
    exact ⟨first, second, third, nofun⟩
  · rintro ⟨first, second, third, -⟩
    exact ⟨_, first, _, second, _, third, rfl⟩

/-- The window with zero for the counters that are not kept. -/
def keeping (kept : String → Bool) (window : Window) : Window where
  occurrences := if kept "numOccurrences" then window.occurrences else 0
  seconds := if kept "numSeconds" then window.seconds else 0
  weightInKb := if kept "totalWeightInKb" then window.weightInKb else 0

theorem counter?_keeping (kept : String → Bool) (window : Window) (key : String) :
    (window.keeping kept).counter? key =
      (window.counter? key).map fun counter => if kept key then counter else 0 := by
  unfold counter?
  split <;> rfl

/-- Whether a document is an object of the kept counters of a window. -/
def Writes (kept : String → Bool) (window : Window) (document : Json) : Prop :=
  IsObjectOf keys (ofCounter? kept window.counter?) document

/-- Counters that are left out count as zero. -/
theorem Writes.ofJson_eq {kept : String → Bool} (writes : window.Writes kept document) :
    ofJson document = .ok (window.keeping kept) := by
  refine ofJson_eq_ok_iff.mpr ⟨_, writes.isRecord keys_nodup, ?_⟩
  intro key declared
  exact fits_of_kept (counter?_keeping kept window key) fun part _ _ => word_ofNat part

/-- Whether a document gives a counter twice, or something else for a counter. -/
def Faulty : Json → Prop := Json.Faulty keys fun given => ¬given.IsCounter

theorem Faulty.ofJson_ne (faulty : Faulty document) : ofJson document ≠ .ok window := by
  intro read
  rcases ofJson_eq_ok_iff.mp read with ⟨field, isRecord, fits⟩
  exact isRecord.not_fits faulty window.exists_counter word_ne_ok fits

end Window

/-! ## Input and output -/

namespace IoCounters

variable {counters : IoCounters} {document : Json}

theorem keys_nodup : keys.Nodup := by decide

theorem exists_window (counters : IoCounters) :
    ∀ key ∈ keys, ∃ window, counters.window? key = some window := by
  intro key declared
  simp only [keys, List.mem_cons, List.not_mem_nil, or_false] at declared
  rcases declared with rfl | rfl | rfl | rfl <;> exact ⟨_, rfl⟩

theorem ofJson_eq_ok_iff : ofJson document = .ok counters ↔
    ∃ field, IsRecord keys field document ∧
      ∀ key ∈ keys, Fits Window.ofJson .empty counters.window? key (field key) := by
  apply record_bind_eq_ok_iff keys_nodup
  intro record
  simp only [keys, Fits, window?, List.forall_mem_cons, bind_eq_ok_iff, read_eq_ok_iff_reads,
    Option.some.injEq, forall_eq']
  -- Windows are read in the order of their names and not in that of declaration.
  constructor
  · rintro ⟨read, first, readLatency, third, writeLatency, fourth, write, second, same⟩
    cases same
    exact ⟨first, second, third, fourth, nofun⟩
  · rintro ⟨first, second, third, fourth, -⟩
    exact ⟨_, first, _, third, _, fourth, _, second, rfl⟩

/-- The counters with empty windows for those that are not kept, and with zero for
the counters that are not kept in the others. -/
def keeping (kept : String → Bool) (keptIn : String → String → Bool) (counters : IoCounters) :
    IoCounters :=
  let keep := fun key (window : Window) =>
    if kept key then window.keeping (keptIn key) else .empty
  { read := keep "userDataReadBwc" counters.read
    write := keep "userDataWriteBwc" counters.write
    readLatency := keep "userDataSdcReadLatency" counters.readLatency
    writeLatency := keep "userDataSdcWriteLatency" counters.writeLatency }

theorem window?_keeping (kept : String → Bool) (keptIn : String → String → Bool)
    (counters : IoCounters) (key : String) :
    (counters.keeping kept keptIn).window? key = (counters.window? key).map fun window =>
      if kept key then window.keeping (keptIn key) else .empty := by
  unfold window?
  split <;> rfl

/-- Whether a document is an object of the kept windows, each an object of its kept
counters. -/
def Writes (kept : String → Bool) (keptIn : String → String → Bool) (counters : IoCounters)
    (document : Json) : Prop :=
  ∃ writing : String → Json,
    (∀ key window, counters.window? key = some window → kept key = true →
      window.Writes (keptIn key) (writing key)) ∧
    IsObjectOf keys (fun key =>
      if kept key then (counters.window? key).map fun _ => writing key else none) document

theorem Writes.ofJson_eq {kept : String → Bool} {keptIn : String → String → Bool}
    (writes : counters.Writes kept keptIn document) :
    ofJson document = .ok (counters.keeping kept keptIn) := by
  rcases writes with ⟨writing, windows, isObject⟩
  refine ofJson_eq_ok_iff.mpr ⟨_, isObject.isRecord keys_nodup, ?_⟩
  intro key declared
  exact fits_of_kept (window?_keeping kept keptIn counters key) fun window known written =>
    (windows key window known written).ofJson_eq

/-- Whether a document gives a window twice or as null, or a faulty window. -/
def Faulty : Json → Prop :=
  Json.Faulty keys fun given => given = .null ∨ Window.Faulty given

theorem Faulty.ofJson_ne (faulty : Faulty document) : ofJson document ≠ .ok counters := by
  intro read
  rcases ofJson_eq_ok_iff.mp read with ⟨field, isRecord, fits⟩
  have unread : ∀ given window, given = .null ∨ Window.Faulty given →
      Window.ofJson given ≠ .ok window := by
    rintro given window (rfl | bad)
    · exact nofun
    · exact bad.ofJson_ne
  exact isRecord.not_fits faulty counters.exists_window unread fits

end IoCounters

/-! ## Pools -/

namespace PoolCounters

variable {counters : PoolCounters} {document : Json}

theorem keys_nodup : keys.Nodup := by decide

theorem exists_counter (counters : PoolCounters) :
    ∀ key ∈ keys, ∃ counter, counters.counter? key = some counter := by
  intro key declared
  simp only [keys, List.mem_cons, List.not_mem_nil, or_false] at declared
  rcases declared with rfl | rfl | rfl | rfl <;> exact ⟨_, rfl⟩

theorem ofJson_eq_ok_iff : ofJson document = .ok counters ↔
    ∃ field, IsRecord keys field document ∧
      ∀ key ∈ keys, Fits Json.word 0 counters.counter? key (field key) := by
  apply record_bind_eq_ok_iff keys_nodup
  intro record
  simp only [keys, Fits, counter?, List.forall_mem_cons, bind_eq_ok_iff, read_eq_ok_iff_reads,
    Option.some.injEq, forall_eq']
  constructor
  · rintro ⟨inUse, third, maximum, first, provisioned, fourth, spare, second, same⟩
    cases same
    exact ⟨first, second, third, fourth, nofun⟩
  · rintro ⟨first, second, third, fourth, -⟩
    exact ⟨_, third, _, first, _, fourth, _, second, rfl⟩

/-- The counters with zero for those that are not kept. -/
def keeping (kept : String → Bool) (counters : PoolCounters) : PoolCounters where
  maximum := if kept "maxCapacityInKb" then counters.maximum else 0
  spare := if kept "spareCapacityInKb" then counters.spare else 0
  inUse := if kept "capacityInUseInKb" then counters.inUse else 0
  provisioned := if kept "primaryVacInKb" then counters.provisioned else 0

theorem counter?_keeping (kept : String → Bool) (counters : PoolCounters) (key : String) :
    (counters.keeping kept).counter? key =
      (counters.counter? key).map fun counter => if kept key then counter else 0 := by
  unfold counter?
  split <;> rfl

/-- Whether a document is an object of the kept counters of a pool. -/
def Writes (kept : String → Bool) (counters : PoolCounters) (document : Json) : Prop :=
  IsObjectOf keys (ofCounter? kept counters.counter?) document

theorem Writes.ofJson_eq {kept : String → Bool} (writes : counters.Writes kept document) :
    ofJson document = .ok (counters.keeping kept) := by
  refine ofJson_eq_ok_iff.mpr ⟨_, writes.isRecord keys_nodup, ?_⟩
  intro key declared
  exact fits_of_kept (counter?_keeping kept counters key) fun part _ _ => word_ofNat part

/-- Whether a document gives a counter twice, or something else for a counter. -/
def Faulty : Json → Prop := Json.Faulty keys fun given => ¬given.IsCounter

theorem Faulty.ofJson_ne (faulty : Faulty document) : ofJson document ≠ .ok counters := by
  intro read
  rcases ofJson_eq_ok_iff.mp read with ⟨field, isRecord, fits⟩
  exact isRecord.not_fits faulty counters.exists_counter word_ne_ok fits

end PoolCounters
end StorageTelemetry
