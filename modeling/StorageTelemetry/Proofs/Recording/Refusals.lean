import StorageTelemetry.Proofs.Recording.LedgerView
import StorageTelemetry.Proofs.Recording.Runs

namespace StorageTelemetry

/-!
# Recording on a meter that refuses

A creation may be refused at any time: on the first sight of an entity or when
its labels changed, at any of its series.  The ledger tells what the exporter
then did.  A recording that failed leaves the cache and everything visible as
they were, the instruments in use are always those that are held, and no
instrument is used after it was retired.
-/

/-- All instruments of the cached sets. -/
def Exporter.held {μ η : Type} (exporter : Exporter μ η) : List η :=
  exporter.cache.sets.entries.flatMap fun entry => entry.2.instruments

section

variable {μ η : Type} {view : MeterView μ η} {exporter : Exporter μ η}
  {observations : List Observation}

theorem Exporter.Realizes.mem_held_iff (realizes : exporter.Realizes view observations)
    (instrument : η) : instrument ∈ exporter.held ↔ view.Live exporter.meter instrument := by
  rw [realizes.live_iff, Exporter.held, List.mem_flatMap]
  constructor
  · rintro ⟨⟨entity, set⟩, listed, member⟩
    exact ⟨entity, set, (realizes.distinct.get?_eq_some_iff entity set).mpr listed, member⟩
  · rintro ⟨entity, set, stored, member⟩
    exact ⟨(entity, set), (realizes.distinct.get?_eq_some_iff entity set).mp stored, member⟩

/-- No instrument is held twice. -/
theorem Exporter.Realizes.nodup_held (realizes : exporter.Realizes view observations) :
    exporter.held.Nodup := by
  refine List.nodup_flatMap.mpr ⟨?_, ?_⟩
  · rintro ⟨entity, set⟩ listed
    have stored := (realizes.distinct.get?_eq_some_iff entity set).mpr listed
    have nodup := (realizes.instrumentsOf_spec entity).1
    rwa [instrumentsOf, stored] at nodup
  · have keys := List.pairwise_map.mp realizes.distinct
    refine keys.imp_of_mem ?_
    rintro ⟨entity, set⟩ ⟨other, set'⟩ listed listed' different instrument member member'
    have stored := (realizes.distinct.get?_eq_some_iff entity set).mpr listed
    have stored' := (realizes.distinct.get?_eq_some_iff other set').mpr listed'
    rcases realizes.target_mem stored' member' with ⟨o, found, _, placed⟩
    have entities := (realizes.entity_of_target stored member placed).1
    exact different (entities.trans (entity_of_latest? found))

end

namespace Ledger

/-- An empty ledger that refuses by a rule of any kind. -/
def refusing (refuses : Nat → String → LabelSet → Bool) : Ledger := { empty with refuses }

/-- The instruments that some events created. -/
def created : List LedgerEvent → List LedgerInstrument
  | [] => []
  | .create instrument :: earlier => instrument :: created earlier
  | .set _ _ :: earlier | .retire _ :: earlier => created earlier

theorem mem_created {history : List LedgerEvent} {instrument : LedgerInstrument} :
    instrument ∈ created history ↔ .create instrument ∈ history := by
  induction history with
  | nil => simp [created]
  | cons event earlier ih => cases event <;> simp [created, ih]

/-- In an orderly history no instrument is created twice. -/
theorem Orderly.nodup_created {history : List LedgerEvent} (orderly : Orderly history) :
    (created history).Nodup := by
  induction history with
  | nil => exact List.nodup_nil
  | cons event earlier ih =>
      have others := ih orderly.of_cons
      cases event with
      | create instrument =>
          refine List.nodup_cons.mpr ⟨fun again => ?_, others⟩
          exact orderly.1 (.create instrument) (mem_created.mp again) rfl
      | set instrument value => exact others
      | retire instrument => exact others

/-- The instruments that were created and not retired. -/
def instrumentsInUse (ledger : Ledger) : List LedgerInstrument :=
  (created ledger.history).filter fun instrument => .retire instrument ∉ ledger.history

theorem mem_instrumentsInUse {ledger : Ledger} {instrument : LedgerInstrument} :
    instrument ∈ ledger.instrumentsInUse ↔ InUse ledger.history instrument := by
  rw [instrumentsInUse, List.mem_filter, mem_created, decide_eq_true_eq]
  exact Iff.rfl

theorem sound_refusing (fresh : Option Double) (refuses : Nat → String → LabelSet → Bool) :
    (refusing refuses).Sound fresh := by
  refine ⟨trivial, ?_, ?_, fun _ => rfl⟩
  · intro event member
    cases member
  · intro first second inUse
    cases inUse.1

end Ledger

/-- What is reached from an empty cache over a ledger. -/
def Exporter.afterCalls (refuses : Nat → String → LabelSet → Bool) (calls : List RecordCall) :
    Exporter Ledger LedgerInstrument :=
  ((Exporter.start (Ledger.refusing refuses)).callAll calls).2

/-- What is reached realizes the observations whose recording succeeded,
whatever is taken for the value of a fresh series. -/
theorem Exporter.realizes_afterCalls (refuses : Nat → String → LabelSet → Bool)
    (calls : List RecordCall) :
    ∃ observations, ∀ fresh,
      (Exporter.afterCalls refuses calls).Realizes (Ledger.view fresh) observations := by
  refine ⟨recorded ((Exporter.start (Ledger.refusing refuses)).attemptAll
    (calls.flatMap (·.observations))).1, fun fresh => ?_⟩
  have start : (Exporter.start (Ledger.refusing refuses)).Realizes (Ledger.view fresh) [] := by
    refine Exporter.Realizes.start (Ledger.sound_refusing fresh refuses) ?_ (fun _ => rfl)
    intro instrument inUse
    cases inUse.1
  have ran := start.attemptAll (Ledger.view_lawful fresh) (calls.flatMap (·.observations))
  rwa [List.nil_append, ← Exporter.callAll_eq] at ran

/-- That a recording left no trace: the cache is as before, and so is
everything visible, be a series visible from its creation on or from its first
value on. -/
structure Exporter.Untouched (before after : Exporter Ledger LedgerInstrument) : Prop where
  cache : after.cache = before.cache
  visible : ∀ target, after.meter.visible.get? target = before.meter.visible.get? target
  seen : ∀ fresh target, Ledger.seen fresh after.meter.history target =
    Ledger.seen fresh before.meter.history target

/-- A recording that fails leaves no trace. -/
theorem Exporter.Realizes.untouched {exporter after : Exporter Ledger LedgerInstrument}
    {observations : List Observation} {o : Observation} {fault : Fault}
    (realizes : ∀ fresh, exporter.Realizes (Ledger.view fresh) observations)
    (failed : exporter.attempt o = (.error fault, after)) : exporter.Untouched after := by
  have course : ∀ fresh, after.cache = exporter.cache ∧
      (Ledger.view fresh).Looks after.meter (Ledger.InUse exporter.meter.history)
        (Ledger.seen fresh exporter.meter.history) := by
    intro fresh
    rcases (realizes fresh).attempt (Ledger.view_lawful fresh) o with
      ⟨next, ran, _⟩ | ⟨_, fault', meter, ran, looks⟩
    · cases ran.symm.trans failed
    · cases ran.symm.trans failed
      exact ⟨rfl, looks⟩
  refine ⟨(course none).1, fun target => ?_, fun fresh => (course fresh).2.shown_eq⟩
  rw [Ledger.visible_get?, Ledger.visible_get?]
  exact (course none).2.shown_eq target

/-- Whatever a meter refuses, after any run of calls and in every further call:

* the call attempts to record every entity it names, in order, and answers
  with the first fault;
* an attempt that fails leaves no trace of itself, wherever it stands among
  the attempts of the call;
* an entity of which some attempt succeeded has the labels and values of the
  latest such attempt, and every other entity is left as it was;
* the instruments created and not retired are exactly the held ones;
* nothing happens to an instrument after it was retired. -/
theorem refusals_leave_no_trace (refuses : Nat → String → LabelSet → Bool)
    (calls : List RecordCall) (call : RecordCall) :
    let before := Exporter.afterCalls refuses calls
    let outcomes := (before.attemptAll call.observations).1
    let after := (before.call call).2
    (outcomes.map (·.1) = call.observations ∧
      before.call call = (firstFault (faultsOf outcomes),
        (before.attemptAll call.observations).2)) ∧
    (∀ earlier o later, call.observations = earlier ++ o :: later →
      ∀ fault next, (before.attemptAll earlier).2.attempt o = (.error fault, next) →
        (before.attemptAll earlier).2.Untouched next) ∧
    (∀ entity,
      after.cache.labels? entity.1 entity.2 =
        ((latest? (recorded outcomes) entity).map (·.labels)).or
          (before.cache.labels? entity.1 entity.2) ∧
      ∀ target, Owns entity target → after.meter.visible.get? target =
        match latest? (recorded outcomes) entity with
        | some o => o.samples.lookup target
        | none => before.meter.visible.get? target) ∧
    after.held.Perm after.meter.instrumentsInUse ∧
    ∀ later earlier instrument,
      after.meter.history = later ++ .retire instrument :: earlier →
        ∀ event ∈ later, event.instrument ≠ instrument := by
  intro before outcomes after
  rcases Exporter.realizes_afterCalls refuses calls with ⟨observations, realizes⟩
  have called := before.call_eq call
  have reached : ∀ fresh,
      after.Realizes (Ledger.view fresh) (observations ++ recorded outcomes) := by
    intro fresh
    have ran := (realizes fresh).attemptAll (Ledger.view_lawful fresh) call.observations
    have same : after = (before.attemptAll call.observations).2 := congrArg Prod.snd called
    rw [same]
    exact ran
  refine ⟨⟨before.attemptAll_observations call.observations, called⟩, ?_, fun entity => ⟨?_, ?_⟩,
    ?_, ?_⟩
  · intro earlier o later _ fault next failed
    exact Exporter.Realizes.untouched
      (fun fresh => (realizes fresh).attemptAll (Ledger.view_lawful fresh) earlier) failed
  · rw [(reached none).labels?_eq, (realizes none).labels?_eq, latest?_append, Option.map_or]
  · intro target owns
    rw [Ledger.visible_get?, Ledger.visible_get?]
    have now := (reached none).shown_owned owns
    have earlier := (realizes none).shown_owned owns
    rw [latest?_append] at now
    cases found : latest? (recorded outcomes) entity with
    | some o =>
        rw [found] at now
        exact now
    | none =>
        rw [found, Option.none_or] at now
        exact now.trans earlier.symm
  · have sound : after.meter.Sound none := (reached none).sound
    have nodup : after.meter.instrumentsInUse.Nodup := sound.orderly.nodup_created.filter _
    rw [List.perm_ext_iff_of_nodup (reached none).nodup_held nodup]
    intro instrument
    rw [(reached none).mem_held_iff, Ledger.mem_instrumentsInUse]
    exact Iff.rfl
  · intro later earlier instrument split
    have sound : after.meter.Sound none := (reached none).sound
    exact (split ▸ sound.orderly : Ledger.Orderly _).unused_after_retire

/-- A relabelled data client whose third new series is refused keeps its six
old instruments, and the two new ones are retired. -/
example :
    let labelled (name : String) : RecordCall := .sdc ⟨⟨"sdc", name, "", "", ""⟩, .zero⟩
    let exporter := Exporter.afterCalls (fun attempt _ _ => attempt == 8)
      [labelled "old", labelled "new"]
    exporter.held.map (·.id) = [0, 1, 2, 3, 4, 5] ∧
      exporter.meter.history.countP (fun event => event matches .retire _) = 2 := by
  decide

end StorageTelemetry
