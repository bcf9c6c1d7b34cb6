import StorageTelemetry.Exposition.Registry

namespace StorageTelemetry

/-!
# Meters

A meter makes instruments for named series and takes their values.  Making one
may fail, and a failed attempt may still change the meter's own state.  Two
meters are given: the registry, and a ledger that records what was done to it
and can be told to refuse.
-/

/-- Something that makes instruments `η`. -/
class Meter (μ : Type) (η : outParam Type) where
  create : μ → String → String → LabelSet → Except Fault η × μ
  set : μ → η → Double → μ
  retire : μ → η → μ

instance : Meter Registry Handle where
  create registry name help labels :=
    match registry.create name help labels with
    | .ok (handle, registry) => (.ok handle, registry)
    | .error fault => (.error fault, registry)
  set := Registry.set
  retire := Registry.retire

/-! ## The ledger -/

/-- An instrument of the ledger, numbered by the attempt that made it. -/
structure LedgerInstrument where
  id : Nat
  name : String
  values : List String
deriving DecidableEq

/-- What was done to an instrument. -/
inductive LedgerEvent
  | create (instrument : LedgerInstrument)
  | set (instrument : LedgerInstrument) (value : Double)
  | retire (instrument : LedgerInstrument)
deriving DecidableEq

/-- A meter that records what happened, newest first.  Which attempts are
refused may depend on their number and on what is to be created. -/
structure Ledger where
  refuses : Nat → String → LabelSet → Bool
  attempts : Nat
  history : List LedgerEvent

namespace Ledger

/-- A ledger with nothing recorded that refuses nothing. -/
def empty : Ledger := ⟨fun _ _ _ => false, 0, []⟩

def create (ledger : Ledger) (name : String) (labels : LabelSet) :
    Except Fault LedgerInstrument × Ledger :=
  let next := { ledger with attempts := ledger.attempts + 1 }
  if ledger.refuses ledger.attempts name labels then
    (.error (.instrument ("refusing " ++ name)), next)
  else
    let instrument : LedgerInstrument := ⟨ledger.attempts, name, labels.values⟩
    (.ok instrument, { next with history := .create instrument :: ledger.history })

def record (ledger : Ledger) (event : LedgerEvent) : Ledger :=
  { ledger with history := event :: ledger.history }

/-- The effect of an event on the table of visible values. -/
def applyEvent : LedgerEvent → Table (String × List String) Double →
    Table (String × List String) Double
  | .create _, table => table
  | .set instrument value, table => table.put (instrument.name, instrument.values) value
  | .retire instrument, table => table.erase (instrument.name, instrument.values)

def visible (ledger : Ledger) : Table (String × List String) Double :=
  ledger.history.foldr applyEvent .empty

end Ledger

instance : Meter Ledger LedgerInstrument where
  create ledger name _ labels := ledger.create name labels
  set ledger instrument value := ledger.record (.set instrument value)
  retire ledger instrument := ledger.record (.retire instrument)

/-! ## Refusals -/

/-- A rule by which a ledger refuses: names that end in a suffix, and if a
label value is given, only when one of the values equals it. -/
structure RefusalRule where
  ending : String
  label : Option String
deriving DecidableEq

def RefusalRule.refuses (rule : RefusalRule) (name : String) (labels : LabelSet) : Bool :=
  name.endsWith rule.ending &&
    match rule.label with
    | some value => labels.values.contains value
    | none => true

def Ledger.withRules (ledger : Ledger) (rules : List RefusalRule) : Ledger :=
  { ledger with refuses := fun _ name labels => rules.any (·.refuses name labels) }

end StorageTelemetry
