namespace StorageTelemetry

/-!
# Outcomes of a piece of work

Work on one item ends with a result, with a reason why there is none, or by
breaking off.  Breaking off is contained: it costs the item and nothing else.
-/

/-- What a broken-off computation left behind. -/
inductive Panic
  | message (text : String)
  | unknown
deriving DecidableEq

def Panic.text : Panic → String
  | message text => text
  | unknown => "unknown panic"

/-- How a piece of work ended. -/
inductive Outcome (ε α : Type)
  | done (value : α)
  | failed (reason : ε)
  | panicked (panic : Panic)
deriving DecidableEq

namespace Outcome

variable {ε φ α β : Type}

def map (f : α → β) : Outcome ε α → Outcome ε β
  | done value => .done (f value)
  | failed reason => .failed reason
  | panicked panic => .panicked panic

def mapReason (f : ε → φ) : Outcome ε α → Outcome φ α
  | done value => .done value
  | failed reason => .failed (f reason)
  | panicked panic => .panicked panic

/-- The value, if there is one. -/
def value? : Outcome ε α → Option α
  | done value => some value
  | _ => none

/-- The outcome of an operation that does not break off. -/
def ofExcept : Except ε α → Outcome ε α
  | .ok value => .done value
  | .error reason => .failed reason

end Outcome
end StorageTelemetry
