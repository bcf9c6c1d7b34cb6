import StorageTelemetry.Clock.Ticker

namespace StorageTelemetry

/-!
# Timelines

A timeline tells how something looked over time: its first value, and each
later one with the moment from which it holds, in order of time.
-/

/-- A value that changes at moments. -/
structure Timeline (α : Type) where
  first : α
  changes : List (Instant × α)

namespace Timeline

variable {α β : Type}

/-- The value at a moment: that of the last change up to then. -/
def at? (timeline : Timeline α) (moment : Instant) : Option α :=
  (timeline.changes.filter fun change => change.1 ≤ moment).getLast?.map (·.2)

/-- The value at a moment, which is the first one before any change. -/
def valueAt (timeline : Timeline α) (moment : Instant) : α :=
  (timeline.at? moment).getD timeline.first

def valuesAfter (change : α → β → α) : α → List (Instant × β) → List (Instant × α)
  | _, [] => []
  | value, (moment, step) :: rest =>
      let value := change value step
      (moment, value) :: valuesAfter change value rest

/-- The timeline that timed steps make of a first value. -/
def ofSteps (change : α → β → α) (first : α) (steps : List (Instant × β)) : Timeline α :=
  ⟨first, valuesAfter change first steps⟩

end Timeline
end StorageTelemetry
