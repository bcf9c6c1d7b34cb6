import StorageTelemetry.Fault
import StorageTelemetry.Log
import StorageTelemetry.Text.Blank

namespace StorageTelemetry

/-!
# Leadership

Only the leading replica collects.  A standalone elector leads from the start
and changes only when it is told to.
-/

/-- A standalone elector. -/
structure Elector where
  leads : Bool
  requiresEndpoint : Bool
deriving DecidableEq

namespace Elector

/-- An elector that joins without an election endpoint. -/
def standalone : Elector := ⟨true, false⟩

/-- An elector that refuses to join when no election endpoint is given. -/
def requiringEndpoint : Elector := ⟨true, true⟩

def setLeads (elector : Elector) (leads : Bool) : Elector := { elector with leads }

/-- Joins the election; this never changes who leads. -/
def join (elector : Elector) (endpoint : String) : Except Fault Unit :=
  if elector.requiresEndpoint && Text.allBlank endpoint then
    .error (.leaderElection "no election endpoint configured")
  else .ok ()

def joinedEntry (endpoint namespaceName : String) : LogEntry :=
  .info "Leader election initialized in standalone mode"
    [("endpoint", endpoint), ("namespace", namespaceName)]

end Elector
end StorageTelemetry
