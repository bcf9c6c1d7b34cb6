import StorageTelemetry.Document.Mismatch

namespace StorageTelemetry

/-!
# Faults

Everything that can go wrong while collecting, as causes.  The wording of a
fault is decided here and nowhere else.
-/

/-- Why an operation did not succeed. -/
inductive Fault
  | powerFlexApi (reason : String)
  | http (reason : String)
  | json (mismatch : Mismatch)
  | config (reason : String)
  | auth (reason : String)
  | bulkBatch (reason : String)
  | leaderElection (reason : String)
  | registration (reason : String)
  | instrument (reason : String)
  | timeout (awaited : String)
  | cancelled
  | io (reason : String)
deriving DecidableEq

namespace Fault

def message : Fault → String
  | powerFlexApi reason => "PowerFlex API error: " ++ reason
  | http reason => "HTTP error: " ++ reason
  | json mismatch => "JSON error: " ++ mismatch.message
  | config reason => "Configuration error: " ++ reason
  | auth reason => "Authentication failed: " ++ reason
  | bulkBatch reason => "Bulk metrics batch failed: " ++ reason
  | leaderElection reason => "Leader election error: " ++ reason
  | registration reason => "Metric registration error: " ++ reason
  | instrument reason => "Instrument creation failed: " ++ reason
  | timeout awaited => "Timed out waiting for " ++ awaited
  | cancelled => "Operation cancelled"
  | io reason => "IO error: " ++ reason

def kind : Fault → String
  | powerFlexApi _ => "PowerFlexApi"
  | http _ => "Http"
  | json _ => "Json"
  | config _ => "Config"
  | auth _ => "Auth"
  | bulkBatch _ => "BulkBatch"
  | leaderElection _ => "LeaderElection"
  | registration _ => "Registration"
  | instrument _ => "Instrument"
  | timeout _ => "Timeout"
  | cancelled => "Cancelled"
  | io _ => "Io"

end Fault
end StorageTelemetry
