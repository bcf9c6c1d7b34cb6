import StorageTelemetry.Settings.Basic

namespace StorageTelemetry

/-!
# Settings the exporter can run with

The checks are made in a fixed order and the first one that fails is the
answer.
-/

/-- The shortest accepted poll interval, in seconds. -/
def minPollInterval : UInt64 := 5

/-- The longest accepted poll interval, in seconds. -/
def maxPollInterval : UInt64 := 600

/-- Why settings are refused. -/
inductive SettingsProblem
  | missingText (field : String)
  | missingElectionEndpoint
  | pollInterval (field : String) (seconds : UInt64)
  | zero (field : String)
  | noDrivers
deriving DecidableEq

namespace SettingsProblem

def message : SettingsProblem → String
  | missingText field => "Missing required field: " ++ field
  | missingElectionEndpoint =>
      "leader_election.endpoint is required when leader election is enabled"
  | pollInterval field seconds =>
      field ++ " must be between " ++ toString minPollInterval.toNat ++ " and " ++
        toString maxPollInterval.toNat ++ " seconds, got " ++ toString seconds.toNat
  | zero field => field ++ " must be greater than 0"
  | noDrivers => "driver_names must list at least one CSI driver"

/-- A problem as a fault. -/
def fault (problem : SettingsProblem) : Fault := .config problem.message

end SettingsProblem

/-- A check: nothing if a condition holds, and a problem otherwise. -/
def ensure (condition : Bool) (problem : SettingsProblem) :
    Except SettingsProblem Unit :=
  if condition then .ok () else .error problem

def isPollInterval (seconds : UInt64) : Bool :=
  minPollInterval ≤ seconds && seconds ≤ maxPollInterval

def CollectionSettings.validate (c : CollectionSettings) : Except SettingsProblem Unit := do
  ensure (isPollInterval c.sdcInterval) (.pollInterval "sdc_poll_interval_seconds" c.sdcInterval)
  ensure (isPollInterval c.volumeInterval)
    (.pollInterval "volume_poll_interval_seconds" c.volumeInterval)
  ensure (isPollInterval c.poolInterval)
    (.pollInterval "storage_pool_poll_interval_seconds" c.poolInterval)
  ensure (c.maxConcurrentQueries != 0) (.zero "max_concurrent_queries")
  ensure (c.tokenRefreshInterval != 0) (.zero "token_refresh_interval_seconds")
  ensure (!c.driverNames.isEmpty) .noDrivers

/-- Checks all settings.  A password may be blank but not empty. -/
def Settings.validate (settings : Settings) : Except SettingsProblem Unit := do
  ensure (!Text.allBlank settings.gateway.endpoint) (.missingText "powerflex.endpoint")
  ensure (!Text.allBlank settings.gateway.username) (.missingText "powerflex.username")
  ensure (!settings.gateway.password.isEmpty) (.missingText "powerflex.password")
  ensure (!(settings.election.enabled && Text.allBlank settings.election.endpoint))
    .missingElectionEndpoint
  settings.collection.validate

end StorageTelemetry
