import StorageTelemetry.Elector
import StorageTelemetry.Gateway.Connection
import StorageTelemetry.Program.Arguments
import StorageTelemetry.Program.LogFilter
import StorageTelemetry.Scheduler.Loop
import StorageTelemetry.Settings.EnvironmentFile
import StorageTelemetry.Settings.Load
import StorageTelemetry.Settings.Validation
import StorageTelemetry.SystemError

namespace StorageTelemetry

/-!
# The program

The program reads its arguments, loads its settings, puts what the arguments
say over them, checks them, makes the connection, and collects until it is
interrupted.  Every stage may be the last one.
-/

/-- What the program finds on its machine. -/
structure Machine where
  settingsFile : String → Option SettingsFile
  certificateFile : String → Except SystemError String
  listen : ServerSettings → Except SystemError Unit

/-- How the program ends. -/
inductive ProgramEnd
  | arguments (ending : ArgumentsEnd)
  | notLoaded (failure : LoadFailure)
  | refused (problem : SettingsProblem)
  | notConnected (fault : Fault)
  | stopped (failure : BootstrapFailure)
  | interrupted
deriving DecidableEq

namespace ProgramEnd

def status : ProgramEnd → Nat
  | arguments .information | interrupted => 0
  | arguments .misuse => 2
  | notLoaded _ | refused _ | notConnected _ | stopped _ => 1

/-- What is written as an error when the program ends. -/
def complaint? : ProgramEnd → Option String
  | notLoaded failure => some ("Error: " ++ failure.message)
  | notConnected fault => some ("Error: " ++ fault.message)
  | _ => none

def entries : ProgramEnd → List LogEntry
  | refused problem => [.error problem.fault.message []]
  | stopped failure => [.error ("Exporter stopped: " ++ failure.message) []]
  | interrupted => [.info "Received Ctrl-C" [], .info "Exporter stopped" []]
  | _ => []

end ProgramEnd

/-- What became of the program: the settings it worked with, if it came that
far, and how it ended. -/
structure ProgramRun where
  settings : Option Settings
  ending : ProgramEnd
deriving DecidableEq

namespace ProgramRun

def version : String := "0.3.0"

/-- What is reported first. -/
def greeting : LogEntry := .info ("Starting PowerFlex Prometheus Exporter v" ++ version) []

def settingsEntries (settings : Settings) : List LogEntry :=
  [.info "Configuration loaded successfully" [],
   .info ("PowerFlex gateway: " ++ settings.gateway.endpoint) [],
   .info ("Metrics endpoint: http://" ++ settings.server.address ++ ":" ++
     toString settings.server.port.toNat ++ "/metrics") []]

def log (run : ProgramRun) : List LogEntry :=
  greeting :: ((run.settings.map settingsEntries).getD [] ++ run.ending.entries)

/-- The place at which the program itself makes its entries. -/
def place : List Char := "powerflex_exporter".toList

def filterIn (environment : Environment) : LogFilter :=
  .ofVariable (environment.get? "RUST_LOG")

def shown (environment : Environment) (entries : List LogEntry) : List LogEntry :=
  entries.filter fun entry => (filterIn environment).shows place entry.level

def fullEnvironment (environment : Environment) (environmentFile : Option String) : Environment :=
  match environmentFile with
  | some text => EnvironmentFile.apply text environment
  | none => environment

/-- The settings that the program works with.  Arguments see the environment
as it is, while loading also sees what the environment file assigns. -/
def effectiveSettings (machine : Machine) (arguments : List String) (environment : Environment)
    (environmentFile : Option String) : Except ProgramEnd Settings := do
  let arguments ← (Arguments.read arguments environment).mapError .arguments
  let loaded ← (Settings.load (machine.settingsFile arguments.settingsPath)
    (fullEnvironment environment environmentFile)).mapError .notLoaded
  let settings := arguments.override loaded
  settings.validate.mapError .refused
  return settings

/-- The tasks that fail when collection begins: the election first, then the
server. -/
def bootstrapFailures (election : Except Fault Unit) (listening : Except SystemError Unit) :
    List BootstrapFailure :=
  let first := match election with
    | .ok () => []
    | .error fault => [.election fault]
  let second := match listening with
    | .ok () => []
    | .error refusal => [.server refusal.message]
  first ++ second

def electorOf (settings : Settings) : Elector :=
  if settings.election.enabled then .requiringEndpoint else .standalone

def endingWith (machine : Machine) (settings : Settings) : ProgramEnd :=
  match GatewayConnection.make machine.certificateFile settings.gateway with
  | .error fault => .notConnected fault
  | .ok _ =>
      match bootstrapFailures ((electorOf settings).join settings.election.endpoint)
          (machine.listen settings.server) with
      | failure :: _ => .stopped failure
      | [] => .interrupted

/-- What becomes of the program.  It ends when it is interrupted, unless
something ends it before. -/
def of (machine : Machine) (arguments : List String) (environment : Environment)
    (environmentFile : Option String) : ProgramRun :=
  match effectiveSettings machine arguments environment environmentFile with
  | .ok settings => ⟨some settings, endingWith machine settings⟩
  | .error ending => ⟨none, ending⟩

end ProgramRun
end StorageTelemetry
