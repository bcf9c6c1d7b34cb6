import StorageTelemetry.Program.Live
import StorageTelemetry.Program.Run
import StorageTelemetry.Rest.Wire
import Std.Async.DNS
import Std.Async.Signal
import Std.Async.System
import Std.Async.TCP

namespace StorageTelemetry.Main

/-!
# The command line

Everything here touches the outside: the environment, files, connections, the
clock and the interrupt.  What to do with what it finds is decided elsewhere.
-/

open Std.Async

/-! ## The environment and files -/

def readEnvironment : IO Environment := do
  return ⟨(← Std.Internal.UV.System.osEnviron).toList⟩

/-- The text of a file, or why it cannot be read. -/
def readText (path : String) : IO (Except SystemError String) := do
  try
    let bytes ← IO.FS.readBinFile path
    return .ok (Text.ofBytes bytes.toList)
  catch
    | .permissionDenied .. => return .error .permissionDenied
    | _ => return .error .noSuchFile

/-- The first of some files that can be read. -/
def readFirst : List (String × FileFormat) → IO (Option SettingsFile)
  | [] => return none
  | (path, format) :: rest => do
      match ← readText path with
      | .ok text => return some ⟨format, text⟩
      | .error _ => readFirst rest

def report (environment : Environment) (entries : List LogEntry) : IO Unit := do
  for entry in ProgramRun.shown environment entries do
    let fields := entry.fields.map fun (name, value) => " " ++ name ++ "=" ++ value
    IO.println (entry.level.label ++ " " ++ String.ofList ProgramRun.place ++ ": " ++
      entry.message ++ String.join fields)

/-! ## Connections -/

/-- Everything that comes over a connection until it ends or a condition
holds. -/
partial def receive (socket : TCP.Socket.Client) (enough : ByteArray → Bool) (begun : ByteArray) :
    Async ByteArray := do
  if enough begun then return begun
  match ← socket.recv? 65536 with
  | some more => receive socket enough (begun ++ more)
  | none => return begun

def hasHead (bytes : ByteArray) : Bool := (Wire.head? bytes.toList).isSome

def answerOne (socket : TCP.Socket.Client) (registry : IO.Ref Registry) : Async Unit := do
  let bytes ← receive socket hasHead .empty
  if let some (method, target) := requestTarget? bytes.toList then
    let reply := (← registry.get).respond method target
    socket.send ⟨reply.wire.toArray⟩
  socket.shutdown

partial def serve (socket : TCP.Socket.Server) (registry : IO.Ref Registry) : Async Unit := do
  let client ← socket.accept
  background do
    try answerOne client registry catch _ => return
  serve socket registry

/-- Begins to listen, and answers from then on. -/
def listen (server : ServerSettings) (registry : IO.Ref Registry) :
    IO (Except SystemError Unit) := do
  let some address := Std.Net.IPv4Addr.ofString server.address
    | return .error .addressNotAvailable
  try
    let socket ← TCP.Socket.Server.mk
    socket.bind (.v4 ⟨address, server.port⟩)
    socket.listen 128
    let _ ← (serve socket registry).toIO
    return .ok ()
  catch
    | .permissionDenied .. => return .error .permissionDenied
    | .resourceBusy .. => return .error .addressInUse
    | _ => return .error .addressNotAvailable

/-- Sends a request and reads the answer.  Only plain connections are made. -/
def exchange (request : RestRequest) : Async (Option RestAnswer) := do
  let authority := request.location.authority.splitOn ":"
  let some host := authority.head? | return none
  let some port := ((authority[1]?).getD "80").toNat? | return none
  if request.location.secure then return none
  for address in ← DNS.getAddrInfo host "" do
    if let .v4 address := address then
      let socket ← TCP.Socket.Client.mk
      socket.connect (.v4 ⟨address, port.toUInt16⟩)
      socket.send ⟨request.wire.toArray⟩
      let bytes ← receive socket (fun _ => false) .empty
      return RestAnswer.ofWire? bytes.toList
  return none

/-! ## Collection -/

/-- What collection meets outside. -/
structure Outside where
  environment : Environment
  begun : Nat
  interrupt : AsyncTask Int
  registry : IO.Ref Registry

def Outside.now (outside : Outside) : IO Instant := do
  return (← IO.monoMsNow) - outside.begun

/-- Waits for a moment.  An interrupt ends the waiting. -/
partial def Outside.wait (outside : Outside) (moment : Instant) : IO Bool := do
  if ← IO.hasFinished outside.interrupt then return true
  let now ← outside.now
  if moment ≤ now then return false
  IO.sleep (min 50 (moment - now)).toUInt32
  outside.wait moment

partial def collect (outside : Outside) (settings : Settings) (surroundings : Surroundings)
    (known : KnownAnswers) (state : LiveCollection) : IO (Except BootstrapFailure Unit) := do
  match state.step settings surroundings known with
  | .ask request =>
      let begun ← outside.now
      let answer ← try (exchange request).block catch _ => pure none
      let span := (← outside.now) - begun
      collect outside settings surroundings (known.put request (span, answer)) state
  | .goOn state =>
      report outside.environment state.run.log
      outside.registry.set state.run.exporter.meter
      let interrupted ← outside.wait state.run.loop.clock
      let state := state.perform (.elapse ((← outside.now) - state.run.loop.clock))
      let state := if interrupted then state.perform .cancel else state
      collect outside settings surroundings .empty state
  | .ended result => return result.getD (.ok ())

def runWith (environment : Environment) (settings : Settings) : IO ProgramEnd := do
  report environment (ProgramRun.settingsEntries settings)
  let certificate ← readText (settings.gateway.certPath.getD "")
  match GatewayConnection.make (fun _ => certificate) settings.gateway with
  | .error fault => return .notConnected fault
  | .ok connection =>
      let registry ← IO.mkRef Registry.empty
      let interrupt ← (← Signal.Waiter.mk .sigint false).wait
      let election := (ProgramRun.electorOf settings).join settings.election.endpoint
      let failures := ProgramRun.bootstrapFailures election (← listen settings.server registry)
      let surroundings : Surroundings :=
        { leads := fun _ => true, shutdownAt := none, failures := failures }
      let outside : Outside := ⟨environment, ← IO.monoMsNow, interrupt, registry⟩
      match ← collect outside settings surroundings .empty (.start settings connection surroundings) with
      | .ok () => return .interrupted
      | .error failure => return .stopped failure

def run (arguments : List String) : IO ProgramEnd := do
  let environment ← readEnvironment
  report environment [ProgramRun.greeting]
  let environmentFile ← readText ".env"
  let path? := (Arguments.read arguments environment).toOption.map (·.settingsPath)
  let settingsFile ← readFirst ((path?.map (SettingsFile.candidates FileFormat.endings)).getD [])
  let machine : Machine :=
    { settingsFile := fun _ => settingsFile
      certificateFile := fun _ => .error .noSuchFile
      listen := fun _ => .ok () }
  match ProgramRun.effectiveSettings machine arguments environment environmentFile.toOption with
  | .ok settings => runWith environment settings
  | .error ending => return ending

end StorageTelemetry.Main

def main (arguments : List String) : IO UInt32 := do
  let ending ← StorageTelemetry.Main.run arguments
  StorageTelemetry.Main.report (← StorageTelemetry.Main.readEnvironment) ending.entries
  if let some complaint := ending.complaint? then IO.eprintln complaint
  return UInt32.ofNat ending.status
