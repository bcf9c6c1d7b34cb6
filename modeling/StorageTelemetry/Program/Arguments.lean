import StorageTelemetry.Powers
import StorageTelemetry.Settings.Basic
import StorageTelemetry.Settings.Environment
import StorageTelemetry.Text.Digits

namespace StorageTelemetry

/-!
# Arguments

Six options take a value, and five of them may also be given as environment
variables.  Arguments are read from the left, and the first one that cannot
stand where it does, or that asks for information, ends the reading.
-/

/-- The options that take a value. -/
inductive ValueOption
  | settingsPath
  | endpoint
  | username
  | password
  | port
  | address
deriving DecidableEq

/-- What an option is for. -/
inductive OptionUse
  | value (option : ValueOption)
  | information

/-- Why the program ends at its arguments. -/
inductive ArgumentsEnd
  | information
  | misuse
deriving DecidableEq

def longOption? : String → Option OptionUse
  | "config" => some (.value .settingsPath)
  | "powerflex-endpoint" => some (.value .endpoint)
  | "powerflex-username" => some (.value .username)
  | "powerflex-password" => some (.value .password)
  | "port" => some (.value .port)
  | "addr" => some (.value .address)
  | "help" | "version" => some .information
  | _ => none

def shortOption? : Char → Option OptionUse
  | 'c' => some (.value .settingsPath)
  | 'p' => some (.value .port)
  | 'a' => some (.value .address)
  | 'h' | 'V' => some .information
  | _ => none

def ValueOption.variable? : ValueOption → Option String
  | settingsPath => none
  | endpoint => some "POWERFLEX_ENDPOINT"
  | username => some "POWERFLEX_USERNAME"
  | password => some "POWERFLEX_PASSWORD"
  | port => some "EXPORTER_PORT"
  | address => some "EXPORTER_ADDR"

/-! ## Values -/

/-- The port that a text denotes.  A sign may come first. -/
def portOf? (text : String) : Option UInt16 :=
  let number? := match text.toList with
    | '-' :: digits => (Text.digits? digits).filter (· = 0)
    | signed => (Text.unsigned? signed).filter (· < twoPow 16)
  number?.map UInt16.ofNat

def ValueOption.accepts : ValueOption → String → Bool
  | port, value => (portOf? value).isSome
  | _, _ => true

/-- The values given so far; an option is given at most once. -/
abbrev GivenValues : Type := List (ValueOption × String)

def GivenValues.has (given : GivenValues) (option : ValueOption) : Bool :=
  given.any fun (other, _) => other = option

def GivenValues.add (given : GivenValues) (option : ValueOption) (value : String) :
    Except ArgumentsEnd GivenValues :=
  if option.accepts value && !given.has option then .ok (given ++ [(option, value)])
  else .error .misuse

/-! ## Reading -/

/-- The form of an argument. -/
inductive ArgumentForm
  | separator
  | long (name : String) (attached : Option String)
  | short (letters : List Char)
  | plain (text : String)

/-- The form of an argument.  A single hyphen is plain. -/
def ArgumentForm.of (argument : String) : ArgumentForm :=
  match argument.toList with
  | ['-', '-'] => separator
  | '-' :: '-' :: rest =>
      let attached := match rest.dropWhile (· ≠ '=') with
        | _ :: value => some (String.ofList value)
        | [] => none
      long (String.ofList (rest.takeWhile (· ≠ '='))) attached
  | '-' :: letter :: rest => short (letter :: rest)
  | _ => plain argument

/-- What reading has come to: an option that waits for its value, and the
values so far. -/
structure ReadingState where
  awaiting : Option ValueOption
  given : GivenValues

/-- Reads letters behind one hyphen.  What follows the letter of an option
with a value is its value, with or without an equals sign. -/
def readLetters (given : GivenValues) : List Char → Except ArgumentsEnd ReadingState
  | [] => .ok ⟨none, given⟩
  | letter :: rest =>
      match shortOption? letter, rest with
      | none, _ => .error .misuse
      | some .information, _ => .error .information
      | some (.value option), [] => .ok ⟨some option, given⟩
      | some (.value option), '=' :: value | some (.value option), value =>
          (given.add option (String.ofList value)).map (⟨none, ·⟩)

def readLong (given : GivenValues) (name : String) (attached : Option String) :
    Except ArgumentsEnd ReadingState :=
  match longOption? name, attached with
  | none, _ | some .information, some _ => .error .misuse
  | some .information, none => .error .information
  | some (.value option), none => .ok ⟨some option, given⟩
  | some (.value option), some value => (given.add option value).map (⟨none, ·⟩)

/-- Reads arguments.  Nothing may follow a separator, since every argument
belongs to an option. -/
def readArguments : ReadingState → List String → Except ArgumentsEnd GivenValues
  | ⟨some _, _⟩, [] => .error .misuse
  | ⟨none, given⟩, [] => .ok given
  | ⟨awaiting, given⟩, argument :: rest =>
      match awaiting, ArgumentForm.of argument with
      | some option, .plain value =>
          match given.add option value with
          | .ok given => readArguments ⟨none, given⟩ rest
          | .error ending => .error ending
      | none, .separator => if rest.isEmpty then .ok given else .error .misuse
      | none, .long name attached =>
          match readLong given name attached with
          | .ok state => readArguments state rest
          | .error ending => .error ending
      | none, .short letters =>
          match readLetters given letters with
          | .ok state => readArguments state rest
          | .error ending => .error ending
      | _, _ => .error .misuse

/-- The values with those of variables for options that were not given. -/
def GivenValues.complete (environment : Environment) (given : GivenValues) :
    Except ArgumentsEnd GivenValues :=
  [ValueOption.endpoint, .username, .password, .port, .address].foldlM (fun given option =>
    match option.variable?.bind environment.get? with
    | some value => if given.has option then .ok given else given.add option value
    | none => .ok given) given

/-! ## Result -/

/-- What the arguments say. -/
structure Arguments where
  settingsPath : String
  endpoint : Option String
  username : Option String
  password : Option String
  port : Option UInt16
  address : Option String
deriving DecidableEq

namespace Arguments

/-- Where settings are read from if the arguments do not say. -/
def defaultPath : String := "config/Default.toml"

def ofGiven (given : GivenValues) : Arguments where
  settingsPath := (given.lookup .settingsPath).getD defaultPath
  endpoint := given.lookup .endpoint
  username := given.lookup .username
  password := given.lookup .password
  port := (given.lookup .port).bind portOf?
  address := given.lookup .address

/-- Reads arguments and the variables that stand in for them. -/
def read (arguments : List String) (environment : Environment) : Except ArgumentsEnd Arguments := do
  let given ← readArguments ⟨none, []⟩ arguments
  return ofGiven (← given.complete environment)

/-- Settings with what the arguments say in place of what was loaded. -/
def override (arguments : Arguments) (settings : Settings) : Settings :=
  { settings with
    gateway := { settings.gateway with
      endpoint := arguments.endpoint.getD settings.gateway.endpoint
      username := arguments.username.getD settings.gateway.username
      password := arguments.password.getD settings.gateway.password }
    server := {
      address := arguments.address.getD settings.server.address
      port := arguments.port.getD settings.server.port } }

end Arguments
end StorageTelemetry
