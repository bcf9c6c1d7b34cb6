import StorageTelemetry.Program.Run

namespace StorageTelemetry

/-!
# What an environment file counts for

An environment file sets variables that are not set yet.  The program has two
readers of variables: arguments fall back on five of them, and settings are
made of all that begin with the exporter's own prefix.  The file is applied
between the two.  So it counts as if its variables were set, as far as they are
settings, and what it sets for arguments is not seen.
-/

namespace Environment

/-- An environment with more variables, behind those that are set. -/
def extend (environment : Environment) (more : List (String × String)) : Environment :=
  ⟨environment.assignments ++ more⟩

theorem get?_extend (environment : Environment) (more : List (String × String)) (name : String) :
    (environment.extend more).get? name = (environment.get? name).or (more.lookup name) :=
  List.lookup_append

/-- Variables of other names change nothing. -/
theorem get?_extend_of_not_mem (environment : Environment) {more : List (String × String)}
    {name : String} (absent : name ∉ more.map (·.1)) :
    (environment.extend more).get? name = environment.get? name := by
  have none : more.lookup name = none := by
    refine List.lookup_eq_none_iff.mpr fun assignment member => ?_
    exact bne_iff_ne.mpr fun same => absent (same ▸ List.mem_map_of_mem member)
  rw [get?_extend, none, Option.or_none]

theorem layer_extend (environment : Environment) (more : List (String × String)) :
    (environment.extend more).layer = environment.layer ++ Environment.layer ⟨more⟩ :=
  List.filterMap_append

/-- Whether a variable is a setting. -/
def isSetting (name : String) : Bool := (settingKey? name).isSome

/-- The layer is made of those variables that are settings. -/
theorem layer_filter (assignments : List (String × String)) :
    Environment.layer ⟨assignments.filter fun assignment => isSetting assignment.1⟩ =
      Environment.layer ⟨assignments⟩ := by
  rw [layer, layer, List.filterMap_filter]
  apply congrArg fun entry? => List.filterMap entry? assignments
  funext assignment
  cases known : settingKey? assignment.1 <;> simp [isSetting, known]

end Environment

/-! ## What a file sets -/

namespace EnvironmentFile

open Environment

/-- Whether an environment is another with more variables, none of which was set. -/
def Adds (environment other : Environment) : Prop :=
  ∃ more, other = environment.extend more ∧
    ∀ assignment ∈ more, environment.get? assignment.1 = none

theorem Adds.refl (environment : Environment) : Adds environment environment :=
  ⟨[], by simp [extend], List.forall_mem_nil _⟩

theorem Adds.trans {first second third : Environment} (some : Adds first second)
    (others : Adds second third) : Adds first third := by
  rcases some with ⟨early, rfl, new⟩
  rcases others with ⟨late, rfl, new'⟩
  refine ⟨early ++ late, by simp [extend], fun assignment member => ?_⟩
  rcases List.mem_append.mp member with among | among
  · exact new assignment among
  · have unset := new' assignment among
    rw [get?_extend, Option.or_eq_none_iff] at unset
    exact unset.1

theorem adds_setDefault (environment : Environment) (name value : String) :
    Adds environment (environment.setDefault name value) := by
  cases known : environment.get? name with
  | some old => simpa [setDefault, known] using Adds.refl environment
  | none =>
      refine ⟨[(name, value)], by simp [setDefault, extend, known], fun assignment member => ?_⟩
      rw [List.mem_singleton.mp member, known]

theorem adds_applyLines (lines : List (List Char)) (environment : Environment) :
    Adds environment (applyLines lines environment) := by
  induction lines generalizing environment with
  | nil => exact Adds.refl environment
  | cons text rest ih =>
      cases reads : line environment text with
      | malformed => simpa only [applyLines, reads] using Adds.refl environment
      | empty => simpa only [applyLines, reads] using ih environment
      | assignment name value =>
          simpa only [applyLines, reads] using (adds_setDefault environment name value).trans (ih _)

/-- The variables that a file sets, since they were not set before. -/
def added (text : String) (environment : Environment) : List (String × String) :=
  (apply text environment).assignments.drop environment.assignments.length

theorem added_spec (text : String) (environment : Environment) :
    apply text environment = environment.extend (added text environment) ∧
      ∀ assignment ∈ added text environment, environment.get? assignment.1 = none := by
  rcases adds_applyLines (joinLines .plain [] (rawLines (Text.withoutMark text.toList)))
    environment with ⟨more, applied, new⟩
  have same : added text environment = more := by
    rw [added, apply, applied, extend, List.drop_left]
  rw [same]
  exact ⟨applied, new⟩

end EnvironmentFile

/-! ## What arguments see -/

namespace GivenValues

/-- One option with what its variable says, unless it was given. -/
def fallBack (environment : Environment) (given : GivenValues) (option : ValueOption) :
    Except ArgumentsEnd GivenValues :=
  match option.variable?.bind environment.get? with
  | some value => if given.has option then .ok given else given.add option value
  | none => .ok given

theorem complete_eq (environment : Environment) (given : GivenValues) :
    given.complete environment =
      [ValueOption.endpoint, .username, .password, .port, .address].foldlM
        (fallBack environment) given := rfl

theorem fallBack_of_has {environment : Environment} {given : GivenValues} {option : ValueOption}
    (has : given.has option = true) : given.fallBack environment option = .ok given := by
  unfold fallBack
  split
  · rw [if_pos has]
  · rfl

/-- No option is forgotten. -/
theorem has_of_fallBack {environment : Environment} {given next : GivenValues}
    {option other : ValueOption} (fell : given.fallBack environment option = .ok next)
    (has : given.has other = true) : next.has other = true := by
  unfold fallBack at fell
  split at fell
  · split at fell
    · cases fell
      exact has
    · unfold add at fell
      split at fell
      · cases fell
        rw [GivenValues.has, List.any_append, ← GivenValues.has, has, Bool.true_or]
      · cases fell
  · cases fell
    exact has

/-- Whether arguments see the same in two environments: what these have for
the options that were not given. -/
def SeesSame (environment other : Environment) (given : GivenValues) : Prop :=
  ∀ option name, option.variable? = some name →
    given.has option = true ∨ environment.get? name = other.get? name

theorem SeesSame.fallBack_eq {environment other : Environment} {given : GivenValues}
    (same : SeesSame environment other given) (option : ValueOption) :
    given.fallBack environment option = given.fallBack other option := by
  cases named : option.variable? with
  | none => simp only [fallBack, named, Option.bind_none]
  | some name =>
      rcases same option name named with has | agree
      · rw [fallBack_of_has has, fallBack_of_has has]
      · simp only [fallBack, named, Option.bind_some, agree]

theorem complete_congr {environment other : Environment} {given : GivenValues}
    (same : SeesSame environment other given) :
    given.complete environment = given.complete other := by
  rw [complete_eq, complete_eq]
  generalize [ValueOption.endpoint, .username, .password, .port, .address] = options
  induction options generalizing given with
  | nil => rfl
  | cons option rest ih =>
      rw [List.foldlM_cons, List.foldlM_cons, same.fallBack_eq option]
      cases fell : given.fallBack other option with
      | error ending => rfl
      | ok next =>
          refine ih fun option' name named => ?_
          exact (same option' name named).imp_left (has_of_fallBack fell)

end GivenValues

theorem Arguments.read_congr {environment other : Environment} {arguments : List String}
    (same : ∀ given, readArguments ⟨none, []⟩ arguments = .ok given →
      GivenValues.SeesSame environment other given) :
    read arguments environment = read arguments other := by
  unfold read
  cases reads : readArguments ⟨none, []⟩ arguments with
  | error ending => rfl
  | ok given =>
      have completed := GivenValues.complete_congr (same given reads)
      simp only [bind, Except.bind, completed]

/-- No variable that stands in for an option is a setting. -/
theorem ValueOption.isSetting_variable {option : ValueOption} {name : String}
    (named : option.variable? = some name) : Environment.isSetting name = false := by
  cases option with
  | settingsPath => cases named
  | endpoint | username | password | port | address =>
      cases named
      decide +kernel

/-! ## The program -/

namespace ProgramRun

variable {machine : Machine} {arguments : List String} {environment other : Environment}

/-- The program goes by what its two readers of variables see. -/
theorem of_congr {file file' : Option String}
    (arguments_eq : Arguments.read arguments environment = Arguments.read arguments other)
    (layer_eq : (fullEnvironment environment file).layer = (fullEnvironment other file').layer) :
    of machine arguments environment file = of machine arguments other file' := by
  have settings : effectiveSettings machine arguments environment file =
      effectiveSettings machine arguments other file' := by
    simp only [effectiveSettings, Settings.load, arguments_eq, layer_eq]
  simp only [of, settings]

/-- The program once its arguments are read and its settings loaded. -/
theorem of_loaded (machine : Machine) (file : Option String) {read : Arguments}
    {loaded : Settings} (reads : Arguments.read arguments environment = .ok read)
    (loads : Settings.load (machine.settingsFile read.settingsPath)
      (fullEnvironment environment file) = .ok loaded) :
    of machine arguments environment file =
      match (read.override loaded).validate with
      | .ok _ => ⟨some (read.override loaded), endingWith machine (read.override loaded)⟩
      | .error problem => ⟨none, .refused problem⟩ := by
  have settings : effectiveSettings machine arguments environment file =
      ((read.override loaded).validate.mapError .refused).map fun _ => read.override loaded := by
    rw [effectiveSettings, reads]
    change ((Settings.load _ _).mapError _ >>= _) = _
    rw [loads]
    rfl
  rw [of, settings]
  cases (read.override loaded).validate <;> rfl

/-- The filter of the log goes by one variable. -/
theorem shown_congr (same : environment.get? "RUST_LOG" = other.get? "RUST_LOG")
    (entries : List LogEntry) : shown environment entries = shown other entries := by
  simp only [shown, filterIn, same]

end ProgramRun

/-- For every machine, list of arguments, environment and text of an
environment file:

* what the file sets is added to the environment, and variables that are set
  keep their values;
* the program runs, and shows its log, as it does without the file when those
  of the added variables are set that are settings;
* so it runs as it does without the file when all added variables are set, if
  those that stand in for options belong to options that the arguments give,
  and it shows its log so if the file does not set the filter of the log. -/
theorem environment_file_counts_as_settings (machine : Machine) (arguments : List String)
    (environment : Environment) (text : String) :
    let added := EnvironmentFile.added text environment
    let settings := added.filter fun assignment => Environment.isSetting assignment.1
    let run := ProgramRun.of machine arguments environment (some text)
    (EnvironmentFile.apply text environment = environment.extend added ∧
      ∀ assignment ∈ added, environment.get? assignment.1 = none) ∧
    (run = ProgramRun.of machine arguments (environment.extend settings) none ∧
      ProgramRun.shown environment run.log =
        ProgramRun.shown (environment.extend settings) run.log) ∧
    ((∀ given, readArguments ⟨none, []⟩ arguments = .ok given →
        ∀ option name, option.variable? = some name → name ∈ added.map (·.1) →
          given.has option = true) →
      run = ProgramRun.of machine arguments (environment.extend added) none ∧
        ("RUST_LOG" ∉ added.map (·.1) →
          ProgramRun.shown environment run.log =
            ProgramRun.shown (environment.extend added) run.log)) := by
  intro added settings run
  have spec := EnvironmentFile.added_spec text environment
  have layer : (ProgramRun.fullEnvironment environment (some text)).layer =
      (environment.extend added).layer := congrArg Environment.layer spec.1
  have noSetting : ∀ {name : String}, Environment.isSetting name = false →
      (environment.extend settings).get? name = environment.get? name := by
    intro name other
    refine environment.get?_extend_of_not_mem fun among => ?_
    rcases List.mem_map.mp among with ⟨assignment, member, rfl⟩
    exact Bool.false_ne_true (other.symm.trans (List.mem_filter.mp member).2)
  refine ⟨spec, ⟨?_, ?_⟩, fun elsewhere => ⟨?_, fun quiet => ?_⟩⟩
  · refine ProgramRun.of_congr (Arguments.read_congr ?_) ?_
    · intro given _ option name named
      exact Or.inr (noSetting (ValueOption.isSetting_variable named)).symm
    · calc
        _ = (environment.extend added).layer := layer
        _ = environment.layer ++ Environment.layer ⟨added⟩ := environment.layer_extend added
        _ = environment.layer ++ Environment.layer ⟨settings⟩ := by
          rw [Environment.layer_filter]
        _ = (environment.extend settings).layer := (environment.layer_extend settings).symm
  · exact ProgramRun.shown_congr (noSetting (by decide +kernel)).symm _
  · refine ProgramRun.of_congr (Arguments.read_congr ?_) layer
    intro given reads option name named
    by_cases among : name ∈ added.map (·.1)
    · exact Or.inl (elsewhere given reads option name named among)
    · exact Or.inr (environment.get?_extend_of_not_mem among).symm
  · exact ProgramRun.shown_congr (environment.get?_extend_of_not_mem quiet).symm _

/-- A file that sets a port, which the arguments also give, and an address, as a
setting. -/
def portFile : String := "EXPORTER_PORT=9191\nPOWERFLEX_EXPORTER__SERVER__ADDR=127.0.0.1\n"

/-- With the port among the arguments, the file counts as the environment. -/
theorem portFile_counts_beside_port (machine : Machine) :
    let added :=
      [("EXPORTER_PORT", "9191"), ("POWERFLEX_EXPORTER__SERVER__ADDR", "127.0.0.1")]
    EnvironmentFile.added portFile ⟨[]⟩ = added ∧
      ProgramRun.of machine ["--port", "0"] ⟨[]⟩ (some portFile) =
        ProgramRun.of machine ["--port", "0"] ⟨added⟩ none := by
  intro added
  have sets : EnvironmentFile.added portFile ⟨[]⟩ = added := by decide +kernel
  have counts := environment_file_counts_as_settings machine ["--port", "0"] ⟨[]⟩ portFile
  refine ⟨sets, sets ▸ (counts.2.2 ?_).1⟩
  intro given reads option name named among
  cases reads
  rw [sets] at among
  cases option with
  | port => rfl
  | settingsPath => cases named
  | endpoint | username | password | address =>
      cases named
      exact absurd among (by decide)

/-- An environment with settings for the gateway, but no credentials. -/
def gatewayOnly : Environment :=
  ⟨[("POWERFLEX_EXPORTER__POWERFLEX__ENDPOINT", "http://127.0.0.1:1"),
    ("POWERFLEX_EXPORTER__POWERFLEX__USERNAME", ""),
    ("POWERFLEX_EXPORTER__POWERFLEX__PASSWORD", "")]⟩

/-- A file that sets the credentials as options. -/
def credentialsFile : String := "POWERFLEX_USERNAME=admin\nPOWERFLEX_PASSWORD=secret\n"

/-- With its variables set the program would run until it is interrupted, but
with the file it is refused for want of credentials. -/
theorem credentialsFile_unseen :
    let machine : Machine := ⟨fun _ => none, fun _ => .error .permissionDenied, fun _ => .ok ()⟩
    let arguments := ["--addr", "127.0.0.1", "--port", "0"]
    let added := [("POWERFLEX_USERNAME", "admin"), ("POWERFLEX_PASSWORD", "secret")]
    EnvironmentFile.added credentialsFile gatewayOnly = added ∧
      (ProgramRun.of machine arguments gatewayOnly (some credentialsFile)).ending =
        .refused (.missingText "powerflex.username") ∧
      (ProgramRun.of machine arguments (gatewayOnly.extend added) none).ending = .interrupted := by
  intro machine arguments added
  have sets : EnvironmentFile.added credentialsFile gatewayOnly = added := by decide +kernel
  have layer : (gatewayOnly.extend added).layer =
      [("powerflex.endpoint", .text "http://127.0.0.1:1"), ("powerflex.username", .text ""),
       ("powerflex.password", .text "")] := rfl
  have loads : Settings.load none (gatewayOnly.extend added) =
      .ok ⟨⟨"http://127.0.0.1:1", "", "", false, none⟩, .default, .default, .default, .empty⟩ := by
    rw [Settings.load, layer]
    rfl
  have applied : ProgramRun.fullEnvironment gatewayOnly (some credentialsFile) =
      gatewayOnly.extend added :=
    sets ▸ (EnvironmentFile.added_spec credentialsFile gatewayOnly).1
  refine ⟨sets, ?_, ?_⟩
  · have reads : Arguments.read arguments gatewayOnly =
        .ok ⟨Arguments.defaultPath, none, none, none, some 0, some "127.0.0.1"⟩ := rfl
    rw [ProgramRun.of_loaded machine (some credentialsFile) reads (applied ▸ loads)]
    rfl
  · have reads : Arguments.read arguments (gatewayOnly.extend added) =
        .ok ⟨Arguments.defaultPath, none, some "admin", some "secret", some 0,
          some "127.0.0.1"⟩ := rfl
    rw [ProgramRun.of_loaded machine none reads loads]
    rfl

end StorageTelemetry
