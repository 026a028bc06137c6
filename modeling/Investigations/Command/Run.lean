/-
What the command does: the configuration is put together, the task is carried out on the files,
and what came of it is printed.
-/
import Investigations.Command.Arguments
import Investigations.Config
import Investigations.Suggestion.Artifact

namespace Investigations.Command

open Files Json

/-! ## Failures -/

/-- Why a task was not carried out. -/
inductive Failure where
  /-- Neither a configuration file nor an identity is given. -/
  | noIdentity
  /-- Statistics are asked for, and there is no place for them. -/
  | noDataDirectory
  /-- The configuration can not be loaded. -/
  | loading (path : Path) (cause : Error)
  /-- A suggestion can not be added. -/
  | recording (buildId : UInt64) (cause : Error)
  /-- Statistics can not be saved. -/
  | saving (cause : Error)
  | plain (cause : Error)
deriving DecidableEq, Repr

/-- The wording of a failure: what was being done, and what went wrong. -/
def Failure.message : Failure → String
  | .noIdentity => "either --config or --server-uuid is required"
  | .noDataDirectory => "no plugin data directory; pass --data-dir or set plugin_data_dir"
  | .loading path cause => "failed to load config " ++ path.text ++ ": " ++ cause.message
  | .recording buildId cause =>
    "failed to record suggestion for build " ++ toString buildId.toNat ++ ": " ++ cause.message
  | .saving cause => "failed to save statistics: " ++ cause.message
  | .plain cause => cause.message

/-! ## Settings -/

/-- The configuration with what the settings put in its place. -/
def Settings.override (settings : Settings) (config : Config) : Config :=
  { config with
    serverUuid := settings.serverUuid.getD config.serverUuid
    dataDirectory := settings.dataDirectory <|> config.dataDirectory }

/-- The configuration that settings give. -/
def Settings.config (settings : Settings) (disk : Disk) : Except Failure Config :=
  match settings.configFile, settings.serverUuid with
  | some path, _ =>
    match Config.load disk path with
    | .ok config => .ok (settings.override config)
    | .error cause => .error (.loading path cause)
  | none, some uuid => .ok (settings.override { serverUuid := uuid })
  | none, none => .error .noIdentity

/-- The reporter for a configuration, with what making it logs. Without a data directory, nothing
is kept. -/
def openReporter (config : Config) (disk : Disk) : Except Error Reporter × List Event :=
  match config.dataDirectory with
  | some directory => Reporter.new (.ofDataDirectory directory) config.statisticsEnabled disk
  | none => (.ok .inMemory, [])

/-! ## Tasks -/

/-- A JSON value as it is printed, one line for each item. -/
def printed (value : Value) : String := value.pretty ++ "\n"

/-- A path, or nothing, as JSON. -/
def pathToJson (path : Option Path) : Value :=
  .ofFields [("path", (path.map fun path => Value.ofText path.text).getD .null)]

/-- What a task gives: the text to be printed or a failure, the files it leaves, and the events it
logs. -/
structure Performed where
  answer : Except Failure String
  disk : Disk
  events : List Event

/-- Prints the path of the suggestions file of a build. -/
def performPath (build : Build) (create : Bool) (disk : Disk) : Performed :=
  if create then
    let resolved := build.resolve disk
    match resolved.answer with
    | .ok path => ⟨.ok (printed (pathToJson (some path))), resolved.disk, resolved.events⟩
    | .error cause => ⟨.error (.plain cause), resolved.disk, resolved.events⟩
  else
    let (path, events) := build.find disk
    ⟨.ok (printed (pathToJson path)), disk, events⟩

/-- Prints all suggestions of a build. -/
def performSuggestions (config : Config) (build : Build) (disk : Disk) : Performed :=
  match build.find disk with
  | (none, events) => ⟨.ok (printed (.array [])), disk, events⟩
  | (some path, events) =>
    match SuggestionStore.read disk config.serverIdentity path with
    | .error cause => ⟨.error (.plain cause), disk, events⟩
    | .ok reading =>
      ⟨.ok (printed (.array (reading.suggestions.map Suggestion.toJson))), disk,
        events ++ reading.events path config.serverIdentity⟩

/-- Prints the suggestion of a build for a test. -/
def performSuggestion (config : Config) (build : Build) (testNameId : String) (disk : Disk) :
    Performed :=
  let (found, events) := build.findSuggestion config.serverIdentity testNameId disk
  ⟨.ok (printed ((found.map Suggestion.toJson).getD .null)), disk, events⟩

/-- Adds a suggestion to a build, then saves the statistics. -/
def performRecord (config : Config) (build : Build) (suggestion : Suggestion) (disk : Disk) :
    Performed :=
  match openReporter config disk with
  | (.error cause, events) => ⟨.error (.plain cause), disk, events⟩
  | (.ok reporter, events) =>
    let (added, reporter) := build.append config.serverIdentity [suggestion] reporter disk
    let events := events ++ added.events
    match added.answer with
    | .error cause => ⟨.error (.recording build.id cause), added.disk, events⟩
    | .ok outcome =>
      let saved := (reporter.save added.disk).1
      let events := events ++ saved.events
      match saved.answer with
      | .error cause => ⟨.error (.saving cause), saved.disk, events⟩
      | .ok () => ⟨.ok (printed outcome.toJson), saved.disk, events⟩

/-- Prints the statistics report. -/
def performStats (config : Config) (disk : Disk) : Performed :=
  if config.dataDirectory.isNone then ⟨.error .noDataDirectory, disk, []⟩
  else
    match openReporter config disk with
    | (.error cause, events) => ⟨.error (.plain cause), disk, events⟩
    | (.ok reporter, events) => ⟨.ok reporter.statistics.report, disk, events⟩

/-- Carries out a task that needs the configuration. -/
def withConfig (settings : Settings) (disk : Disk) (task : Config → Performed) : Performed :=
  match settings.config disk with
  | .ok config => task config
  | .error failure => ⟨.error failure, disk, []⟩

/-- Carries out an invocation. -/
def perform (invocation : Invocation) (disk : Disk) : Performed :=
  match invocation.action with
  | .path build create => performPath build create disk
  | .suggestions build none =>
    withConfig invocation.settings disk fun config => performSuggestions config build disk
  | .suggestions build (some testNameId) =>
    withConfig invocation.settings disk fun config =>
      performSuggestion config build testNameId disk
  | .record build suggestion =>
    withConfig invocation.settings disk fun config => performRecord config build suggestion disk
  | .stats => withConfig invocation.settings disk fun config => performStats config disk

/-! ## The command -/

/-- What a run of the command comes to. -/
structure Report where
  exitCode : UInt8
  /-- The text on standard output. -/
  printed : String := ""
  /-- The line on standard error, after a failure. -/
  complaint : Option String := none
  disk : Disk
  events : List Event := []

/-- The version of the command, as it is printed. -/
def versionLine : String := "iaa 0.1.0\n"

/-- How the command is used. -/
def usage : String :=
  "Usage: iaa [--config FILE] [--server-uuid UUID] [--data-dir DIR] [--verbose] TASK\n\n" ++
    "Tasks:\n" ++
    "  path --artifacts-dir DIR [--create]\n" ++
    "  show --artifacts-dir DIR [--test ID]\n" ++
    "  record --artifacts-dir DIR [--build-id N] --test ID --investigator ID --reason TEXT\n" ++
    "  stats\n"

/-- The files that an invocation may read or write, as far as the configuration on the disk tells.
Besides the directories on the way to them, nothing else on the disk counts. -/
def Invocation.files (invocation : Invocation) (disk : Disk) : List Path :=
  let suggestions :=
    match invocation.action with
    | .path build _ | .suggestions build _ | .record build _ => [build.suggestionsFile]
    | .stats => []
  let statistics :=
    match invocation.settings.config disk with
    | .ok config => config.dataDirectory.toList.map fun directory =>
        (StatisticsStore.ofDataDirectory directory).path
    | .error _ => []
  invocation.settings.configFile.toList ++ suggestions ++ statistics

/-- Runs an invocation. -/
def Invocation.run (invocation : Invocation) (disk : Disk) : Report :=
  let performed := perform invocation disk
  match performed.answer with
  | .ok text =>
    { exitCode := 0, printed := text, disk := performed.disk, events := performed.events }
  | .error failure =>
    { exitCode := 1, complaint := some ("error: " ++ failure.message), disk := performed.disk,
      events := performed.events }

/-- What the command comes to without an invocation. -/
def Stop.report (disk : Disk) : Stop → Report
  | .refused => { exitCode := 2, disk }
  | .help => { exitCode := 0, printed := usage, disk }
  | .version => { exitCode := 0, printed := versionLine, disk }

/-- Runs the command with its arguments. -/
def run (arguments : List String) (disk : Disk) : Report :=
  match parse arguments with
  | .ok invocation => invocation.run disk
  | .error stop => stop.report disk

end Investigations.Command
