/-
The arguments of the command: options that hold for every task, a word that names the task, and
the options of the task. Arguments either come to an invocation as a whole or to a reason to stop.
-/
import Investigations.Build
import Investigations.Suggestion.Basic

namespace Investigations.Command

open Files

/-! ## Options -/

/-- The tasks of the command. -/
inductive Task where
  | path
  | suggestions
  | record
  | stats
deriving DecidableEq, Repr

/-- The word that names a task. -/
def Task.word : Task → String
  | .path => "path"
  | .suggestions => "show"
  | .record => "record"
  | .stats => "stats"

/-- The task that a word names. -/
def Task.ofWord? (word : String) : Option Task :=
  [Task.path, .suggestions, .record, .stats].find? fun task => task.word = word

/-- The options of the command. -/
inductive Switch where
  | config
  | serverUuid
  | dataDirectory
  | artifactsDirectory
  | create
  | test
  | buildId
  | investigator
  | reason
  | verbose
  | help
  | version
deriving DecidableEq, Repr

namespace Switch

/-- The name of an option after two dashes. -/
def longName : Switch → String
  | .config => "config"
  | .serverUuid => "server-uuid"
  | .dataDirectory => "data-dir"
  | .artifactsDirectory => "artifacts-dir"
  | .create => "create"
  | .test => "test"
  | .buildId => "build-id"
  | .investigator => "investigator"
  | .reason => "reason"
  | .verbose => "verbose"
  | .help => "help"
  | .version => "version"

/-- The letter of an option after one dash. -/
def letter? : Switch → Option Char
  | .verbose => some 'v'
  | .help => some 'h'
  | .version => some 'V'
  | _ => none

/-- The option has a value. -/
def takesValue : Switch → Bool
  | .create | .verbose | .help | .version => false
  | _ => true

/-- The options that may stand before the task, or among those of a task. -/
def allowed : Option Task → List Switch
  | none => [.config, .serverUuid, .dataDirectory, .verbose, .help, .version]
  | some task =>
    [.config, .serverUuid, .dataDirectory, .verbose, .help] ++
      match task with
      | .path => [.artifactsDirectory, .create]
      | .suggestions => [.artifactsDirectory, .test]
      | .record => [.artifactsDirectory, .buildId, .test, .investigator, .reason]
      | .stats => []

end Switch

/-- The number of 64 bits that a text spells. A plus may stand before it, and zeros. -/
def word64? (text : String) : Option UInt64 :=
  let digits :=
    match text.toList with
    | '+' :: rest => rest
    | all => all
  if digits ≠ [] ∧ digits.all Char.isDigit then
    let n := Nat.ofDigitChars 10 digits 0
    if n < UInt64.size then some (UInt64.ofNat n) else none
  else none

/-- The option can have this value. -/
def Switch.accepts (value : String) : Switch → Bool
  | .config | .dataDirectory | .artifactsDirectory => value ≠ ""
  | .buildId => (word64? value).isSome
  | _ => true

/-! ## Reading arguments -/

/-- Why there is no invocation. -/
inductive Stop where
  /-- The arguments are not understood. -/
  | refused
  /-- Help was asked for. -/
  | help
  /-- The version was asked for. -/
  | version
deriving DecidableEq, Repr

/-- What an argument looks like. -/
inductive Shape where
  /-- Two dashes alone: no options after this. -/
  | endOfOptions
  /-- An option by name, with the value after an equals sign. -/
  | long (name : String) (attached : Option String)
  /-- Options by letter. -/
  | short (letters : List Char)
  | word
deriving DecidableEq, Repr

/-- What an argument looks like. A dash alone is a word. -/
def Shape.ofArgument (argument : String) : Shape :=
  match argument.toList with
  | ['-', '-'] => .endOfOptions
  | '-' :: '-' :: rest =>
    match Lines.cut? '=' rest with
    | some (name, value) => .long (String.ofList name) (some (String.ofList value))
    | none => .long (String.ofList rest) none
  | '-' :: letter :: letters => .short (letter :: letters)
  | _ => .word

/-- The options given so far with their values; those without one have the empty text. -/
abbrev Given := List (Switch × String)

/-- One more option. None is given twice. -/
def give (given : Given) (switch : Switch) (value : String) : Except Stop Given :=
  if given.any (·.1 = switch) || !switch.accepts value then .error .refused
  else .ok (given ++ [(switch, value)])

/-- One more option without a value. Help and version end the reading. -/
def raise (given : Given) : Switch → Except Stop Given
  | .help => .error .help
  | .version => .error .version
  | switch => give given switch ""

/-- Options by letter, one after the other. -/
def raiseLetters (task : Option Task) (given : Given) (letters : List Char) : Except Stop Given :=
  letters.foldlM (fun given letter =>
    match (Switch.allowed task).find? fun switch => switch.letter? = some letter with
    | some switch => raise given switch
    | none => .error .refused) given

/-- The options up to the first word that is not the value of one, and the arguments from that
word on. -/
def readOptions (task : Option Task) : List String → Given → Except Stop (Given × List String)
  | [], given => .ok (given, [])
  | argument :: rest, given =>
    match Shape.ofArgument argument with
    | .word => .ok (given, argument :: rest)
    | .endOfOptions => if rest = [] then .ok (given, []) else .error .refused
    | .short letters =>
      match raiseLetters task given letters with
      | .ok given => readOptions task rest given
      | .error stop => .error stop
    | .long name attached =>
      match (Switch.allowed task).find? fun switch => switch.longName = name with
      | none => .error .refused
      | some switch =>
        if switch.takesValue then
          match attached, rest with
          | some value, rest =>
            match give given switch value with
            | .ok given => readOptions task rest given
            | .error stop => .error stop
          | none, [] => .error .refused
          | none, value :: rest =>
            if Shape.ofArgument value = .word then
              match give given switch value with
              | .ok given => readOptions task rest given
              | .error stop => .error stop
            else .error .refused
        else if attached.isSome then .error .refused
        else
          match raise given switch with
          | .ok given => readOptions task rest given
          | .error stop => .error stop

/-! ## Invocations -/

/-- Where the configuration comes from. What is given here goes before the file. -/
structure Settings where
  configFile : Option Path
  serverUuid : Option String
  dataDirectory : Option Path
deriving DecidableEq, Repr

/-- What is to be done. -/
inductive Action where
  /-- Print the path of the suggestions file of a build, making its directory if told so. -/
  | path (build : Build) (create : Bool)
  /-- Print the suggestions of a build, or the one for a test. -/
  | suggestions (build : Build) (testNameId : Option String)
  /-- Add a suggestion to a build. -/
  | record (build : Build) (suggestion : Suggestion)
  /-- Print the statistics report. -/
  | stats
deriving DecidableEq, Repr

/-- An invocation of the command. -/
structure Invocation where
  settings : Settings
  verbose : Bool
  action : Action
deriving DecidableEq, Repr

/-- The value of an option. -/
def Given.value? (given : Given) (switch : Switch) : Option String :=
  given.lookup switch

/-- The option is given. -/
def Given.has (given : Given) (switch : Switch) : Bool :=
  (given.lookup switch).isSome

/-- The action of a task with its options, if none is missing. -/
def Action.ofGiven? (task : Task) (given : Given) : Option Action := do
  match task with
  | .path =>
    let artifacts ← given.value? .artifactsDirectory
    return .path ⟨0, ⟨artifacts⟩⟩ (given.has .create)
  | .suggestions =>
    let artifacts ← given.value? .artifactsDirectory
    return .suggestions ⟨0, ⟨artifacts⟩⟩ (given.value? .test)
  | .record =>
    let artifacts ← given.value? .artifactsDirectory
    let buildId := ((given.value? .buildId).bind word64?).getD 0
    let test ← given.value? .test
    let investigator ← given.value? .investigator
    let reason ← given.value? .reason
    return .record ⟨buildId, ⟨artifacts⟩⟩ ⟨test, investigator, reason⟩
  | .stats => return .stats

/-- Help can be had on these words after `help`: on nothing in particular, on a task, or on help
itself. -/
def isHelpTopic : List String → Bool
  | [] => true
  | [word] => word = "help" || (Task.ofWord? word).isSome
  | _ => false

/-- The invocation that arguments come to. An option that stands both before and after the task
counts as it stands after it. -/
def parse (arguments : List String) : Except Stop Invocation := do
  let (general, rest) ← readOptions none arguments []
  match rest with
  | [] => .error .refused
  | word :: rest =>
    match Task.ofWord? word with
    | none =>
      if word = "help" ∧ isHelpTopic rest then .error .help else .error .refused
    | some task =>
      let (special, rest) ← readOptions (some task) rest []
      let given : Given := special ++ general
      match rest, Action.ofGiven? task given with
      | [], some action =>
        return {
          settings := {
            configFile := (given.value? .config).map Files.Path.mk
            serverUuid := given.value? .serverUuid
            dataDirectory := (given.value? .dataDirectory).map Files.Path.mk }
          verbose := given.has .verbose
          action }
      | _, _ => .error .refused

end Investigations.Command
