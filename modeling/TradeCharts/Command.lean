import TradeCharts.Command.Report
import TradeCharts.Document.JsonText
import TradeCharts.Document.YamlText
import TradeCharts.Text.ControlSequence
/-!
The command line as a whole: flags of the program, a command, its flags and a snapshot. The settings
are loaded before the arguments of the command are looked at.
-/
namespace TradeCharts

/-- What surrounds a command line. Besides the files, the time zones, the path in the environment
and the present time these are two limits of the interpreter, on how deep snapshots and settings
may nest. -/
structure Surroundings where
  files : Files
  zones : ZoneDatabase
  snapshotDepth : Nat
  settingsDepth : Nat
  settingsPath? : Option String
  now : Int

inductive Outcome where
  | shown (text : String)
  /-- The help page, asked for or because nothing was asked. -/
  | help (asked : Bool)
  | refused (cause : CommandError)
  deriving DecidableEq, Repr

structure Command where
  action : Action
  format : Format
  snapshot : String
  deriving DecidableEq, Repr

def Format.render (d : Document) : Format → Except CommandError String
  | json => d.toJsonText.mapError fun cause => .failed (.tooManyDigits cause)
  | yaml => d.toYamlText.mapError fun cause => .failed (.tooManyDigits cause)

namespace CommandLine

abbrev Step (α : Type) := Except Outcome α

def orRefused {α : Type} (e : Except CommandError α) : Step α :=
  e.mapError .refused

/-- The flags given to the program or to a command, and the other arguments. A flag that asks for
help comes before the values of others. -/
def read (files : Files) (known : List Flag) (mixed : Bool) (args : List String) :
    Step (Options × List String) := do
  let given ← orRefused ((Arguments.split known mixed args).mapError .usage)
  if given.gives .help then .error (.help true)
  let options ← orRefused (Options.ofFlags files given.effective)
  return (options, given.rest)

/-- The options of the program, the command, and the arguments of the command. What stands in place
of a command is read as flags of the program once more before it is refused. -/
def readVerb (files : Files) (args : List String) : Step (Options × Verb × List String) := do
  if args.isEmpty then .error (.help false)
  let (options, rest) ← read files Flag.global false args
  match rest with
  | [] => .error (.refused (.usage .noCommand))
  | name :: args => match Verb.ofName? name with
    | some verb => return (options, verb, args)
    | none =>
      let _ ← read files Flag.global false rest
      let alike := Text.closeNames name (Verb.all.map Verb.name)
      .error (.refused (.usage (.unknownCommand name alike)))

def readCommand (files : Files) (verb : Verb) (args : List String) : Step Command := do
  let (options, rest) ← read files verb.flags true args
  let snapshot ← orRefused (Options.snapshot files rest)
  orRefused (Options.refuseExtra rest)
  return ⟨verb.action options, options.format, snapshot⟩

/-- The refusal of settings that are not loaded. Files that the system does not open, documents
nested too deep and zones that cannot be looked up are failures and no fault of the settings. -/
def settingsError : SettingsError → CommandError
  | .malformed => .usage .malformedSettings
  | .invalid _ others => .usage (.invalidSettings (others.length + 1))
  | .failed .nestedTooDeep => .failed .nestedTooDeep
  | .failed (.zoneLookup kind text) => .failed (.zoneLookup kind text)
  | .failed (.unopened path .nullCharacter) =>
    .usage (.unreadSettings (.unopened path .nullCharacter))
  | .failed (.unopened path cause) => .failed (.unopened path cause)
  | .failed cause => .usage (.unreadSettings cause)

def settings (s : Surroundings) : Option SettingsSource → Except CommandError Settings
  | none => .ok .standard
  | some source => (Settings.load s.files s.settingsDepth s.zones source).mapError settingsError

def trades (s : Surroundings) (path : String) : Except CommandError (List Trade) :=
  let path := Path.normalize path
  (Snapshot.load s.files s.snapshotDepth path).mapError fun
    | .refused cause => .snapshot path cause
    | .failed cause => .failed cause

end CommandLine

namespace Command

open CommandLine

def text (c : Command) (s : Surroundings) (settings : Settings) : Except CommandError String := do
  let trades ← trades s c.snapshot
  c.format.render (← c.action.document ⟨settings, s.now, trades⟩)

def log (c : Command) (s : Surroundings) (settings : Settings) : List LogEntry :=
  match trades s c.snapshot with
  | .ok trades =>
    Snapshot.log (Path.normalize c.snapshot) trades ++ c.action.log ⟨settings, s.now, trades⟩
  | .error _ => []

end Command

structure Run where
  outcome : Outcome
  log : List LogEntry
  level : LogLevel
  deriving DecidableEq, Repr

namespace CommandLine

def runCommand (s : Surroundings) (settings : Settings) (verb : Verb) (args : List String) :
    Outcome × List LogEntry :=
  match readCommand s.files verb args with
  | .error outcome => (outcome, [])
  | .ok c =>
    (match c.text s settings with
      | .ok text => .shown text
      | .error e => .refused e, c.log s settings)

def run (s : Surroundings) (args : List String) : Run :=
  match readVerb s.files args with
  | .error outcome => ⟨outcome, [], .warning⟩
  | .ok (options, verb, rest) =>
    let source := SettingsSource.find? s.files options.settings s.settingsPath?
    let loading := Settings.log source
    match settings s source with
    | .error e => ⟨.refused e, loading, options.logLevel⟩
    | .ok settings =>
      let (outcome, log) := runCommand s settings verb rest
      ⟨outcome, loading ++ log, options.logLevel⟩

end CommandLine

namespace Outcome

open Text

/-- The exit code: 2 for a command line that is refused, 1 for a command that fails. -/
def exitCode : Outcome → Nat
  | shown _ | help true => 0
  | help false | refused (.usage _) => 2
  | refused _ => 1

def output : Outcome → String
  | shown text => text
  | _ => ""

def message : Outcome → String
  | refused (.usage cause) => s!"Error: {cause.message}"
  | refused (.snapshot path cause) => s!"Failed to load snapshot: {cause.message path}"
  | refused .noTrades => "Snapshot contains no trades."
  | _ => ""

/-- What goes to standard error. Control sequences are for terminals alone. -/
def errorText (toTerminal : Bool) (o : Outcome) : String :=
  if toTerminal then o.message
  else String.ofList (ControlSequence.dropAll o.message.toList)

def failure? : Outcome → Option Failure
  | refused (.failed cause) => some cause
  | _ => none

end Outcome

end TradeCharts
