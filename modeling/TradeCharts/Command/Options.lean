import TradeCharts.Command.Arguments
import TradeCharts.Gaps
/-! The values of flags. -/
namespace TradeCharts

open Text

inductive Format where
  | json
  | yaml
  deriving DecidableEq, Repr

structure Options where
  logLevel : LogLevel
  settings : Option String
  base : Option String
  quote : Option String
  window : Option Int
  now : Option Int
  flip : Bool
  theme : Option Theme
  start : Option Int
  stop : Option Int
  format : Format
  deriving DecidableEq, Repr

abbrev Choices (α : Type) := List (String × α)

/-- A character as it compares regardless of case. Beyond ASCII only the long s folds into a letter
of the names compared. -/
def foldCase (c : Char) : Char :=
  if c = 'ſ' then 's' else c.toLower

namespace Choices

variable {α : Type}

def exact (choices : Choices α) (s : String) : Except ValueError α :=
  match choices.lookup s with
  | some a => .ok a
  | none => .error (.notChoice s (choices.map (·.1)))

/-- The choice of a name in any case. The names of the choices are in lower case. -/
def anyCase (choices : Choices α) (s : String) : Except ValueError α :=
  match choices.lookup (String.ofList (s.toList.map foldCase)) with
  | some a => .ok a
  | none => .error (.notChoice s (choices.map (·.1)))

end Choices

def Format.choices : Choices Format :=
  [("json", json), ("yaml", yaml)]

def LogLevel.choices : Choices LogLevel :=
  [("debug", debug), ("info", info), ("warning", warning), ("error", error)]

def Theme.choices : Choices Theme :=
  all.map fun theme => (theme.name, theme)

namespace Options

def standard : Options :=
  ⟨.warning, none, none, none, none, none, false, none, none, none, .json⟩

def integer (s : String) : Except ValueError Int :=
  match readInt? s with
  | some n => .ok n
  | none => .error (.notInteger s)

def refuse {α : Type} (name : String) (e : ValueError) : Except CommandError α :=
  .error (.usage (.invalidValue name e))

def orRefuse {α : Type} (name : String) : Except ValueError α → Except CommandError α
  | .ok a => .ok a
  | .error e => refuse name e

/-- What stands at a path that has to exist; `kind` tells what is looked for. -/
def lookUp (files : Files) (name kind path : String) : Except CommandError Entry :=
  match files path with
  | .ok e => .ok e
  | .error .nullCharacter => .error (.failed (.unopened path .nullCharacter))
  | .error _ => refuse name (.noEntry kind path)

def existing (files : Files) (name path : String) : Except CommandError String := do
  let _ ← lookUp files name "Path" path
  return path

def existingFile (files : Files) (name path : String) : Except CommandError String := do
  match ← lookUp files name "File" path with
  | .file _ => return path
  | .directory => refuse name (.directory "File" path)

def set (files : Files) (o : Options) (flag : Flag) (value : String) :
    Except CommandError Options :=
  match flag with
  | .logLevel => do
    return { o with logLevel := ← orRefuse flag.name (LogLevel.choices.anyCase value) }
  | .settings => do
    return { o with settings := some (← existing files flag.name value) }
  | .base => return { o with base := some value }
  | .quote => return { o with quote := some value }
  | .window => do
    let window := (Window.parseText value).mapError .window
    return { o with window := some (← orRefuse flag.name window) }
  | .now => do return { o with now := some (← orRefuse flag.name (integer value)) }
  | .flip => return { o with flip := true }
  | .theme => do return { o with theme := some (← orRefuse flag.name (Theme.choices.exact value)) }
  | .start => do return { o with start := some (← orRefuse flag.name (integer value)) }
  | .stop => do return { o with stop := some (← orRefuse flag.name (integer value)) }
  | .format => do return { o with format := ← orRefuse flag.name (Format.choices.anyCase value) }
  | .help => return o

def ofFlags (files : Files) (flags : List (Flag × String)) : Except CommandError Options :=
  flags.foldlM (fun o (flag, value) => o.set files flag value) standard

/-- The path of the snapshot: the first argument that is no flag. -/
def snapshot (files : Files) (args : List String) : Except CommandError String :=
  match args with
  | [] => .error (.usage .snapshotMissing)
  | path :: _ => existingFile files UsageError.snapshotName path

def refuseExtra : List String → Except CommandError Unit
  | _ :: extra :: others => .error (.usage (.extraArguments extra others))
  | _ => .ok ()

end Options

end TradeCharts
