import TradeCharts.Command.Flag
import TradeCharts.Settings.File
import TradeCharts.Snapshot
import TradeCharts.Text.Quoted
import TradeCharts.Text.Similarity
/-! What can be wrong with a command line, and the messages for it. -/
namespace TradeCharts

open Text

def quotedList (names : List String) : String :=
  ", ".intercalate (names.map quoted)

inductive ValueError where
  | notInteger (text : String)
  | notChoice (text : String) (choices : List String)
  | noEntry (kind path : String)
  | directory (kind path : String)
  | window (cause : WindowError)
  deriving DecidableEq, Repr

def ValueError.message : ValueError → String
  | notInteger s => s!"{quoted s} is not a valid integer."
  | notChoice s choices => s!"{quoted s} is not one of {quotedList choices}."
  | noEntry kind path => s!"{kind} {quoted path} does not exist."
  | directory kind path => s!"{kind} {quoted path} is a directory."
  | window cause => cause.message

inductive UsageError where
  | noCommand
  | unknownCommand (name : String) (alike : List String)
  | unknownFlag (name : String) (alike : List String)
  | valueMissing (flag : Flag)
  | valueNotTaken (flag : Flag)
  | snapshotMissing
  | extraArguments (first : String) (others : List String)
  | invalidValue (name : String) (cause : ValueError)
  | malformedSettings
  | invalidSettings (issues : Nat)
  | unreadSettings (cause : Failure)
  /-- Only one of base and quote is given. -/
  | halfPair
  deriving DecidableEq, Repr

namespace UsageError

def snapshotName : String := "SNAPSHOT"

/-- A hint at names that are meant, perhaps, in ascending order. -/
def hint (alike : List String) : String :=
  match alike with
  | [] => ""
  | [name] => s!" Did you mean {quoted name}?"
  | names => s!" (Did you mean one of: {quotedList (names.mergeSort (· ≤ ·))}?)"

def message : UsageError → String
  | noCommand => "Missing command."
  | unknownCommand name alike => s!"No such command {quoted name}.{hint alike}"
  | unknownFlag name alike => s!"No such option {quoted name}.{hint alike}"
  | valueMissing flag => s!"Option {quoted flag.name} requires an argument."
  | valueNotTaken flag => s!"Option {quoted flag.name} does not take a value."
  | snapshotMissing => s!"Missing argument {quoted snapshotName}."
  | extraArguments first [] => s!"Got unexpected extra argument ({first})"
  | extraArguments first others =>
    let all := " ".intercalate (first :: others)
    s!"Got unexpected extra arguments ({all})"
  | invalidValue name cause => s!"Invalid value for {quoted name}: {cause.message}"
  | malformedSettings => "Invalid config: not a TOML document"
  | invalidSettings issues =>
    let count := issueCount "PairscopeConfig" issues
    s!"Invalid config: {count}"
  | unreadSettings cause => s!"Invalid config: {cause.message}"
  | halfPair => "--base and --quote must be given together."

end UsageError

inductive CommandError where
  | usage (cause : UsageError)
  | snapshot (path : String) (cause : SnapshotError)
  | noTrades
  | failed (cause : Failure)
  deriving DecidableEq, Repr

end TradeCharts
