import TradeCharts.Failure
import TradeCharts.Json.Reader
import TradeCharts.Log
import TradeCharts.Trade.Reading
/-!
Snapshots: files of trades in JSON, either a list of records or an object with such a list under
`trades`. A loaded snapshot is sorted by time, trades of one time in the order of the file.
-/
namespace TradeCharts

inductive SnapshotError where
  | unreadable (cause : OpenFailure)
  | malformed (text : List Char) (fault : Json.Fault)
  | wrongShape
  | invalidTrade (index : Nat) (first : Issue) (others : List Issue)
  deriving DecidableEq, Repr

def issueCount (type : String) (count : Nat) : String :=
  let noun := if count = 1 then "error" else "errors"
  s!"{count} validation {noun} for {type}"

/-- The message for a refused snapshot; of an invalid trade only the number of issues. -/
def SnapshotError.message (path : String) : SnapshotError → String
  | unreadable cause => s!"Cannot read snapshot {path}: {cause.message path}"
  | malformed text fault => s!"Snapshot {path} is not valid JSON: {fault.message text}"
  | wrongShape => s!"Snapshot {path} must be a list of trades or an object with 'trades'"
  | invalidTrade index _ others =>
    let issues := issueCount "Trade" (others.length + 1)
    s!"Invalid trade at index {index} in {path}: {issues}"

inductive LoadError where
  | refused (cause : SnapshotError)
  | failed (cause : Failure)
  deriving DecidableEq, Repr

namespace Snapshot

def universalNewlines : List Char → List Char
  | '\r' :: '\n' :: rest => '\n' :: universalNewlines rest
  | '\r' :: rest => '\n' :: universalNewlines rest
  | c :: rest => c :: universalNewlines rest
  | [] => []

def decode (bytes : ByteArray) : Except LoadError (List Char) :=
  match bytes.utf8Decode? with
  | some cs => .ok (universalNewlines cs.toList)
  | none => .error (.failed .invalidText)

def records : Json → Except LoadError (List Json)
  | .list items => .ok items
  | .object fields => match fields.lookup "trades" with
    | some (.list items) => .ok items
    | _ => .error (.refused .wrongShape)
  | _ => .error (.refused .wrongShape)

/-- The JSON value that a text holds. Its containers may nest up to `depth`, and the digits of its
whole numbers are limited. -/
def parse (depth : Nat) (cs : List Char) : Except LoadError Json :=
  match Json.read ⟨depth, true⟩ cs with
  | .ok v => .ok v
  | .error (.malformed fault) => .error (.refused (.malformed cs fault))
  | .error .tooDeep => .error (.failed .nestedTooDeep)
  | .error (.longNumber cause) => .error (.failed (.tooManyDigits cause))

def trades (records : List Json) : Except LoadError (List Trade) :=
  match Trade.listOfJson records with
  | .ok trades => .ok trades
  | .error (index, first, others) => .error (.refused (.invalidTrade index first others))

/-- Trades in order of time; those of one time keep their order. -/
def sort (trades : List Trade) : List Trade :=
  trades.mergeSort fun t u => t.timestamp ≤ u.timestamp

def bytes (files : Files) (path : String) : Except LoadError ByteArray :=
  match files.read path with
  | .ok bytes => .ok bytes
  | .error .nullCharacter => .error (.failed (.unopened path .nullCharacter))
  | .error cause => .error (.refused (.unreadable cause))

def ofBytes (depth : Nat) (bytes : ByteArray) : Except LoadError (List Trade) := do
  let cs ← decode bytes
  let value ← parse depth cs
  let records ← records value
  return sort (← trades records)

def load (files : Files) (depth : Nat) (path : String) : Except LoadError (List Trade) := do
  ofBytes depth (← bytes files path)

def log (path : String) (trades : List Trade) : List LogEntry :=
  [.snapshotLoaded trades.length path]

end Snapshot

end TradeCharts
