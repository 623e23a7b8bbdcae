import TradeCharts.Path
import TradeCharts.Text.Quoted
/-! Files as the library sees them: a way to look a path up. -/
namespace TradeCharts

inductive OpenFailure where
  | missing
  | notDirectory
  | isDirectory
  | nameTooLong
  /-- The path holds a null character, which no path can. -/
  | nullCharacter
  | other (number : Nat) (text : String)
  deriving DecidableEq, Repr

namespace OpenFailure

/-- The system's number and text for a failure. -/
def details : OpenFailure → Nat × String
  | missing => (2, "No such file or directory")
  | notDirectory => (20, "Not a directory")
  | isDirectory => (21, "Is a directory")
  | nullCharacter => (22, "Invalid argument")
  | nameTooLong => (36, "File name too long")
  | other number text => (number, text)

def message (path : String) (f : OpenFailure) : String :=
  s!"[Errno {f.details.1}] {f.details.2}: {Text.quoted path}"

/-- The numbers of failures that tell that nothing stands at a path: no entry, a bad descriptor, no
directory on the way, and links that lead in a circle. -/
def absenceNumbers : List Nat := [2, 9, 20, 40]

def isAbsence (f : OpenFailure) : Bool :=
  f == nullCharacter || absenceNumbers.contains f.details.1

end OpenFailure

inductive Entry where
  | file (bytes : ByteArray)
  | directory

/-- The files within reach: for each path its entry, or why it has none. -/
abbrev Files := String → Except OpenFailure Entry

namespace Files

/-- The longest name of an entry, in bytes. -/
def nameLimit : Nat := 255

def pathLimit : Nat := 4095

def read (files : Files) (path : String) : Except OpenFailure ByteArray :=
  match files path with
  | .ok (.file bytes) => .ok bytes
  | .ok .directory => .error .isDirectory
  | .error e => .error e

def isRelative (name : String) : Bool :=
  name == "" || name == "." || name == ".."

/-- Walks the names of a path from a directory that holds `entries`, among them only empty
directories. `inside` tells which of these the walk is in. Nothing is known above the directory it
starts from. -/
def walk (entries : List (String × Entry)) (inside : Option String) :
    List String → Except OpenFailure Entry
  | [] => .ok .directory
  | name :: rest =>
    if name == "" || name == "." then walk entries inside rest
    else if nameLimit < name.utf8ByteSize then .error .nameTooLong
    else match inside, entries.lookup name with
      | some _, _ => if name == ".." then walk entries none rest else .error .missing
      | none, some .directory => walk entries (some name) rest
      | none, some (.file bytes) => if rest.isEmpty then .ok (.file bytes) else .error .notDirectory
      | none, none =>
        if name == ".." && rest.all isRelative then .ok .directory else .error .missing

def ofDirectory (entries : List (String × Entry)) : Files := fun path =>
  if path.toList.contains '\x00' then .error .nullCharacter
  else if pathLimit < path.utf8ByteSize then .error .nameTooLong
  else if path == "" || Path.root path != "" then .error .missing
  else walk entries none (Path.names path)

end Files

end TradeCharts
