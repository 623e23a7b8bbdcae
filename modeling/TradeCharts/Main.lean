import TradeCharts.Command
import Std.Time.DateTime.Timestamp
import Std.Time.Zoned.Database.TZdb
/-! The program: it looks at the files that a command line may name and at the time zones that are
named in them, runs the command line and shows what comes of it. -/
namespace TradeCharts.Program

def openFailure : IO.Error → OpenFailure
  | .noFileOrDirectory .. => .missing
  | .inappropriateType _ code text => .other code.toNat text
  | .permissionDenied _ code text => .other code.toNat text
  | .invalidArgument _ code text => .other code.toNat text
  | .resourceExhausted _ code text => .other code.toNat text
  | .otherError code text => .other code.toNat text
  | e => .other 5 e.toString

/-- What an open file holds; a directory can be opened but not read. -/
def readEntry (handle : IO.FS.Handle) : IO Entry := do
  try
    return .file (← handle.readBinToEnd)
  catch _ => return .directory

def lookAt (path : String) : IO (Except OpenFailure Entry) := do
  if path.toList.contains '\x00' then return .error .nullCharacter
  try
    return .ok (← readEntry (← IO.FS.Handle.mk path .read))
  catch e => return .error (openFailure e)

/-- The paths that a command line may name: every argument, and what stands behind its equals
sign. -/
def mentioned (args : List String) (settingsPath? : Option String) : List String :=
  let raw := args ++ args.filterMap (fun arg => (Arguments.splitValue arg).2) ++
    settingsPath?.toList ++ [SettingsSource.standardPath]
  raw ++ raw.map Path.normalize

/-- How deep values may nest. A recursion limit of 1000 calls leaves about as much to a reader. -/
def depth : Nat := 985

def namedZones (table : List (String × Except OpenFailure Entry)) : List String :=
  table.filterMap fun (_, found) => do
    let .ok (.file bytes) := found | none
    let .ok fields := Settings.fieldsOfBytes depth bytes | none
    Settings.zoneName? (Toml.Value.fieldsToJson fields)

def zoneDirectories : List String :=
  ["/usr/share/zoneinfo", "/usr/lib/zoneinfo", "/usr/share/lib/zoneinfo", "/etc/zoneinfo"]

def zoneOfBytes (name : String) (bytes : ByteArray) : Except ZoneError Zone :=
  match Std.Time.Database.TZdb.parseTZif bytes name with
  | .ok rules => .ok ⟨fun seconds =>
    (rules.timezoneAt (.ofSecondsSinceUnixEpoch (.ofInt seconds))).toSeconds.val⟩
  | .error _ => .error .unknown

/-- What the files of the system say of the name of a time zone. Nothing is looked up under names
that lead elsewhere, and a file may stand there without the permission to read it. -/
def lookUpZone (name : String) : IO (Except ZoneError Zone) := do
  if Path.normalize name != name || Path.root name != "" || (Path.names name).contains ".." then
    return .error .unknown
  for directory in zoneDirectories do
    let path := s!"{directory}/{name}"
    match ← lookAt path with
    | .ok (.file bytes) => return zoneOfBytes name bytes
    | .error (.other 13 text) =>
      return .error (.failed "PermissionError" (OpenFailure.message path (.other 13 text)))
    | _ => pure ()
  return .error .unknown

def run (args : List String) : IO UInt32 := do
  let settingsPath? ← IO.getEnv SettingsSource.variableName
  let table ← (mentioned args settingsPath?).mapM fun path => do return (path, ← lookAt path)
  let files : Files := fun path => (table.lookup path).getD (.error .missing)
  let zoneTable ← (namedZones table).mapM fun name => do return (name, ← lookUpZone name)
  let zones : ZoneDatabase := fun name => (zoneTable.lookup name).getD (.error .unknown)
  let now ← Std.Time.Timestamp.now
  let surroundings : Surroundings :=
    ⟨files, zones, depth, depth, settingsPath?, now.toSecondsSinceUnixEpoch.val⟩
  let result := CommandLine.run surroundings args
  let stderr ← IO.getStderr
  for entry in result.log do
    if result.level.rank ≤ entry.level.rank then stderr.putStrLn entry.line
  IO.print result.outcome.output
  let errorText := result.outcome.errorText (← stderr.isTty)
  unless errorText.isEmpty do stderr.putStrLn errorText
  if let some failure := result.outcome.failure? then stderr.putStrLn failure.message
  return result.outcome.exitCode.toUInt32

end TradeCharts.Program

def main (args : List String) : IO UInt32 :=
  TradeCharts.Program.run args
