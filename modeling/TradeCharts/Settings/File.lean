import TradeCharts.Failure
import TradeCharts.Log
import TradeCharts.Path
import TradeCharts.Settings.Reading
import TradeCharts.Toml.Reader
/-! Settings files: where they are looked for and how they are loaded. -/
namespace TradeCharts

inductive SettingsSource where
  | given (path : String)
  | environment (path : String)
  | standard
  deriving DecidableEq, Repr

namespace SettingsSource

def variableName : String := "PAIRSCOPE_CONFIG"

def standardPath : String := "pairscope.toml"

def path : SettingsSource → String
  | given path | environment path => path
  | standard => standardPath

def text : SettingsSource → String
  | given path => path
  | environment path => s!"{variableName}={path}"
  | standard => standardPath

/-- The source that counts: the path given, the one in the environment, or the standard one unless
nothing stands there. Empty paths do not count. -/
def find? (files : Files) (explicit environment : Option String) : Option SettingsSource :=
  match explicit.filter (· != ""), environment.filter (· != "") with
  | some path, _ => some (.given path)
  | none, some path => some (.environment path)
  | none, none => match files standardPath with
    | .ok _ => some .standard
    | .error cause => if cause.isAbsence then none else some .standard

end SettingsSource

inductive SettingsError where
  | malformed
  | invalid (first : Issue) (others : List Issue)
  | failed (cause : Failure)
  deriving DecidableEq, Repr

namespace Settings

/-- The failure to look up the zone that some fields name. -/
def zoneFailure? (zones : ZoneDatabase) (fields : List (String × Json)) : Option Failure :=
  match (zoneName? fields).map zones.find with
  | some (.error (.failed kind text)) => some (.zoneLookup kind text)
  | _ => none

def fieldsOfBytes (depth : Nat) (bytes : ByteArray) : Except SettingsError Toml.Fields :=
  match bytes.utf8Decode? with
  | none => .error (.failed .invalidText)
  | some cs => match Toml.read depth cs.toList with
    | .ok fields => .ok fields
    | .error .malformed => .error .malformed
    | .error .tooDeep => .error (.failed .nestedTooDeep)
    | .error (.longNumber cause) => .error (.failed (.tooManyDigits cause))

/-- The settings that some fields hold. A zone that cannot be looked up comes before all that is
wrong with the fields. -/
def checked (zones : ZoneDatabase) (fields : List (String × Json)) :
    Except SettingsError Settings :=
  match zoneFailure? zones fields with
  | some cause => .error (.failed cause)
  | none => match ofFields zones fields with
    | .valid settings => .ok settings
    | .invalid first others => .error (.invalid first others)

def ofBytes (depth : Nat) (zones : ZoneDatabase) (bytes : ByteArray) :
    Except SettingsError Settings := do
  checked zones (Toml.Value.fieldsToJson (← fieldsOfBytes depth bytes))

/-- Loads the settings file of a source. Its values may nest up to `depth`. -/
def load (files : Files) (depth : Nat) (zones : ZoneDatabase) (source : SettingsSource) :
    Except SettingsError Settings :=
  let path := Path.normalize source.path
  match files.read path with
  | .ok bytes => ofBytes depth zones bytes
  | .error cause => .error (.failed (.unopened path cause))

/-- What loading reports, also when it fails. -/
def log (source : Option SettingsSource) : List LogEntry :=
  source.toList.map fun s => .settingsLoading s.text

end Settings

end TradeCharts
