import Mathlib.Tactic.Common
import TradeCharts.Command
import TradeCharts.Proofs.Toml.Nesting

/-!
How settings files end. Whatever is wrong with what a file says is held against the settings. Three
things are not, and end the program instead: a file that the system does not open, values nested
beyond the limit, and a time zone that the database fails to look up.
-/
namespace TradeCharts

/-- A name under which the database has a zone or knows none. -/
def ZoneDatabase.Settles (zones : ZoneDatabase) (name : String) : Prop :=
  ∀ kind text, zones.find name ≠ .error (.failed kind text)

/-- A failure that is not held against the settings. -/
def SettingsError.Escapes : SettingsError → Prop
  | .failed .nestedTooDeep => True
  | .failed (.zoneLookup _ _) => True
  | .failed (.unopened _ cause) => cause ≠ .nullCharacter
  | _ => False

/-- What is wrong with settings. -/
def UsageError.ConcernsSettings : UsageError → Prop
  | malformedSettings | invalidSettings _ | unreadSettings _ => True
  | _ => False

theorem UsageError.ConcernsSettings.message_eq {cause : UsageError} (h : cause.ConcernsSettings) :
    ∃ reason, cause.message = "Invalid config: " ++ reason := by
  cases cause with
  | malformedSettings => exact ⟨"not a TOML document", rfl⟩
  | invalidSettings issues => exact ⟨_, rfl⟩
  | unreadSettings cause => exact ⟨_, rfl⟩
  | _ => exact h.elim

lemma settingsError_of_not_escapes {e : SettingsError} (h : ¬ e.Escapes) :
    ∃ cause : UsageError, cause.ConcernsSettings ∧ CommandLine.settingsError e = .usage cause := by
  cases e with
  | malformed => exact ⟨.malformedSettings, trivial, rfl⟩
  | invalid first others => exact ⟨.invalidSettings _, trivial, rfl⟩
  | failed cause =>
    cases cause with
    | nestedTooDeep => exact absurd trivial h
    | zoneLookup kind text => exact absurd trivial h
    | unopened path cause =>
      obtain rfl : cause = .nullCharacter := not_not.1 h
      exact ⟨.unreadSettings _, trivial, rfl⟩
    | _ => exact ⟨.unreadSettings _, trivial, rfl⟩

lemma settingsError_of_escapes {e : SettingsError} (h : e.Escapes) :
    ∃ cause, CommandLine.settingsError e = .failed cause := by
  cases e with
  | failed cause =>
    cases cause with
    | nestedTooDeep => exact ⟨_, rfl⟩
    | zoneLookup kind text => exact ⟨_, rfl⟩
    | unopened path cause =>
      cases cause with
      | nullCharacter => exact absurd rfl h
      | _ => exact ⟨_, rfl⟩
    | _ => exact h.elim
  | _ => exact h.elim

/-- Settings that load, or that are refused for what is wrong with them. -/
def Settings.Judged (r : Except SettingsError Settings) : Prop :=
  ∀ e, r = .error e → ¬ e.Escapes

/-- A settings file that can be judged: the system opens it, its text stays within the limit on
nesting, and the time zone that it names can be looked up. A path with a null character is judged
without looking for a file. -/
structure SettingsSource.Accessible (s : Surroundings) (source : SettingsSource) : Prop where
  opens : ∀ cause, s.files.read (Path.normalize source.path) = .error cause →
    cause = .nullCharacter
  shallow : ∀ cs, s.files.read (Path.normalize source.path) = .ok (List.utf8Encode cs) →
    ¬ Toml.Exceeds s.settingsDepth cs
  zone : ∀ cs fields name, s.files.read (Path.normalize source.path) = .ok (List.utf8Encode cs) →
    Toml.read s.settingsDepth cs = .ok fields →
      Settings.zoneName? (Toml.Value.fieldsToJson fields) = some name → s.zones.Settles name

namespace Settings

lemma judged_ok (settings : Settings) : Judged (.ok settings) :=
  nofun

lemma judged_error_iff {e : SettingsError} : Judged (.error e) ↔ ¬ e.Escapes := by
  constructor
  · intro h
    exact h e rfl
  · rintro h _ ⟨⟩
    exact h

variable (zones : ZoneDatabase) (depth : Nat)

lemma judged_ofFields (fields : List (String × Json)) :
    Judged (match ofFields zones fields with
      | .valid settings => .ok settings
      | .invalid first others => .error (.invalid first others)) := by
  cases ofFields zones fields with
  | valid settings => exact judged_ok settings
  | invalid first others => exact judged_error_iff.2 id

lemma judged_checked_iff (fields : List (String × Json)) :
    Judged (checked zones fields) ↔ ∀ name, zoneName? fields = some name → zones.Settles name := by
  unfold checked zoneFailure?
  cases hname : zoneName? fields with
  | none => exact iff_of_true (judged_ofFields zones fields) nofun
  | some name =>
    simp only [Option.map_some, Option.some.injEq, forall_eq', ZoneDatabase.Settles]
    cases hfind : zones.find name with
    | ok zone => exact iff_of_true (judged_ofFields zones fields) nofun
    | error e =>
      cases e with
      | unknown => exact iff_of_true (judged_ofFields zones fields) nofun
      | failed kind text =>
        exact iff_of_false (fun h => judged_error_iff.1 h trivial) fun h => h kind text rfl

/-- The text of a document, judged. -/
lemma judged_ofBytes_utf8Encode_iff (cs : List Char) :
    Judged (ofBytes depth zones (List.utf8Encode cs)) ↔ ¬ Toml.Exceeds depth cs ∧
      ∀ fields name, Toml.read depth cs = .ok fields →
        zoneName? (Toml.Value.fieldsToJson fields) = some name → zones.Settles name := by
  rw [← Toml.read_eq_tooDeep_iff]
  unfold ofBytes fieldsOfBytes
  rw [List.utf8Decode?_utf8Encode]
  dsimp only
  cases hread : Toml.read depth cs with
  | error e =>
    cases e with
    | malformed => exact iff_of_true (judged_error_iff.2 id) ⟨nofun, nofun⟩
    | tooDeep => exact iff_of_false (fun h => judged_error_iff.1 h trivial) fun h => h.1 rfl
    | longNumber cause => exact iff_of_true (judged_error_iff.2 id) ⟨nofun, nofun⟩
  | ok fields =>
    refine (judged_checked_iff zones _).trans ⟨fun h => ⟨nofun, ?_⟩, fun h name => h.2 _ name rfl⟩
    rintro _ name ⟨⟩
    exact h name

lemma judged_ofBytes_of_not_text {bytes : ByteArray} (h : ∀ cs, bytes ≠ List.utf8Encode cs) :
    Judged (ofBytes depth zones bytes) := by
  unfold ofBytes fieldsOfBytes
  cases hdecode : bytes.utf8Decode? with
  | none => exact judged_error_iff.2 id
  | some text =>
    obtain ⟨cs, hcs⟩ := ByteArray.isSome_utf8Decode?_iff.1 (Option.isSome_of_eq_some hdecode)
    exact absurd hcs (h cs)

/-- Exactly the accessible settings files are judged. -/
theorem judged_load_iff (s : Surroundings) (source : SettingsSource) :
    Judged (load s.files s.settingsDepth s.zones source) ↔ source.Accessible s := by
  unfold load
  dsimp only
  constructor
  · intro h
    constructor
    case opens =>
      intro cause hread
      rw [hread] at h
      exact not_not.1 (judged_error_iff.1 h)
    case shallow =>
      intro cs hread
      rw [hread] at h
      exact ((judged_ofBytes_utf8Encode_iff s.zones s.settingsDepth cs).1 h).1
    case zone =>
      intro cs fields name hread
      rw [hread] at h
      exact ((judged_ofBytes_utf8Encode_iff s.zones s.settingsDepth cs).1 h).2 fields name
  · intro h
    cases hread : s.files.read (Path.normalize source.path) with
    | error cause => exact judged_error_iff.2 (not_not.2 (h.opens cause hread))
    | ok bytes =>
      by_cases htext : ∃ cs, bytes = List.utf8Encode cs
      · obtain ⟨cs, rfl⟩ := htext
        exact (judged_ofBytes_utf8Encode_iff s.zones s.settingsDepth cs).2
          ⟨h.shallow cs hread, fun fields name => h.zone cs fields name hread⟩
      · exact judged_ofBytes_of_not_text _ _ fun cs hcs => htext ⟨cs, hcs⟩

end Settings

end TradeCharts
