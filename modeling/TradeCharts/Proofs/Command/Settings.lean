import TradeCharts.Proofs.Settings.Loading

/-!
How command lines deal with their settings. A command line goes on with the settings found or is
refused for them before its command is looked at, unless the settings file cannot be judged
(`run_reportsSettings_iff`). A path in the environment is not checked beforehand, so a file that is
missing is already such a case.
-/
namespace TradeCharts

/-- A current directory where no time zone is known, with the limits that an interpreter of a
thousand calls leaves to its readers. -/
def Surroundings.ofDirectory (entries : List (String × Entry)) (settingsPath? : Option String) :
    Surroundings where
  files := .ofDirectory entries
  zones _ := .error .unknown
  snapshotDepth := 985
  settingsDepth := 985
  settingsPath? := settingsPath?
  now := 0

namespace CommandLine

variable {s : Surroundings} {args rest : List String} {options : Options} {verb : Verb}

/-- The settings that hold: those that a source loads, or the standard ones without a source. -/
def Found (s : Surroundings) (source : Option SettingsSource) (found : Settings) : Prop :=
  (source = none ∧ found = .standard) ∨
    ∃ given, source = some given ∧
      Settings.load s.files s.settingsDepth s.zones given = .ok found

/-- What a command line does about settings: it goes on with those that are found, or it ends with a
refusal that says what is wrong with them, and nothing of the command is read or reported. -/
def ReportsSettings (s : Surroundings) (args : List String) (options : Options) (verb : Verb)
    (rest : List String) : Prop :=
  let source := SettingsSource.find? s.files options.settings s.settingsPath?
  (∃ found, Found s source found ∧
      run s args = ⟨(runCommand s found verb rest).1,
        Settings.log source ++ (runCommand s found verb rest).2, options.logLevel⟩) ∨
    ∃ cause reason, UsageError.message cause = "Invalid config: " ++ reason ∧
      run s args = ⟨.refused (.usage cause), Settings.log source, options.logLevel⟩

section Runs

variable {source : Option SettingsSource}
  (hverb : readVerb s.files args = .ok (options, verb, rest))
  (hsource : SettingsSource.find? s.files options.settings s.settingsPath? = source)
include hverb hsource

lemma run_of_settings_ok {found : Settings} (h : settings s source = .ok found) :
    run s args = ⟨(runCommand s found verb rest).1,
      Settings.log source ++ (runCommand s found verb rest).2, options.logLevel⟩ := by
  simp only [run, hverb, hsource, h]

lemma run_of_settings_error {e : CommandError} (h : settings s source = .error e) :
    run s args = ⟨.refused e, Settings.log source, options.logLevel⟩ := by
  simp only [run, hverb, hsource, h]

end Runs

lemma settings_of_no_source
    (h : SettingsSource.find? s.files options.settings s.settingsPath? = none) :
    settings s (SettingsSource.find? s.files options.settings s.settingsPath?) = .ok .standard := by
  rw [h]
  rfl

lemma reportsSettings_of_found {found : Settings}
    (hverb : readVerb s.files args = .ok (options, verb, rest))
    (h : Found s (SettingsSource.find? s.files options.settings s.settingsPath?) found) :
    ReportsSettings s args options verb rest := by
  refine .inl ⟨found, h, run_of_settings_ok hverb rfl ?_⟩
  obtain ⟨hsource, rfl⟩ | ⟨given, hsource, hload⟩ := h
  · rw [hsource]
    rfl
  · rw [hsource, settings, hload]
    rfl

section Given

variable {given : SettingsSource} {e : SettingsError}
  (hverb : readVerb s.files args = .ok (options, verb, rest))
  (hsource : SettingsSource.find? s.files options.settings s.settingsPath? = some given)
  (hload : Settings.load s.files s.settingsDepth s.zones given = .error e)
include hverb hsource hload

lemma reportsSettings_of_error (he : ¬ e.Escapes) : ReportsSettings s args options verb rest := by
  obtain ⟨cause, hconcerns, hcause⟩ := settingsError_of_not_escapes he
  obtain ⟨reason, hmessage⟩ := hconcerns.message_eq
  have hsettings : settings s (some given) = .error (.usage cause) := by
    rw [settings, hload, ← hcause]
    rfl
  refine .inr ⟨cause, reason, hmessage, ?_⟩
  rw [run_of_settings_error hverb hsource hsettings, hsource]

lemma not_reportsSettings_of_escapes (he : e.Escapes) :
    ¬ ReportsSettings s args options verb rest := by
  obtain ⟨failure, hfailure⟩ := settingsError_of_escapes he
  have hsettings : settings s (some given) = .error (.failed failure) := by
    rw [settings, hload, ← hfailure]
    rfl
  rintro (⟨found, ⟨hnone, -⟩ | ⟨given', hgiven, hfound⟩, -⟩ | ⟨cause, reason, -, hrun⟩)
  · rw [hsource] at hnone
    cases hnone
  · rw [hsource] at hgiven
    cases hgiven
    rw [hload] at hfound
    cases hfound
  · rw [run_of_settings_error hverb hsource hsettings] at hrun
    cases hrun

end Given

/-- A command line goes on with its settings or is refused for them exactly when the settings file,
if there is one, can be judged. -/
theorem run_reportsSettings_iff (hverb : readVerb s.files args = .ok (options, verb, rest)) :
    ReportsSettings s args options verb rest ↔
      ∀ given, SettingsSource.find? s.files options.settings s.settingsPath? = some given →
        given.Accessible s := by
  cases hsource : SettingsSource.find? s.files options.settings s.settingsPath? with
  | none => exact iff_of_true (reportsSettings_of_found hverb (.inl ⟨hsource, rfl⟩)) nofun
  | some given =>
    simp only [Option.some.injEq, forall_eq', ← Settings.judged_load_iff]
    cases hload : Settings.load s.files s.settingsDepth s.zones given with
    | ok found =>
      exact iff_of_true (reportsSettings_of_found hverb (.inr ⟨given, hsource, hload⟩))
        (Settings.judged_ok found)
    | error e =>
      by_cases he : e.Escapes
      · exact iff_of_false (not_reportsSettings_of_escapes hverb hsource hload he)
          fun h => Settings.judged_error_iff.1 h he
      · exact iff_of_true (reportsSettings_of_error hverb hsource hload he)
          (Settings.judged_error_iff.2 he)

/-- A settings file with a known time zone and an unknown theme, named in the environment. -/
def gloomySurroundings : Surroundings :=
  let text := "[chart]\ntimezone = \"Asia/Tokyo\"\ncolor_theme = \"gloomy\"\n"
  { Surroundings.ofDirectory [("c.toml", .file text.toUTF8)] (some "c.toml") with
    zones := fun name => if name = "Asia/Tokyo" then .ok (.fixed 32400) else .error .unknown }

lemma eq_error_of_map {ε α β : Type} {r : Except ε α} {f : α → β} {e : ε}
    (h : r.map f = .error e) : r = .error e := by
  cases r with
  | ok a => cases h
  | error e' =>
    cases h
    rfl

/-- The theme is reported, so the file can be judged. -/
theorem gloomy_reportsSettings :
    readVerb gloomySurroundings.files ["pairs", "t.json"] = .ok (.standard, .pairs, ["t.json"]) ∧
      (run gloomySurroundings ["pairs", "t.json"]).outcome =
        .refused (.usage (.invalidSettings 1)) ∧
      SettingsSource.Accessible gloomySurroundings (.environment "c.toml") := by
  have hverb : readVerb gloomySurroundings.files ["pairs", "t.json"] =
      .ok (.standard, .pairs, ["t.json"]) := by decide +kernel
  have hload : Settings.load gloomySurroundings.files 985 gloomySurroundings.zones
      (.environment "c.toml") = .error (.invalid
        ⟨["chart", "color_theme"], .rejected (Theme.unknownMessage "gloomy")⟩ []) :=
    eq_error_of_map (f := fun _ => ()) (by decide +kernel)
  exact ⟨hverb, by decide +kernel,
    (run_reportsSettings_iff hverb).1 (reportsSettings_of_error hverb rfl hload id) _ rfl⟩

/-- A settings file that is named in the environment and missing. -/
def missingSurroundings : Surroundings :=
  .ofDirectory [("t.json", .file "[]".toUTF8)] (some "missing.toml")

/-- The missing file ends the program with the failure of the system. -/
theorem missing_settings_not_reported :
    readVerb missingSurroundings.files ["pairs", "t.json"] = .ok (.standard, .pairs, ["t.json"]) ∧
      (run missingSurroundings ["pairs", "t.json"]).outcome =
        .refused (.failed (.unopened "missing.toml" .missing)) ∧
      ¬ ReportsSettings missingSurroundings ["pairs", "t.json"] .standard .pairs ["t.json"] := by
  have hverb : readVerb missingSurroundings.files ["pairs", "t.json"] =
      .ok (.standard, .pairs, ["t.json"]) := by decide +kernel
  have hload : Settings.load missingSurroundings.files 985 missingSurroundings.zones
      (.environment "missing.toml") = .error (.failed (.unopened "missing.toml" .missing)) :=
    eq_error_of_map (f := fun _ => ()) (by decide +kernel)
  exact ⟨hverb, by decide +kernel, not_reportsSettings_of_escapes hverb rfl hload nofun⟩

end CommandLine

end TradeCharts
