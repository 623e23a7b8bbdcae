import TradeCharts.Proofs.Command.Outcome
import TradeCharts.Proofs.Command.PairChoice
import TradeCharts.Proofs.Snapshot.Records

/-!
The default pair in the commands. It is the first pair listed, and a chart that names no pair is the
chart of the addresses listed there; exchanging base and quote by a flag is the same as giving the
addresses the other way round (`default_pair_agrees`).
-/
namespace TradeCharts

namespace Arguments

lemma map_withFlag_eq_ok {r : Except UsageError Arguments} {flag : Flag} {value : String}
    {flags : List (Flag × String)} {rest : List String}
    (h : r.map (withFlag flag value) = .ok ⟨flags, rest⟩) :
    ∃ flags', r = .ok ⟨flags', rest⟩ ∧ flags = (flag, value) :: flags' := by
  cases r with
  | error e => cases h
  | ok a =>
    cases h
    exact ⟨a.flags, rfl, rfl⟩

/-- Flags of the program, with nothing left behind them, may be followed by a command. -/
lemma splitAfter_append {known : List Flag} {tail : List String}
    (htail : splitAfter known false none tail = .ok ⟨[], tail⟩) {waiting : Option Flag}
    {front : List String} {flags : List (Flag × String)}
    (h : splitAfter known false waiting front = .ok ⟨flags, []⟩) :
    splitAfter known false waiting (front ++ tail) = .ok ⟨flags, tail⟩ := by
  fun_induction splitAfter known false waiting front generalizing flags with
  | case1 =>
    cases h
    exact htail
  | case2 flag => cases h
  | case3 flag value rest ih =>
    obtain ⟨flags', hrest, rfl⟩ := map_withFlag_eq_ok h
    rw [List.cons_append, splitAfter, ih hrest]
    rfl
  | case4 arg rest hdashes =>
    cases h
    simp [splitAfter, hdashes]
  | case5 => cases h
  | case6 arg rest hdashes hflag name flag hfind value htakes hsplit ih =>
    obtain ⟨flags', hrest, rfl⟩ := map_withFlag_eq_ok h
    simp [splitAfter, hdashes, hflag, hsplit, hfind, htakes, ih hrest, Except.map, withFlag]
  | case7 arg rest hdashes hflag name flag hfind htakes hsplit ih =>
    simp [splitAfter, hdashes, hflag, hsplit, hfind, htakes, ih h]
  | case8 => cases h
  | case9 arg rest hdashes hflag name flag hfind htakes hsplit ih =>
    obtain ⟨flags', hrest, rfl⟩ := map_withFlag_eq_ok h
    simp [splitAfter, hdashes, hflag, hsplit, hfind, htakes, ih hrest, Except.map, withFlag]
  | case10 arg rest hdashes hflag hmixed => cases hmixed
  | case11 => cases h

lemma split_verb (known : List Flag) (verb : Verb) (args : List String) :
    split known false (verb.name :: args) = .ok ⟨[], verb.name :: args⟩ := by
  have hdashes : (verb.name == "--") = false := by cases verb <;> decide +kernel
  have hflag : isFlag verb.name = false := by cases verb <;> decide +kernel
  simp [split, splitAfter, hdashes, hflag]

lemma split_append_verb {known : List Flag} {front : List String} {flags : List (Flag × String)}
    (h : split known false front = .ok ⟨flags, []⟩) (verb : Verb) (args : List String) :
    split known false (front ++ verb.name :: args) = .ok ⟨flags, verb.name :: args⟩ :=
  splitAfter_append (split_verb known verb args) h

end Arguments

namespace CommandLine

variable {files : Files} {front : List String} {flags : List (Flag × String)}

/-- What flags of the program in front of a command say does not depend on the command. -/
lemma readVerb_front (hfront : Arguments.split Flag.global false front = .ok ⟨flags, []⟩)
    (files : Files) (verb : Verb) :
    ∃ r : Step Options, ∀ args,
      readVerb files (front ++ verb.name :: args) = r.map fun options => (options, verb, args) := by
  have hname : Verb.ofName? verb.name = some verb := by cases verb <;> decide +kernel
  let a : Arguments := ⟨flags, []⟩
  refine ⟨if a.gives .help then .error (.help true)
    else orRefused (Options.ofFlags files a.effective), fun args => ?_⟩
  have hsplit := Arguments.split_append_verb hfront verb args
  have hne : (front ++ verb.name :: args).isEmpty = false := by simp
  rw [readVerb, hne]
  change (read files Flag.global false _ >>= _) = _
  rw [read_of_split hsplit]
  change ((if a.gives .help then _
    else (orRefused (Options.ofFlags files a.effective)).map _) >>= _) = _
  split_ifs
  · rfl
  · cases Options.ofFlags files a.effective with
    | error e => rfl
    | ok options =>
      simp only [orRefused, Except.mapError, Except.map, bind, Except.bind, hname]
      rfl

/-- Arguments that a command cannot tell apart make the same run. -/
lemma run_congr {s : Surroundings}
    (hfront : Arguments.split Flag.global false front = .ok ⟨flags, []⟩) (verb : Verb)
    {args args' : List String}
    (h : ∀ settings, runCommand s settings verb args = runCommand s settings verb args') :
    run s (front ++ verb.name :: args) = run s (front ++ verb.name :: args') := by
  obtain ⟨r, hverb⟩ := readVerb_front hfront s.files verb
  rw [run, run, hverb, hverb]
  cases r with
  | error e => rfl
  | ok options =>
    simp only [Except.map, h]

lemma existingFile_eq_ok {name path found : String}
    (h : Options.existingFile files name path = .ok found) : found = path := by
  obtain ⟨entry, -, hentry⟩ := Snapshot.bind_eq_ok h
  cases entry with
  | file bytes =>
    cases hentry
    rfl
  | directory => cases hentry

lemma split_of_read {known : List Flag} {mixed : Bool} {args rest : List String} {o : Options}
    (h : read files known mixed args = .ok (o, rest)) :
    ∃ a, Arguments.split known mixed args = .ok a ∧ a.rest = rest := by
  cases hsplit : Arguments.split known mixed args with
  | error e =>
    rw [read, hsplit] at h
    cases h
  | ok a =>
    rw [read_of_split hsplit] at h
    split_ifs at h
    cases hflags : Options.ofFlags files a.effective with
    | error e =>
      rw [hflags] at h
      cases h
    | ok o =>
      rw [hflags] at h
      cases h
      exact ⟨a, rfl, rfl⟩

/-- Whether the arguments that are no flags are refused does not depend on the flags. -/
lemma readCommand_of_read (files : Files) (path : String) (others : List String) :
    ∃ check : Step Unit, ∀ {verb : Verb} {args : List String} {o : Options},
      read files verb.flags true args = .ok (o, path :: others) →
      readCommand files verb args = check.map fun _ => ⟨verb.action o, o.format, path⟩ := by
  cases hfile : Options.existingFile files UsageError.snapshotName path with
  | error e =>
    refine ⟨.error (.refused e), fun {verb args o} hread => ?_⟩
    rw [readCommand, hread]
    change (orRefused (Options.existingFile files UsageError.snapshotName path) >>= _) = _
    rw [hfile]
    rfl
  | ok found =>
    obtain rfl := existingFile_eq_ok hfile
    refine ⟨orRefused (Options.refuseExtra (found :: others)), fun {verb args o} hread => ?_⟩
    rw [readCommand, hread]
    change (orRefused (Options.existingFile files UsageError.snapshotName found) >>= _) = _
    rw [hfile]
    cases others <;> rfl

lemma text_of_trades {s : Surroundings} {path : String} {ts : List Trade}
    (h : trades s path = .ok ts) (a : Action) (format : Format) (settings : Settings) :
    Command.text ⟨a, format, path⟩ s settings =
      a.document ⟨settings, s.now, ts⟩ >>= format.render := by
  rw [Command.text, h]
  rfl

end CommandLine

lemma Action.view_congr {c : Context} {base quote base' quote' : Option String} {flip flip' : Bool}
    (h : Report.addresses base quote flip c.trades =
      Report.addresses base' quote' flip' c.trades) (window now : Option Int) :
    view c base quote window now flip = view c base' quote' window now flip' := by
  rw [view, h, view]

namespace PairChoice

def action (c : PairChoice) (window now : Option Int) : Action :=
  .chart (c.addresses.map (·.1)) (c.addresses.map (·.2)) window now c.flip

def addressesOn (c : PairChoice) (trades : List Trade) : Except CommandError (String × String) :=
  Report.addresses (c.addresses.map (·.1)) (c.addresses.map (·.2)) c.flip trades

/-- Whether arguments of a chart name a snapshot and leave the choice of the pair open. -/
structure OpenOn (path : String) (args : List String) : Prop where
  isOpen : Open args
  path : ∀ a, Arguments.split Verb.chart.flags true args = .ok a → a.rest.head? = some path

lemma addressesOn_given (base quote : String) (flip : Bool) (ts : List Trade) :
    addressesOn ⟨some (base, quote), flip⟩ ts =
      addressesOn ⟨some (if flip then (quote, base) else (base, quote)), false⟩ ts := by
  cases flip <;> rfl

lemma addressesOn_default {ts : List Trade} {p : Pair} (h : defaultPair? ts = some p)
    (flip : Bool) : addressesOn ⟨none, flip⟩ ts =
      addressesOn ⟨some (p.base.address, p.quote.address), flip⟩ ts := by
  simp only [addressesOn, Report.addresses, Option.map_none, Option.map_some, h]
  cases flip <;> rfl

end PairChoice

namespace CommandLine

variable {s : Surroundings} {path : String} {args : List String} {ts : List Trade}

/-- Arguments that leave the choice of the pair open are refused whatever it is, or make a chart
that differs in the pair alone. -/
lemma readCommand_choice (files : Files) (h : PairChoice.OpenOn path args) :
    (∃ outcome, ∀ c : PairChoice,
      readCommand files .chart (Arguments.write c.flags ++ args) = .error outcome) ∨
    ∃ window now format, ∀ c : PairChoice,
      readCommand files .chart (Arguments.write c.flags ++ args) =
        .ok ⟨c.action window now, format, path⟩ := by
  have hread (c : PairChoice) := c.read_choice files h.isOpen
  cases hargs : read files Verb.chart.flags true args with
  | error outcome =>
    refine .inl ⟨outcome, fun c => ?_⟩
    rw [readCommand, hread, hargs]
    rfl
  | ok found =>
    obtain ⟨o, rest⟩ := found
    obtain ⟨a, ha, rfl⟩ := split_of_read hargs
    obtain ⟨others, hrest⟩ := List.head?_eq_some_iff.1 (h.path a ha)
    rw [hargs, hrest] at hread
    obtain ⟨check, hcheck⟩ := readCommand_of_read files path others
    cases check with
    | error outcome => exact .inl ⟨outcome, fun c => hcheck (hread c)⟩
    | ok _ => exact .inr ⟨o.window, o.now, o.format, fun c => hcheck (hread c)⟩

/-- Choices that stand for the same addresses make the same chart. -/
theorem runCommand_choice_congr (h : PairChoice.OpenOn path args)
    (hload : trades s path = .ok ts) {c c' : PairChoice}
    (haddresses : c.addressesOn ts = c'.addressesOn ts) (settings : Settings) :
    runCommand s settings .chart (Arguments.write c.flags ++ args) =
      runCommand s settings .chart (Arguments.write c'.flags ++ args) := by
  rcases readCommand_choice s.files h with ⟨outcome, hread⟩ | ⟨window, now, format, hread⟩
  · rw [runCommand, runCommand, hread, hread]
  · have hview := Action.view_congr (c := ⟨settings, s.now, ts⟩) haddresses window now
    have hdocument : (c.action window now).document ⟨settings, s.now, ts⟩ =
        (c'.action window now).document ⟨settings, s.now, ts⟩ := by
      simp only [PairChoice.action, Action.document, hview]
    have htext : Command.text ⟨c.action window now, format, path⟩ s settings =
        Command.text ⟨c'.action window now, format, path⟩ s settings := by
      rw [text_of_trades hload, text_of_trades hload, hdocument]
    have hlog : Command.log ⟨c.action window now, format, path⟩ s settings =
        Command.log ⟨c'.action window now, format, path⟩ s settings := by
      simp only [Command.log, hload, PairChoice.action, Action.log, hview]
    rw [runCommand, runCommand, hread, hread]
    simp only [htext, hlog]

end CommandLine

namespace Document

def field? (name : String) : Document → Option Document
  | record fields => fields.lookup name
  | _ => none

def item? (place : Int) : Document → Option Document
  | list items => if place < 0 then none else items[place.toNat]?
  | _ => none

def addresses? (p : Document) : Option (String × String) := do
  let .text base ← (← p.field? "base").field? "address" | none
  let .text quote ← (← p.field? "quote").field? "address" | none
  return (base, quote)

/-- The addresses of the pair that a list of pairs has at its default place. -/
def defaultAddresses? (d : Document) : Option (String × String) := do
  let .integer place ← d.field? "default_index" | none
  (← (← d.field? "pairs").item? place).addresses?

end Document

lemma Pair.addresses?_toDocument (p : Pair) :
    p.toDocument.addresses? = some (p.base.address, p.quote.address) := rfl

namespace Report

variable {ts : List Trade}

lemma default_index_of_ascending (h : ts.Pairwise fun t u => t.timestamp ≤ u.timestamp) :
    (pairs ts).field? "default_index" = some (.integer (if ts = [] then -1 else 0)) := by
  change some (Document.ofPlace ((defaultPair? ts).bind (·.indexIn? (tradedPairs ts)))) = _
  rw [indexIn?_default_of_ascending h]
  cases ts <;> rfl

lemma defaultAddresses?_of_ascending (h : ts.Pairwise fun t u => t.timestamp ≤ u.timestamp)
    (p : Pair) (hp : defaultPair? ts = some p) :
    (pairs ts).defaultAddresses? = some (p.base.address, p.quote.address) := by
  have hne : ts ≠ [] := by
    rintro rfl
    cases hp
  have hhead := hp
  rw [defaultPair?_of_ascending h] at hhead
  have hitem :
      (Document.list ((tradedPairs ts).map Pair.toDocument)).item? 0 = some p.toDocument := by
    rw [List.head?_eq_getElem?] at hhead
    rw [Document.item?, if_neg (by decide)]
    change ((tradedPairs ts).map Pair.toDocument)[0]? = _
    rw [List.getElem?_map, hhead]
    rfl
  rw [Document.defaultAddresses?, default_index_of_ascending h, if_neg hne]
  change (Document.item? 0 (.list ((tradedPairs ts).map Pair.toDocument)) >>= _) = _
  rw [hitem]
  exact p.addresses?_toDocument

end Report

namespace CommandLine

/-- The commands on a snapshot agree on its default pair. The flags in front of a chart and its
other arguments may be any that the program takes; runs agree in their outcomes and in their
reports. -/
structure AgreeOnDefault (s : Surroundings) (path : String) (ts : List Trade) : Prop where
  pairs {args rest options format configured}
    (hverb : readVerb s.files args = .ok (options, .pairs, rest))
    (hsettings : settings s (SettingsSource.find? s.files options.settings s.settingsPath?) =
      .ok configured)
    (hcommand : readCommand s.files .pairs rest = .ok ⟨.pairs, format, path⟩) :
    ∃ text, format.render (Report.pairs ts) = .ok text ∧ (run s args).outcome = .shown text
  index : (Report.pairs ts).field? "default_index" = some (.integer (if ts = [] then -1 else 0))
  chart (hne : ts ≠ []) : ∃ base quote, (Report.pairs ts).defaultAddresses? = some (base, quote) ∧
    ∀ {front flags args}, Arguments.split Flag.global false front = .ok ⟨flags, []⟩ →
      PairChoice.OpenOn path args →
      run s (front ++ "chart" :: args) =
        run s (front ++ "chart" :: "--base" :: base :: "--quote" :: quote :: args) ∧
      run s (front ++ "chart" :: "--flip" :: args) =
        run s (front ++ "chart" :: "--base" :: quote :: "--quote" :: base :: args)
  flip {front flags args} (hfront : Arguments.split Flag.global false front = .ok ⟨flags, []⟩)
    (hargs : PairChoice.OpenOn path args) (base quote : String) :
    run s (front ++ "chart" :: "--flip" :: "--base" :: base :: "--quote" :: quote :: args) =
      run s (front ++ "chart" :: "--base" :: quote :: "--quote" :: base :: args)

/-- On a snapshot that is loaded, the pairs command and all spellings of a chart agree on the
default pair. -/
theorem default_pair_agrees {s : Surroundings} {path : String} {ts : List Trade}
    (hload : trades s path = .ok ts) : AgreeOnDefault s path ts := by
  have hloaded := loaded_of_trades hload
  have hcongr {front flags args}
      (hfront : Arguments.split Flag.global false front = .ok ⟨flags, []⟩)
      (hargs : PairChoice.OpenOn path args) {c c' : PairChoice}
      (h : c.addressesOn ts = c'.addressesOn ts) :
      run s (front ++ "chart" :: (Arguments.write c.flags ++ args)) =
        run s (front ++ "chart" :: (Arguments.write c'.flags ++ args)) :=
    run_congr hfront .chart (runCommand_choice_congr hargs hload h)
  refine ⟨?_, Report.default_index_of_ascending hloaded.ascending, ?_, ?_⟩
  · intro args rest options format configured hverb hsettings hcommand
    have htext : Command.text ⟨.pairs, format, path⟩ s configured =
        format.render (Report.pairs ts) :=
      text_of_trades hload .pairs format configured
    obtain ⟨text, hrender⟩ := format.render_of_fits (Report.fits_pairs hloaded.ascending)
    refine ⟨text, hrender, ?_⟩
    rw [hrender] at htext
    simp only [run, hverb, hsettings, runCommand, hcommand, htext]
  · intro hne
    have hsome : ∃ p, defaultPair? ts = some p := by
      cases ts with
      | nil => exact absurd rfl hne
      | cons t ts => exact ⟨_, rfl⟩
    obtain ⟨p, hp⟩ := hsome
    refine ⟨p.base.address, p.quote.address,
      Report.defaultAddresses?_of_ascending hloaded.ascending p hp, ?_⟩
    intro front flags args hfront hargs
    have hplain := PairChoice.addressesOn_default hp false
    have hflip := (PairChoice.addressesOn_default hp true).trans
      (PairChoice.addressesOn_given p.base.address p.quote.address true ts)
    exact ⟨hcongr hfront hargs hplain, hcongr hfront hargs hflip⟩
  · intro front flags args hfront hargs base quote
    exact hcongr hfront hargs (PairChoice.addressesOn_given base quote true ts)

def evenText : List Char :=
  "[".toList ++ Snapshot.recordText "20" "b" "A" ++ ",".toList ++
    Snapshot.recordText "20" "c" "d" ++ "]".toList

/-- A current directory with a snapshot of two trades of one moment. -/
def evenSurroundings : Surroundings :=
  .ofDirectory [("even.json", .file (String.ofList evenText).toUTF8)] none

def evenTrades : List Trade :=
  [.ofAddresses 20 "b" "A", .ofAddresses 20 "c" "d"]

set_option maxRecDepth 10000 in
lemma fileHolds_even : Snapshot.FileHolds evenSurroundings.files 985 "even.json"
    [Snapshot.record (.integer 20) "b" "A", Snapshot.record (.integer 20) "c" "d"] :=
  ⟨_, _, _, rfl, Snapshot.decode_toUTF8 _, rfl, .list⟩

lemma trades_even : trades evenSurroundings "even.json" = .ok evenTrades := by
  have hnormal : Path.normalize "even.json" = "even.json" := by decide +kernel
  have hsort : Snapshot.sort evenTrades = evenTrades := List.mergeSort_of_pairwise (by decide)
  have hread : Snapshot.trades [Snapshot.record (.integer 20) "b" "A",
      Snapshot.record (.integer 20) "c" "d"] = .ok evenTrades := rfl
  rw [trades, hnormal]
  change (Snapshot.load evenSurroundings.files 985 "even.json").mapError _ = _
  rw [fileHolds_even.load_eq, hread]
  change Except.mapError _ (.ok (Snapshot.sort evenTrades)) = _
  rw [hsort]
  rfl

/-- The first record has the default pair, with the smaller key as its base. -/
theorem default_pair_agrees_even :
    trades evenSurroundings "even.json" = .ok evenTrades ∧
    (Report.pairs evenTrades).defaultAddresses? = some ("A", "b") ∧
    (∃ text, (run evenSurroundings ["pairs", "even.json"]).outcome = .shown text) ∧
    run evenSurroundings ["chart", "even.json"] =
      run evenSurroundings ["chart", "--base", "A", "--quote", "b", "even.json"] ∧
    run evenSurroundings ["chart", "--flip", "even.json"] =
      run evenSurroundings ["chart", "--base", "b", "--quote", "A", "even.json"] := by
  have hagree := default_pair_agrees trades_even
  have haddresses : (Report.pairs evenTrades).defaultAddresses? = some ("A", "b") := by
    decide +kernel
  have hverb : readVerb evenSurroundings.files ["pairs", "even.json"] =
      .ok (.standard, .pairs, ["even.json"]) := by decide +kernel
  have hsource : SettingsSource.find? evenSurroundings.files Options.standard.settings
      evenSurroundings.settingsPath? = none := by decide +kernel
  have hcommand : readCommand evenSurroundings.files .pairs ["even.json"] =
      .ok ⟨.pairs, .json, "even.json"⟩ := by decide +kernel
  obtain ⟨text, -, hshown⟩ := hagree.pairs hverb (settings_of_no_source hsource) hcommand
  have hfront : Arguments.split Flag.global false [] = .ok ⟨[], []⟩ := rfl
  have hsplit : Arguments.split Verb.chart.flags true ["even.json"] = .ok ⟨[], ["even.json"]⟩ := by
    decide +kernel
  have hargs : PairChoice.OpenOn "even.json" ["even.json"] := by
    constructor
    · intro a ha
      rw [hsplit] at ha
      cases ha
      decide
    · intro a ha
      rw [hsplit] at ha
      cases ha
      rfl
  obtain ⟨base, quote, hlisted, hcharts⟩ := hagree.chart (by decide)
  rw [haddresses] at hlisted
  cases hlisted
  have hruns := hcharts hfront hargs
  simp only [List.nil_append] at hruns
  exact ⟨trades_even, haddresses, ⟨text, hshown⟩, hruns⟩

end CommandLine

end TradeCharts
