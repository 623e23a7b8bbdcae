import Mathlib.Data.List.Basic
import TradeCharts.Command

/-!
What a command line says of the pair of a chart. The flags on the pair are never refused and have no
influence on other flags, so putting them in front of other arguments changes the choice of the pair
and nothing else (`read_choice`).
-/
namespace TradeCharts

namespace Arguments

def withFlags (flags : List (Flag × String)) (a : Arguments) : Arguments :=
  { a with flags := flags ++ a.flags }

/-- Flags as they stand on a command line. -/
def write (flags : List (Flag × String)) : List String :=
  flags.flatMap fun (flag, value) => if flag.takesValue then [flag.name, value] else [flag.name]

lemma isFlag_name (flag : Flag) : isFlag flag.name = true := by
  cases flag <;> decide +kernel

lemma splitValue_name (flag : Flag) : splitValue flag.name = (flag.name, none) := by
  cases flag <;> decide +kernel

lemma name_ne_dashes (flag : Flag) : (flag.name == "--") = false := by
  cases flag <;> decide +kernel

variable {known : List Flag} {mixed : Bool} {flag : Flag} {a : Arguments}

lemma split_value (hfind : known.find? (·.name == flag.name) = some flag)
    (htakes : flag.takesValue = true) (value : String) (args : List String) :
    split known mixed (flag.name :: value :: args) =
      (split known mixed args).map (withFlag flag value) := by
  simp [split, splitAfter, isFlag_name, splitValue_name, name_ne_dashes, hfind, htakes]

lemma split_bare (hfind : known.find? (·.name == flag.name) = some flag)
    (htakes : flag.takesValue = false) (args : List String) :
    split known mixed (flag.name :: args) = (split known mixed args).map (withFlag flag "") := by
  simp [split, splitAfter, isFlag_name, splitValue_name, name_ne_dashes, hfind, htakes]

/-- Flags that a command knows are read back as they were written. -/
theorem split_write {flags : List (Flag × String)}
    (hknown : ∀ f ∈ flags, known.find? (·.name == f.1.name) = some f.1)
    (hbare : ∀ f ∈ flags, f.1.takesValue = false → f.2 = "") (args : List String) :
    split known mixed (write flags ++ args) = (split known mixed args).map (withFlags flags) := by
  induction flags with
  | nil =>
    change split known mixed args = _
    cases split known mixed args <;> rfl
  | cons f flags ih =>
    obtain ⟨flag, value⟩ := f
    obtain ⟨hfind, hknown'⟩ := List.forall_mem_cons.1 hknown
    obtain ⟨hvalue, hbare'⟩ := List.forall_mem_cons.1 hbare
    have hwrite : write ((flag, value) :: flags) ++ args =
        (if flag.takesValue then [flag.name, value] else [flag.name]) ++ (write flags ++ args) := by
      simp [write]
    rw [hwrite]
    split_ifs with htakes
    · refine (split_value hfind htakes value _).trans ?_
      change (split known mixed (write flags ++ args)).map _ = _
      rw [ih hknown' hbare']
      cases split known mixed args <;> rfl
    · refine (split_bare hfind (by simpa using htakes) _).trans ?_
      change (split known mixed (write flags ++ args)).map _ = _
      rw [ih hknown' hbare', show value = "" from hvalue (by simpa using htakes)]
      cases split known mixed args <;> rfl

lemma gives_eq_false_iff : a.gives flag = false ↔ ∀ f ∈ a.flags, f.1 ≠ flag := by
  simp [gives, List.any_eq_false]

lemma ne_of_mem_effective (h : a.gives flag = false) {f : Flag × String} (hf : f ∈ a.effective) :
    f.1 ≠ flag := by
  obtain ⟨other, hother, hvalue⟩ := List.mem_filterMap.1 hf
  obtain ⟨value, -, rfl⟩ := Option.map_eq_some_iff.1 hvalue
  obtain ⟨g, hg, rfl⟩ := List.mem_map.1 (List.mem_eraseDups.1 hother)
  exact gives_eq_false_iff.1 h g hg

/-- A flag that is given once, in front of all others, is also the first to be set. -/
lemma effective_withFlag (h : a.gives flag = false) (value : String) :
    (a.withFlag flag value).effective = (flag, value) :: a.effective := by
  have hne := gives_eq_false_iff.1 h
  have hothers : (a.flags.map (·.1)).filter (fun other => !other == flag) = a.flags.map (·.1) := by
    refine List.filter_eq_self.2 (List.forall_mem_map.2 fun f hf => ?_)
    simpa using hne f hf
  have hlast : ((flag, value) :: a.flags).reverse.lookup flag = some value := by
    have hnone : a.flags.reverse.lookup flag = none := by
      refine List.lookup_eq_none_iff.2 fun f hf => ?_
      simpa using (hne f (List.mem_reverse.1 hf)).symm
    simp [List.lookup_append, hnone]
  have hlookup : ∀ other ∈ (a.flags.map (·.1)).eraseDups,
      ((flag, value) :: a.flags).reverse.lookup other = a.flags.reverse.lookup other := by
    intro other hother
    obtain ⟨f, hf, rfl⟩ := List.mem_map.1 (List.mem_eraseDups.1 hother)
    have hfalse : (f.1 == flag) = false := by simpa using hne f hf
    simp [List.lookup_append, List.lookup_cons, hfalse]
  unfold effective withFlag
  simp only [List.map_cons, List.eraseDups_cons, hothers, List.filterMap_cons, hlast,
    Option.map_some]
  refine congrArg _ (List.filterMap_congr fun other hother => ?_)
  rw [hlookup other hother]

theorem effective_withFlags {flags : List (Flag × String)} (hnodup : (flags.map (·.1)).Nodup)
    (h : ∀ f ∈ flags, a.gives f.1 = false) :
    (a.withFlags flags).effective = flags ++ a.effective := by
  induction flags with
  | nil => rfl
  | cons f flags ih =>
    obtain ⟨hf, hflags⟩ := List.forall_mem_cons.1 h
    obtain ⟨hnew, hnodup⟩ := List.nodup_cons.1 hnodup
    have hgives : (a.withFlags flags).gives f.1 = false := by
      refine gives_eq_false_iff.2 (List.forall_mem_append.2 ⟨fun g hg heq => ?_, ?_⟩)
      · exact hnew (List.mem_map.2 ⟨g, hg, heq⟩)
      · exact gives_eq_false_iff.1 hf
    exact (effective_withFlag hgives f.2).trans (congrArg _ (ih hnodup hflags))

end Arguments

/-- What a command line says of the pair of a chart: its addresses, if it gives them, and whether
base and quote are to be exchanged. -/
structure PairChoice where
  addresses : Option (String × String)
  flip : Bool
  deriving DecidableEq, Repr

namespace PairChoice

def known : List Flag := [.base, .quote, .flip]

def flags (c : PairChoice) : List (Flag × String) :=
  (if c.flip then [(.flip, "")] else []) ++
    match c.addresses with
    | some (base, quote) => [(.base, base), (.quote, quote)]
    | none => []

def apply (c : PairChoice) (o : Options) : Options :=
  { o with base := c.addresses.map (·.1), quote := c.addresses.map (·.2), flip := c.flip }

/-- Whether arguments of a chart leave the choice of the pair open. -/
def Open (args : List String) : Prop :=
  ∀ a, Arguments.split Verb.chart.flags true args = .ok a → ∀ flag ∈ known, a.gives flag = false

variable (c : PairChoice)

lemma fst_mem_known : ∀ f ∈ c.flags, f.1 ∈ known := by
  obtain ⟨_ | ⟨base, quote⟩, _ | _⟩ := c <;> simp [flags, known]

lemma nodup_flags : (c.flags.map (·.1)).Nodup := by
  obtain ⟨_ | ⟨base, quote⟩, _ | _⟩ := c <;> simp [flags]

lemma split_choice (args : List String) :
    Arguments.split Verb.chart.flags true (Arguments.write c.flags ++ args) =
      (Arguments.split Verb.chart.flags true args).map (Arguments.withFlags c.flags) := by
  have hfind : ∀ flag ∈ known, Verb.chart.flags.find? (·.name == flag.name) = some flag := by
    decide +kernel
  refine Arguments.split_write (fun f hf => hfind f.1 (c.fst_mem_known f hf)) ?_ args
  obtain ⟨_ | ⟨base, quote⟩, _ | _⟩ := c <;> simp [flags, Flag.takesValue]

lemma ofFlags_flags (files : Files) : Options.ofFlags files c.flags = .ok (c.apply .standard) := by
  obtain ⟨_ | ⟨base, quote⟩, _ | _⟩ := c <;> rfl

/-- Other flags are set alike whatever is said of the pair. -/
lemma set_apply (files : Files) (o : Options) {flag : Flag} (h : flag ∉ known) (value : String) :
    (c.apply o).set files flag value = (o.set files flag value).map c.apply := by
  have hmap {α : Type} (e : Except CommandError α) (g : α → Options) :
      (do return c.apply (g (← e))) =
        (do return g (← e) : Except CommandError Options).map c.apply := by
    cases e <;> rfl
  cases flag with
  | base | quote | flip => simp [known] at h
  | help => rfl
  | logLevel => exact hmap _ fun v => { o with logLevel := v }
  | settings => exact hmap _ fun v => { o with settings := some v }
  | window => exact hmap _ fun v => { o with window := some v }
  | now => exact hmap _ fun v => { o with now := some v }
  | theme => exact hmap _ fun v => { o with theme := some v }
  | start => exact hmap _ fun v => { o with start := some v }
  | stop => exact hmap _ fun v => { o with stop := some v }
  | format => exact hmap _ fun v => { o with format := v }

lemma foldlM_apply (files : Files) {flags : List (Flag × String)} (h : ∀ f ∈ flags, f.1 ∉ known)
    (o : Options) :
    flags.foldlM (fun o f => Options.set files o f.1 f.2) (c.apply o) =
      (flags.foldlM (fun o f => Options.set files o f.1 f.2) o).map c.apply := by
  induction flags generalizing o with
  | nil => rfl
  | cons f flags ih =>
    obtain ⟨hf, hflags⟩ := List.forall_mem_cons.1 h
    rw [List.foldlM_cons, List.foldlM_cons, c.set_apply files o hf]
    cases o.set files f.1 f.2 with
    | error e => rfl
    | ok o' => exact ih hflags o'

end PairChoice

lemma CommandLine.read_of_split {files : Files} {known : List Flag} {mixed : Bool}
    {args : List String} {a : Arguments} (h : Arguments.split known mixed args = .ok a) :
    read files known mixed args =
      if a.gives .help then .error (.help true)
      else (orRefused (Options.ofFlags files a.effective)).map fun o => (o, a.rest) := by
  rw [read, h]
  change (if a.gives .help then _ else _) = _
  split_ifs
  · rfl
  · cases Options.ofFlags files a.effective <;> rfl

/-- Putting the flags on the pair in front of arguments that leave it open sets the choice of the
pair and nothing else. -/
theorem PairChoice.read_choice (c : PairChoice) (files : Files) {args : List String}
    (h : Open args) :
    CommandLine.read files Verb.chart.flags true (Arguments.write c.flags ++ args) =
      (CommandLine.read files Verb.chart.flags true args).map
        fun (o, rest) => (c.apply o, rest) := by
  have hsplit := c.split_choice args
  cases hargs : Arguments.split Verb.chart.flags true args with
  | error e =>
    rw [hargs] at hsplit
    rw [CommandLine.read, CommandLine.read, hargs, hsplit]
    rfl
  | ok a =>
    rw [hargs] at hsplit
    have hgives := h a hargs
    have heffective := Arguments.effective_withFlags c.nodup_flags
      fun f hf => hgives f.1 (c.fst_mem_known f hf)
    have hother : ∀ f ∈ a.effective, f.1 ∉ known := fun f hf hmem =>
      Arguments.ne_of_mem_effective (hgives f.1 hmem) hf rfl
    have hoptions : Options.ofFlags files (a.withFlags c.flags).effective =
        (Options.ofFlags files a.effective).map c.apply := by
      have hfront := c.ofFlags_flags files
      rw [Options.ofFlags] at hfront
      rw [heffective, Options.ofFlags, Options.ofFlags, List.foldlM_append, hfront]
      exact c.foldlM_apply files hother .standard
    have hhelp : (a.withFlags c.flags).gives .help = a.gives .help := by
      obtain ⟨_ | ⟨base, quote⟩, _ | _⟩ := c <;> rfl
    rw [CommandLine.read_of_split hargs, CommandLine.read_of_split hsplit, hhelp, hoptions]
    split_ifs
    · rfl
    · cases Options.ofFlags files a.effective <;> rfl

end TradeCharts
