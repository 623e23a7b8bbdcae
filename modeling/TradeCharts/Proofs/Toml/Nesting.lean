import Mathlib.Tactic.Common
import TradeCharts.Toml.Reader

/-!
Which documents the limit on nesting stops. The outcome of a reader settles as its limit grows, so a
document is stopped exactly when a larger limit would make a difference to it
(`read_eq_tooDeep_iff`).
-/
namespace TradeCharts.Toml

variable {α β : Type}

/-- A document that reads differently once values may nest deeper. -/
def Exceeds (limit : Nat) (cs : List Char) : Prop :=
  ∃ more, read (limit + more) cs ≠ read limit cs

/-- A reader under growing limits: some limit does not stop it, and a larger one than that changes
nothing. -/
structure Settles (r : Nat → Except ReadError α) : Prop where
  stays : ∀ limit more, r limit = .error .tooDeep ∨ r (limit + more) = r limit
  ends : ∃ limit, r limit ≠ .error .tooDeep

lemma settles_const {r : Except ReadError α} (h : r ≠ .error .tooDeep) : Settles fun _ => r :=
  ⟨fun _ _ => .inr rfl, 0, h⟩

lemma settles_ok (a : α) : Settles fun _ => .ok a :=
  settles_const nofun

lemma settles_malformed : Settles fun _ => (.error .malformed : Except ReadError α) :=
  settles_const nofun

/-- Where the first reader has ended its outcome stays, and the limit may grow for the second. -/
lemma Settles.bind {r : Nat → Except ReadError α} {f : Nat → α → Except ReadError β}
    (h : Settles r) (hf : ∀ a, Settles (f · a)) : Settles fun limit => r limit >>= f limit := by
  constructor
  case stays =>
    intro limit more
    obtain hstop | hsame := h.stays limit more
    · exact .inl (by rw [hstop]; rfl)
    · rw [hsame]
      cases r limit with
      | error e => exact .inr rfl
      | ok a => exact (hf a).stays limit more
  case ends =>
    obtain ⟨enough, hfirst⟩ := h.ends
    cases hr : r enough with
    | error e =>
      refine ⟨enough, fun hstop => hfirst ?_⟩
      rw [hr] at hstop ⊢
      cases hstop
      rfl
    | ok a =>
      obtain ⟨enough', hsecond⟩ := (hf a).ends
      have hr' : r (enough + enough') = .ok a := by
        rw [(h.stays enough enough').resolve_left hfirst, hr]
      have hf' : f (enough + enough') a = f enough' a := by
        rw [Nat.add_comm]
        exact ((hf a).stays enough' enough).resolve_left hsecond
      refine ⟨enough + enough', ?_⟩
      rw [hr']
      change f (enough + enough') a ≠ _
      rwa [hf']

lemma Settles.andThen {r : Nat → Except ReadError α} {f : Nat → α → Except ReadError β}
    {g : Nat → Except ReadError β} (h : Settles r) (hf : ∀ a, Settles (f · a))
    (hg : ∀ limit, g limit = r limit >>= f limit) : Settles g := by
  rw [funext hg]
  exact h.bind hf

/-- Entering a container uses up depth, if enough is left. -/
lemma Settles.enter {r : Nat → Except ReadError α} (h : Settles r) (used : Nat) :
    Settles fun depth => if depth < used then .error .tooDeep else r (depth - used) := by
  constructor
  case stays =>
    intro depth more
    by_cases hdepth : depth < used
    · exact .inl (if_pos hdepth)
    · rw [if_neg hdepth, if_neg (show ¬ depth + more < used by omega),
        Nat.sub_add_comm (Nat.not_lt.1 hdepth)]
      exact h.stays (depth - used) more
  case ends =>
    obtain ⟨enough, hfree⟩ := h.ends
    refine ⟨enough + used, ?_⟩
    rwa [if_neg (Nat.not_lt.2 (Nat.le_add_left used enough)), Nat.add_sub_cancel]

lemma takeDecimal_ne_tooDeep (cs : List Char) : takeDecimal cs ≠ .error .tooDeep := by
  unfold takeDecimal
  dsimp only
  split
  · exact nofun
  · split_ifs
    · split <;> exact nofun
    · exact nofun

lemma takeScalar_ne_tooDeep (cs : List Char) : takeScalar cs ≠ .error .tooDeep := by
  unfold takeScalar
  split_ifs
  · exact nofun
  · exact nofun
  · split
    · split_ifs <;> exact nofun
    · split
      · exact nofun
      · split
        · exact nofun
        · split
          case h_1 e he =>
            intro hstop
            cases hstop
            exact takeDecimal_ne_tooDeep cs he
          case h_2 => exact nofun
          case h_3 => split <;> exact nofun

/-- What is read of a list behind an item. -/
def afterItem (fuel : Nat) (items : List Value) (depth : Nat) :
    Value × List Char → Except ReadError (Value × List Char)
  | (v, rest) => match skipGaps rest.length rest with
    | some (']' :: rest) => .ok (.list (v :: items).reverse, rest)
    | some (',' :: rest) => takeItems fuel depth (v :: items) rest
    | _ => .error .malformed

/-- What is read of a table behind the value of a key. -/
def afterField (fuel : Nat) (tables : Tables) (key : Path) (depth : Nat) :
    Value × List Char → Except ReadError (Value × List Char)
  | (v, rest) => match tables.set? key v, rest.dropWhile isBlank with
    | some tables, '\x7d' :: rest => .ok (.table tables.fields, rest)
    | some tables, ',' :: rest => takeFields fuel depth tables (rest.dropWhile isBlank)
    | _, _ => .error .malformed

structure SettlesAt (fuel : Nat) : Prop where
  value : ∀ cs, Settles (takeValue fuel · cs)
  items : ∀ items cs, Settles (takeItems fuel · items cs)
  fields : ∀ tables cs, Settles (takeFields fuel · tables cs)

section Step

variable {fuel : Nat} (h : SettlesAt fuel)
include h

lemma SettlesAt.value_succ (cs : List Char) : Settles (takeValue (fuel + 1) · cs) := by
  simp only [takeValue.eq_def (fuel + 1)]
  split
  case h_1 => exact (h.items _ _).enter listDepth
  case h_2 =>
    split
    · exact (settles_ok _).enter tableDepth
    · exact (h.fields _ _).enter tableDepth
  case h_5 => exact settles_const (takeScalar_ne_tooDeep _)
  all_goals
    split
    · exact settles_ok _
    · exact settles_malformed

lemma SettlesAt.items_succ (items : List Value) (cs : List Char) :
    Settles (takeItems (fuel + 1) · items cs) := by
  simp only [takeItems.eq_def (fuel + 1)]
  split
  case h_1 => exact settles_malformed
  case h_2 => exact settles_ok _
  case h_3 cs _ _ =>
    refine (h.value cs).andThen (f := afterItem fuel items) (fun (v, rest) => ?_) fun depth => ?_
    · unfold afterItem
      dsimp only
      split
      · exact settles_ok _
      · exact h.items _ _
      · exact settles_malformed
    · cases takeValue fuel depth cs <;> rfl

lemma SettlesAt.fields_succ (tables : Tables) (cs : List Char) :
    Settles (takeFields (fuel + 1) · tables cs) := by
  simp only [takeFields.eq_def (fuel + 1)]
  split
  case h_1 key rest _ =>
    refine (h.value (rest.dropWhile isBlank)).andThen (f := afterField fuel tables key)
      (fun (v, rest) => ?_) fun depth => ?_
    · unfold afterField
      dsimp only
      split
      · exact settles_ok _
      · exact h.fields _ _
      · exact settles_malformed
    · cases takeValue fuel depth (rest.dropWhile isBlank) <;> rfl
  case h_2 => exact settles_malformed

end Step

theorem settlesAt (fuel : Nat) : SettlesAt fuel := by
  induction fuel with
  | zero =>
    exact ⟨fun _ => settles_malformed, fun _ _ => settles_malformed, fun _ _ => settles_malformed⟩
  | succ fuel ih => exact ⟨ih.value_succ, ih.items_succ, ih.fields_succ⟩

lemma settles_orMalformed (a : Option α) : Settles fun _ => orMalformed a := by
  cases a with
  | none => exact settles_malformed
  | some a => exact settles_ok a

lemma settles_readHeader (tables : Tables) (cs : List Char) :
    Settles fun _ => readHeader tables cs := by
  unfold readHeader
  dsimp only
  split
  · exact (settles_orMalformed _).bind fun _ => settles_ok _
  · exact (settles_orMalformed _).bind fun _ => settles_ok _
  · exact settles_malformed

lemma settles_readStatement (tables : Tables) (cs : List Char) :
    Settles (readStatement · tables cs) := by
  unfold readStatement
  split
  case h_4 => exact settles_readHeader _ _
  case h_5 =>
    unfold readField
    split
    · refine ((settlesAt _).value _).bind fun _ => ?_
      exact (settles_orMalformed _).bind fun _ => settles_ok _
    · exact settles_malformed
  all_goals exact settles_ok _

lemma settles_readLines (fuel : Nat) (tables : Tables) (cs : List Char) :
    Settles (readLines · fuel tables cs) := by
  induction fuel generalizing tables cs with
  | zero => exact settles_malformed
  | succ fuel ih =>
    unfold readLines
    refine (settles_readStatement tables _).bind fun (tables, rest) => ?_
    dsimp only
    split
    · exact settles_ok _
    · exact ih _ _
    · exact settles_malformed

theorem settles_read (cs : List Char) : Settles (read · cs) :=
  settles_readLines _ _ _

/-- A document is stopped by the limit exactly when it exceeds it. -/
theorem read_eq_tooDeep_iff (limit : Nat) (cs : List Char) :
    read limit cs = .error .tooDeep ↔ Exceeds limit cs := by
  constructor
  · intro hstop
    obtain ⟨enough, hfree⟩ := (settles_read cs).ends
    have hlarger := ((settles_read cs).stays enough limit).resolve_left hfree
    refine ⟨enough, fun hsame => hfree ?_⟩
    rw [← hlarger, Nat.add_comm, hsame, hstop]
  · rintro ⟨more, hne⟩
    exact ((settles_read cs).stays limit more).resolve_right hne

end TradeCharts.Toml
