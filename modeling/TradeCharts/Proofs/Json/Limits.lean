import Mathlib.Data.List.Forall2
import Mathlib.Tactic.Common
import TradeCharts.Json.Reader
import TradeCharts.Proofs.Text.Digits

/-!
Which texts a reader with limits gives up on. The reader that no limit stops is the measure: a text
exceeds the limits if lexemes at its head read without a fault, although they open one container too
many or hold a whole number that is too long.
-/
namespace TradeCharts.Json

open Text

/-- Errors of the limits, not of the grammar. -/
def ReadError.isLimit : ReadError → Bool
  | .malformed _ => false
  | .tooDeep => true
  | .longNumber _ => true

/-- Limits that no text of this length reaches. -/
def Limits.beyond (length : Nat) : Limits :=
  ⟨length, false⟩

def State.depth : State → Nat
  | .within frames _ => frames.length
  | .done _ => 0

/-- A whole number of more digits than the limit on them. -/
def Lexeme.IsLong : Lexeme → Prop
  | .scalar (.integer n) => tenTo digitLimit ≤ n.natAbs
  | _ => False

def State.takeAll (limits : Limits) (s : State) (ls : List (Nat × Lexeme)) : Except ReadError State :=
  ls.foldlM (fun s l => s.step limits l.1 l.2) s

/-- Lexemes that read without a fault from a state on, as long as `free` allows, and go beyond the
limits. -/
def ExceedsFrom (limits free : Limits) (s : State) (ls : List (Nat × Lexeme)) : Prop :=
  ∃ taken rest s', ls = taken ++ rest ∧ s.takeAll free taken = .ok s' ∧
    (limits.depth < s'.depth ∨ limits.digitsLimited ∧ ∃ l ∈ taken, l.2.IsLong)

/-- A text whose first lexemes read without a fault and go beyond the limits. -/
def Exceeds (limits : Limits) (cs : List Char) : Prop :=
  ExceedsFrom limits (.beyond cs.length) (.within [] .value) (lexemes false cs)

inductive Lexeme.Limited (digitsLimited : Bool) : Lexeme → Lexeme → Prop
  | same {l : Lexeme} (hl : digitsLimited → ¬ l.IsLong) (hc : ∀ c, l ≠ .longNumber c) :
    Limited digitsLimited l l
  | long {n : Int} (cause : DigitLimitExceeded) (hd : digitsLimited)
    (hn : tenTo digitLimit ≤ n.natAbs) :
    Limited digitsLimited (.scalar (.integer n)) (.longNumber cause)

/-- How limits show in the outcome of a step that takes a lexeme where `depth` containers are open. -/
inductive Follows (limits : Limits) (depth : Nat) (l : Lexeme) :
    Except ReadError State → Except ReadError State → Prop
  | fault (f : Fault) : Follows limits depth l (.error (.malformed f)) (.error (.malformed f))
  | taken {s : State} (hd : s.depth ≤ depth + 1) (hs : s.depth ≤ limits.depth)
    (hl : limits.digitsLimited → ¬ l.IsLong) : Follows limits depth l (.ok s) (.ok s)
  | stopped {s : State} {e : ReadError} (he : e.isLimit)
    (h : limits.depth < s.depth ∨ limits.digitsLimited ∧ l.IsLong) :
    Follows limits depth l (.ok s) (.error e)

variable {limits free : Limits} {frames : List Frame} {l l' : Lexeme}

lemma depth_complete (v : Json) (frames : List Frame) :
    (State.complete v frames).depth = frames.length := by
  cases frames with
  | nil => rfl
  | cons f frames => cases f <;> rfl

lemma Lexeme.Limited.isMark_eq {d : Bool} (h : Limited d l l') (c : Char) :
    l'.isMark c = l.isMark c := by
  cases h <;> rfl

lemma Lexeme.not_isLong_of_isMark {c : Char} (h : l.isMark c) : ¬ l.IsLong := by
  cases l <;> simp_all [isMark, IsLong]

lemma follows_complete {depth : Nat} (hd : frames.length ≤ depth) (hs : depth ≤ limits.depth)
    (hl : limits.digitsLimited → ¬ l.IsLong) (v : Json) :
    Follows limits depth l (.ok (.complete v frames)) (.ok (.complete v frames)) := by
  have hc := depth_complete v frames
  exact .taken (by omega) (by omega) hl

lemma follows_openFrame (hf : frames.length < free.depth) (hl : limits.digitsLimited → ¬ l.IsLong)
    (f : Frame) (e : Expecting) :
    Follows limits frames.length l (openFrame free frames f e) (openFrame limits frames f e) := by
  rw [openFrame, if_pos hf, openFrame]
  split_ifs with hd
  · exact .taken (Nat.le_refl _) hd hl
  · refine .stopped rfl (.inl ?_)
    simp only [State.depth, List.length_cons]
    omega

lemma follows_takeValue (h : Lexeme.Limited limits.digitsLimited l l')
    (hf : frames.length < free.depth) (hs : frames.length ≤ limits.depth) (place : Nat) :
    Follows limits frames.length l (takeValue free frames place l)
      (takeValue limits frames place l') := by
  cases h with
  | long cause hd hn => exact .stopped rfl (.inr ⟨hd, hn⟩)
  | same hl hc =>
    cases l with
    | mark c =>
      simp only [takeValue]
      split_ifs
      · exact follows_openFrame hf hl _ _
      · exact follows_openFrame hf hl _ _
      · exact .fault _
    | text t => exact follows_complete (Nat.le_refl _) hs hl _
    | scalar v => exact follows_complete (Nat.le_refl _) hs hl _
    | badText f => exact .fault _
    | longNumber c => exact absurd rfl (hc c)
    | stray => exact .fault _

lemma follows_takeName (h : Lexeme.Limited limits.digitsLimited l l')
    (hs : frames.length ≤ limits.depth) (place : Nat) :
    Follows limits frames.length l (takeName frames place l) (takeName frames place l') := by
  cases h with
  | long cause hd hn => exact .fault _
  | same hl hc =>
    cases l with
    | text t =>
      cases frames with
      | nil => exact .fault _
      | cons f frames =>
        cases f with
        | list items => exact .fault _
        | object fields name => exact .taken (Nat.le_succ _) hs hl
    | badText f => exact .fault _
    | _ => exact .fault _

lemma follows_takeComma (h : Lexeme.Limited limits.digitsLimited l l')
    (hs : frames.length ≤ limits.depth) (place : Nat) :
    Follows limits frames.length l (takeComma frames place l) (takeComma frames place l') := by
  cases h with
  | long cause hd hn => exact .fault _
  | same hl hc =>
    cases l with
    | mark c =>
      cases frames with
      | nil => exact .fault _
      | cons f frames =>
        cases f with
        | list items =>
          simp only [takeComma]
          split_ifs
          · exact .taken (Nat.le_succ _) hs hl
          · exact follows_complete (Nat.le_succ _) hs hl _
          · exact .fault _
        | object fields name =>
          simp only [takeComma]
          split_ifs
          · exact .taken (Nat.le_succ _) hs hl
          · exact follows_complete (Nat.le_succ _) hs hl _
          · exact .fault _
    | _ => exact .fault _

/-- The step of a reader with limits follows the step that no limit stops. -/
theorem follows_step {s : State} (h : Lexeme.Limited limits.digitsLimited l l')
    (hf : s.depth < free.depth) (hs : s.depth ≤ limits.depth) (place : Nat) :
    Follows limits s.depth l (s.step free place l) (s.step limits place l') := by
  cases s with
  | done v => exact .fault _
  | within frames e =>
    have ht : frames.tail.length ≤ frames.length := by
      rw [List.length_tail]
      omega
    cases e with
    | value => exact follows_takeValue h hf hs place
    | item =>
      simp only [State.step, h.isMark_eq]
      split_ifs with hm
      · exact follows_complete ht hs (fun _ => Lexeme.not_isLong_of_isMark hm) _
      · exact follows_takeValue h hf hs place
    | firstName =>
      simp only [State.step, h.isMark_eq]
      split_ifs with hm
      · exact follows_complete ht hs (fun _ => Lexeme.not_isLong_of_isMark hm) _
      · exact follows_takeName h hs place
    | name => exact follows_takeName h hs place
    | colon =>
      simp only [State.step, h.isMark_eq]
      split_ifs with hm
      · exact .taken (Nat.le_succ _) hs (fun _ => Lexeme.not_isLong_of_isMark hm)
      · exact .fault _
    | comma => exact follows_takeComma h hs place

@[simp] lemma takeAll_nil (limits : Limits) (s : State) : s.takeAll limits [] = .ok s := rfl

lemma takeAll_cons_ok {s s' : State} {x : Nat × Lexeme} (h : s.step limits x.1 x.2 = .ok s')
    (ls : List (Nat × Lexeme)) : s.takeAll limits (x :: ls) = s'.takeAll limits ls := by
  rw [State.takeAll, List.foldlM_cons, h]
  rfl

lemma takeAll_cons_error {s : State} {x : Nat × Lexeme} {e : ReadError}
    (h : s.step limits x.1 x.2 = .error e) (ls : List (Nat × Lexeme)) :
    s.takeAll limits (x :: ls) = .error e := by
  rw [State.takeAll, List.foldlM_cons, h]
  rfl

lemma not_exceedsFrom_nil {s : State} (hs : s.depth ≤ limits.depth) :
    ¬ ExceedsFrom limits free s [] := by
  rintro ⟨taken, rest, s', hl, ht, h⟩
  obtain ⟨rfl, rfl⟩ := List.append_eq_nil_iff.1 hl.symm
  cases ht
  simp only [List.not_mem_nil, false_and, exists_false, and_false, or_false] at h
  omega

lemma not_exceedsFrom_cons_error {s : State} {x : Nat × Lexeme} {e : ReadError}
    (hs : s.depth ≤ limits.depth) (hx : s.step free x.1 x.2 = .error e)
    (ls : List (Nat × Lexeme)) : ¬ ExceedsFrom limits free s (x :: ls) := by
  rintro ⟨taken, rest, s', hl, ht, h⟩
  cases taken with
  | nil => exact not_exceedsFrom_nil hs ⟨[], [], s', rfl, ht, h⟩
  | cons y taken =>
    rw [List.cons_append, List.cons.injEq] at hl
    obtain ⟨rfl, -⟩ := hl
    rw [takeAll_cons_error hx] at ht
    cases ht

lemma exceedsFrom_cons_stopped {s s' : State} {x : Nat × Lexeme}
    (hx : s.step free x.1 x.2 = .ok s')
    (h : limits.depth < s'.depth ∨ limits.digitsLimited ∧ x.2.IsLong) (ls : List (Nat × Lexeme)) :
    ExceedsFrom limits free s (x :: ls) := by
  refine ⟨[x], ls, s', rfl, ?_, h.imp_right fun h => ⟨h.1, x, List.mem_singleton_self x, h.2⟩⟩
  rw [takeAll_cons_ok hx, takeAll_nil]

lemma exceedsFrom_cons_taken {s s' : State} {x : Nat × Lexeme} (hs : s.depth ≤ limits.depth)
    (hx : s.step free x.1 x.2 = .ok s') (hl : limits.digitsLimited → ¬ x.2.IsLong)
    (ls : List (Nat × Lexeme)) :
    ExceedsFrom limits free s (x :: ls) ↔ ExceedsFrom limits free s' ls := by
  constructor
  · rintro ⟨taken, rest, s'', hls, ht, h⟩
    cases taken with
    | nil => exact absurd ⟨[], [], s'', rfl, ht, h⟩ (not_exceedsFrom_nil hs)
    | cons y taken =>
      rw [List.cons_append, List.cons.injEq] at hls
      obtain ⟨rfl, rfl⟩ := hls
      rw [takeAll_cons_ok hx] at ht
      refine ⟨taken, rest, s'', rfl, ht, h.imp_right ?_⟩
      rintro ⟨hd, l, hm, hlong⟩
      rcases List.mem_cons.1 hm with rfl | hm
      · exact absurd hlong (hl hd)
      · exact ⟨hd, l, hm, hlong⟩
  · rintro ⟨taken, rest, s'', rfl, ht, h⟩
    refine ⟨x :: taken, rest, s'', rfl, (takeAll_cons_ok hx taken).trans ht, h.imp_right ?_⟩
    rintro ⟨hd, l, hm, hlong⟩
    exact ⟨hd, l, List.mem_cons_of_mem x hm, hlong⟩

abbrev LimitedAll (digitsLimited : Bool) : List (Nat × Lexeme) → List (Nat × Lexeme) → Prop :=
  List.Forall₂ fun x y => x.1 = y.1 ∧ x.2.Limited digitsLimited y.2

lemma run_cons (limits : Limits) (stop : Nat) (s : State) (x : Nat × Lexeme)
    (ls : List (Nat × Lexeme)) :
    s.run limits stop (x :: ls) = match s.step limits x.1 x.2 with
      | .ok s => s.run limits stop ls
      | .error e => .error e := by
  cases s <;> rfl

/-- A run stops at a limit exactly when its lexemes exceed the limits. -/
theorem run_isLimit_iff {ls ls' : List (Nat × Lexeme)}
    (h : LimitedAll limits.digitsLimited ls ls') (stop : Nat) {s : State}
    (hs : s.depth ≤ limits.depth) (hf : s.depth + ls.length ≤ free.depth) :
    (∃ e, s.run limits stop ls' = .error e ∧ e.isLimit) ↔ ExceedsFrom limits free s ls := by
  induction h generalizing s with
  | nil =>
    refine iff_of_false ?_ (not_exceedsFrom_nil hs)
    rintro ⟨e, he, hlimit⟩
    cases s <;> cases he
    cases hlimit
  | @cons x y ls ls' hxy htail ih =>
    obtain ⟨hplace, hlimited⟩ := hxy
    rw [List.length_cons] at hf
    have hstep : Follows limits s.depth x.2 (s.step free x.1 x.2) (s.step limits x.1 y.2) :=
      follows_step hlimited (by omega) hs x.1
    rw [run_cons, ← hplace]
    generalize hfree : s.step free x.1 x.2 = r, s.step limits x.1 y.2 = r' at hstep
    cases hstep with
    | fault f =>
      refine iff_of_false ?_ (not_exceedsFrom_cons_error hs hfree ls)
      rintro ⟨e, he, hlimit⟩
      cases he
      cases hlimit
    | taken hd hs' hl =>
      rw [exceedsFrom_cons_taken hs hfree hl]
      exact ih hs' (by omega)
    | stopped he hbeyond =>
      exact iff_of_true ⟨_, rfl, he⟩ (exceedsFrom_cons_stopped hfree hbeyond ls)

end TradeCharts.Json
