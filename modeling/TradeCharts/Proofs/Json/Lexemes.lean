import Mathlib.Data.List.Forall2
import Mathlib.Tactic.Common
import TradeCharts.Json.Reader
import TradeCharts.Proofs.Json.Limits
import TradeCharts.Proofs.Text.Digits

/-! The lexemes of a text under a limit on digits, beside those without one, and from them the texts
on which a reader stops at a limit. -/
namespace TradeCharts.Json

open Text

lemma NumberText.takeWhole_cases (cs : List Char) :
    takeWhole cs = [] ∨ takeWhole cs = ['0'] ∨
      ∃ c ds, takeWhole cs = c :: ds ∧ isAsciiDigit c ∧ c ≠ '0' := by
  cases cs with
  | nil => exact .inl rfl
  | cons c rest =>
    rw [takeWhole]
    split_ifs with h0
    · exact .inr (.inl rfl)
    · by_cases hc : isAsciiDigit c
      · exact .inr (.inr ⟨c, _, List.takeWhile_cons_of_pos hc, hc, h0⟩)
      · exact .inl (List.takeWhile_cons_of_neg hc)

/-- The whole part of a number has no leading zeros, so its length tells its size. -/
lemma NumberText.tenTo_le_whole_iff {cs : List Char} {t : NumberText} (h : take? cs = some t) :
    tenTo digitLimit ≤ digitsValue t.whole ↔ digitLimit < t.whole.length := by
  have hw : t.whole = [] ∨ t.whole = ['0'] ∨
      ∃ c ds, t.whole = c :: ds ∧ isAsciiDigit c ∧ c ≠ '0' := by
    simp only [take?] at h
    split_ifs at h with hn hn <;> cases h <;> exact takeWhole_cases _
  have hpos := tenTo_pos digitLimit
  rcases hw with hw | hw | ⟨c, ds, hw, hc, h0⟩
  · rw [hw]
    refine iff_of_false ?_ (Nat.not_lt_zero _)
    simp only [digitsValue, List.foldl_nil]
    omega
  · rw [hw]
    have h0 : digitsValue ['0'] = 0 := by decide
    rw [h0]
    exact iff_of_false (by omega) (by decide)
  · rw [hw]
    exact tenTo_le_digitsValue_iff hc h0 ds digitLimit

lemma word_cases {w : List Char} {v : Json} (h : (w, v) ∈ words) :
    v = .null ∨ (∃ b, v = .boolean b) ∨ ∃ x, v = .number x := by
  simp only [words, List.mem_cons, List.not_mem_nil, or_false, Prod.mk.injEq] at h
  rcases h with ⟨-, rfl⟩ | ⟨-, rfl⟩ | ⟨-, rfl⟩ | ⟨-, rfl⟩ | ⟨-, rfl⟩ | ⟨-, rfl⟩ <;> simp

/-- A lexeme as the scan yields it, without and with a limit on digits. -/
inductive Scanned : (Bool → Lexeme) → Prop
  | mark (c : Char) : Scanned fun _ => .mark c
  | text (s : String) : Scanned fun _ => .text s
  | word {w : List Char} {v : Json} (h : (w, v) ∈ words) : Scanned fun _ => .scalar v
  | number {cs : List Char} {t : NumberText} (h : NumberText.take? cs = some t) :
    Scanned fun digitsLimited => t.lexeme digitsLimited
  | badText (f : Fault) : Scanned fun _ => .badText f
  | stray : Scanned fun _ => .stray

/-- The limit on digits changes single lexemes only: a text is cut at the same places with and
without it. -/
lemma exists_scanned_from (fuel place : Nat) (cs : List Char) :
    ∃ found : List (Nat × (Bool → Lexeme)), found.length ≤ fuel ∧ (∀ x ∈ found, Scanned x.2) ∧
      ∀ d done, lexemesFrom d fuel place cs done = done.reverse ++ found.map fun x => (x.1, x.2 d) := by
  induction fuel generalizing place cs with
  | zero => exact ⟨[], Nat.le_refl _, by simp, fun d done => by simp [lexemesFrom]⟩
  | succ fuel ih =>
    -- one lexeme here, and those of the rest of the text
    have hput {l : Bool → Lexeme} (hl : Scanned l) (p : Nat) (rest : List Char) :
        ∃ found : List (Nat × (Bool → Lexeme)), found.length ≤ fuel + 1 ∧
          (∀ x ∈ found, Scanned x.2) ∧ ∀ d done,
            lexemesFrom d fuel p rest ((place, l d) :: done) =
              done.reverse ++ found.map fun x => (x.1, x.2 d) := by
      obtain ⟨found, hlength, hfound, heq⟩ := ih p rest
      refine ⟨(place, l) :: found, Nat.succ_le_succ hlength, List.forall_mem_cons.2 ⟨hl, hfound⟩,
        fun d done => ?_⟩
      simp [heq]
    have hend {l : Bool → Lexeme} (hl : Scanned l) :
        ∃ found : List (Nat × (Bool → Lexeme)), found.length ≤ fuel + 1 ∧
          (∀ x ∈ found, Scanned x.2) ∧ ∀ (d : Bool) (done : List (Nat × Lexeme)),
            ((place, l d) :: done).reverse = done.reverse ++ found.map fun x => (x.1, x.2 d) :=
      ⟨[(place, l)], by simp, by simpa using hl, fun d done => by simp⟩
    cases cs with
    | nil => exact ⟨[], Nat.zero_le _, by simp, fun d done => by simp [lexemesFrom]⟩
    | cons c rest =>
      simp only [lexemesFrom]
      split_ifs with hspace hmark hquote
      · obtain ⟨found, hlength, hfound, heq⟩ := ih (place + 1) rest
        exact ⟨found, Nat.le_succ_of_le hlength, hfound, heq⟩
      · exact hput (.mark c) _ _
      · cases scanText place (place + 1) [] .plain rest with
        | ok t => exact hput (.text _) _ _
        | error f => exact hend (.badText f)
      · cases hw : words.find? (·.1.isPrefixOf (c :: rest)) with
        | some wv => exact hput (.word (List.mem_of_find?_eq_some hw)) _ _
        | none =>
          cases ht : NumberText.take? (c :: rest) with
          | some t => exact hput (.number ht) _ _
          | none => exact hend .stray

theorem exists_scanned (cs : List Char) :
    ∃ found : List (Nat × (Bool → Lexeme)), found.length ≤ cs.length ∧ (∀ x ∈ found, Scanned x.2) ∧
      ∀ d, lexemes d cs = found.map fun x => (x.1, x.2 d) := by
  obtain ⟨found, hlength, hfound, heq⟩ := exists_scanned_from cs.length 0 cs
  exact ⟨found, hlength, hfound, fun d => by simp [lexemes, heq]⟩

lemma NumberText.limited_lexeme {cs : List Char} {t : NumberText} (h : take? cs = some t)
    (d : Bool) : Lexeme.Limited d (t.lexeme false) (t.lexeme d) := by
  have hlong := tenTo_le_whole_iff h
  unfold lexeme
  simp only [Bool.false_and, Bool.false_eq_true, if_false]
  split_ifs with hi hd
  · simp only [Bool.and_eq_true, decide_eq_true_eq] at hd
    refine .long _ hd.1 ?_
    rw [natAbs_signed]
    exact hlong.2 hd.2
  · simp only [Bool.and_eq_true, decide_eq_true_eq, not_and] at hd
    refine .same (fun ht => ?_) (by simp)
    rw [Lexeme.IsLong, natAbs_signed, hlong]
    exact hd ht
  · split
    · exact .same (fun _ => id) (by simp)
    · exact .same (fun _ => id) (by simp)

lemma Scanned.limited {l : Bool → Lexeme} (h : Scanned l) (d : Bool) :
    (l false).Limited d (l d) := by
  cases h with
  | number h => exact NumberText.limited_lexeme h d
  | word h =>
    rcases word_cases h with rfl | ⟨b, rfl⟩ | ⟨x, rfl⟩ <;> exact .same (fun _ => id) (by simp)
  | _ => exact .same (fun _ => id) (by simp)

theorem limitedAll_lexemes (d : Bool) (cs : List Char) :
    LimitedAll d (lexemes false cs) (lexemes d cs) := by
  obtain ⟨found, -, hfound, heq⟩ := exists_scanned cs
  rw [heq, heq, LimitedAll, List.forall₂_map_left_iff, List.forall₂_map_right_iff,
    List.forall₂_same]
  exact fun x hx => ⟨rfl, (hfound x hx).limited d⟩

lemma length_lexemes_le (d : Bool) (cs : List Char) : (lexemes d cs).length ≤ cs.length := by
  obtain ⟨found, hlength, -, heq⟩ := exists_scanned cs
  rw [heq, List.length_map]
  exact hlength

lemma lexemes_byteOrderMark (d : Bool) (rest : List Char) :
    lexemes d ('\uFEFF' :: rest) = [(0, .stray)] := by
  have hspace : isSpace '\uFEFF' = false := by decide
  have hmark : isMark '\uFEFF' = false := by decide
  have hwords : words.find? (·.1.isPrefixOf ('\uFEFF' :: rest)) = none := by
    simp [words, List.isPrefixOf]
  have hnumber : NumberText.take? ('\uFEFF' :: rest) = none := by
    simp [NumberText.take?, NumberText.takeWhole, isAsciiDigit]
  rw [lexemes, List.length_cons, lexemesFrom, hspace, hmark, hwords, hnumber]
  simp

/-- A reader stops at a limit exactly on the texts that exceed its limits. -/
theorem read_isLimit_iff (limits : Limits) (cs : List Char) :
    (∃ e, read limits cs = .error e ∧ e.isLimit) ↔ Exceeds limits cs := by
  rw [read]
  split_ifs with hbom
  · refine iff_of_false ?_ ?_
    · rintro ⟨e, he, hlimit⟩
      cases he
      cases hlimit
    · obtain ⟨rest, rfl⟩ := List.head?_eq_some_iff.1 (beq_iff_eq.1 hbom)
      rw [Exceeds, lexemes_byteOrderMark]
      exact not_exceedsFrom_cons_error (Nat.zero_le _) rfl _
  · refine run_isLimit_iff (limitedAll_lexemes _ _) _ (Nat.zero_le _) ?_
    simpa [Limits.beyond, State.depth] using length_lexemes_le false cs

end TradeCharts.Json
