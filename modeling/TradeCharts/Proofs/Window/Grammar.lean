import TradeCharts.Proofs.Text.LowerDigits
import TradeCharts.Proofs.Text.Trim
import TradeCharts.Window

/-!
How windows are written: digits of any script, the letter of a unit behind them or nothing for
seconds, and blanks around both. A text is read as a window exactly when it is written so, with at
most as many digits as a number may have and not as zero (`reads_exactly_spellings`). Lower-casing
changes no digit, and no letter beyond ASCII becomes the letter of a unit.
-/
namespace TradeCharts

open Text

namespace WindowUnit

def letter : WindowUnit → Char
  | second => 's'
  | minute => 'm'
  | hour => 'h'
  | day => 'd'
  | week => 'w'
  | year => 'y'

def letters (u : WindowUnit) : List Char :=
  [u.letter, u.letter.toUpper]

/-- What stands behind the digits for a unit: one of its letters, or nothing for seconds. -/
inductive Suffix : WindowUnit → List Char → Prop where
  | bare : Suffix second []
  | letter {u : WindowUnit} {c : Char} (h : c ∈ u.letters) : Suffix u [c]

variable {u : WindowUnit} {c d : Char} {cs : List Char}

lemma seconds_pos (u : WindowUnit) : 0 < u.seconds := by
  cases u <;> decide

lemma ofLetter?_eq_some_iff : ofLetter? c = some u ↔ c = u.letter := by
  constructor
  · intro h
    unfold ofLetter? at h
    split at h <;> cases h <;> rfl
  · rintro rfl
    cases u <;> rfl

lemma ofRest?_eq_some (h : ofRest? cs = some u) : cs = [] ∧ u = second ∨ cs = [u.letter] := by
  match cs, h with
  | [], h => exact .inl ⟨rfl, (Option.some.inj h).symm⟩
  | [c], h => exact .inr (congrArg (· :: []) (ofLetter?_eq_some_iff.1 h))

lemma lowerChar_of_mem_letters (h : c ∈ u.letters) : lowerChar c = [u.letter] := by
  rcases List.mem_pair.1 h with rfl | rfl <;> cases u <;> decide +kernel

/-- A letter of a unit is no blank and no digit, and no capital sigma. -/
lemma plain_of_mem_letters (h : c ∈ u.letters) :
    isBlank c = false ∧ isDecimalDigit c = false ∧ c.toNat ≠ 0x3A3 := by
  rcases List.mem_pair.1 h with rfl | rfl <;> cases u <;> decide +kernel

lemma Suffix.plain (h : u.Suffix cs) :
    ∀ c ∈ cs, isBlank c = false ∧ isDecimalDigit c = false ∧ c.toNat ≠ 0x3A3 := by
  cases h with
  | bare => exact fun c hc => absurd hc List.not_mem_nil
  | letter h =>
    intro c hc
    rw [List.mem_singleton.1 hc]
    exact plain_of_mem_letters h

/-- Only the run of the ASCII capitals has the letter of a unit among its images. -/
lemma letter_not_in_lowerRuns (u : WindowUnit) : ∀ r ∈ lowerRuns, r.shift = 32 ∨
    (r.span.last : Int) + r.shift < u.letter.toNat ∨ u.letter.toNat < r.span.first + r.shift := by
  cases u <;> decide +kernel

lemma mem_letters_of_lowered (h : Lowered c cs) (hmem : u.letter ∈ cs) :
    c ∈ u.letters ∧ cs = [u.letter] := by
  cases h with
  | itself =>
    obtain rfl := List.mem_singleton.1 hmem
    exact ⟨List.mem_cons_self, rfl⟩
  | @image r d hr hc hd =>
    obtain rfl := List.mem_singleton.1 hmem
    refine ⟨List.mem_cons_of_mem _ (List.mem_singleton.2 ?_), rfl⟩
    have htable := letter_not_in_lowerRuns u r hr
    simp only [Span.contains, Bool.and_eq_true, decide_eq_true_eq] at hc
    have hnat : c.toNat = u.letter.toNat - 32 := by omega
    have hupper : u.letter.toUpper.toNat = u.letter.toNat - 32 := by cases u <;> rfl
    exact Char.toNat_inj.1 (hnat.trans hupper.symm)
  | special h =>
    have hother := of_mem_specialForms (p := fun d => d != u.letter)
      (by cases u <;> decide +kernel) h hmem
    rw [bne_self_eq_false] at hother
    cases hother

end WindowUnit

namespace Window

variable {s : String} {digits : List Char} {u : WindowUnit}

/-- A text that writes so many units, with digits of any script and blanks around. -/
structure Spells (s : String) (digits : List Char) (u : WindowUnit) : Prop where
  digits_ne_nil : digits ≠ []
  isDecimalDigit : ∀ c ∈ digits, isDecimalDigit c
  text : ∃ before suffix after, s.toList = before ++ (digits ++ suffix) ++ after ∧
    (∀ c ∈ before ++ after, isBlank c) ∧ u.Suffix suffix

/-- Lower-casing keeps the digits and leaves the unit to be read from what follows. -/
lemma lowerChars_spelling {suffix : List Char} (hd : ∀ c ∈ digits, Text.isDecimalDigit c)
    (hs : u.Suffix suffix) : ∃ rest, lowerChars (digits ++ suffix) = digits ++ rest ∧
      WindowUnit.ofRest? rest = some u ∧ ∀ c ∈ rest, Text.isDecimalDigit c = false := by
  have hsigma : ∀ c ∈ digits ++ suffix, c.toNat ≠ 0x3A3 := by
    intro c hc
    rcases List.mem_append.1 hc with hc | hc
    · exact (plain_of_isDecimalDigit (hd c hc)).2
    · exact (hs.plain c hc).2.2
  refine ⟨suffix.flatMap lowerChar, ?_, ?_⟩
  · rw [lowerChars, lowerAfter_eq_flatMap hsigma, List.flatMap_append, flatMap_lowerChar_digits hd]
  · cases hs with
    | bare => exact ⟨rfl, by simp⟩
    | letter h =>
      rw [List.flatMap_singleton, WindowUnit.lowerChar_of_mem_letters h]
      refine ⟨WindowUnit.ofLetter?_eq_some_iff.2 rfl, fun c hc => ?_⟩
      rw [List.mem_singleton.1 hc]
      exact (WindowUnit.plain_of_mem_letters List.mem_cons_self).2.1

/-- A text whose lower-case form is digits and a unit is written so itself. -/
lemma spelling_of_lowerAfter {before cs rest : List Char}
    (h : lowerAfter before cs = digits ++ rest) (hd : ∀ c ∈ digits, Text.isDecimalDigit c)
    (hu : WindowUnit.ofRest? rest = some u) :
    ∃ suffix, cs = digits ++ suffix ∧ u.Suffix suffix := by
  induction cs generalizing before digits with
  | nil =>
    obtain ⟨rfl, rfl⟩ := List.append_eq_nil_iff.1 h.symm
    obtain rfl := Option.some.inj hu
    exact ⟨[], rfl, .bare⟩
  | cons c cs ih =>
    have hc := lowered_lowerBetween before c cs
    obtain ⟨e, es, he⟩ := List.exists_cons_of_ne_nil hc.ne_nil
    rw [lowerAfter, he, List.cons_append] at h
    rw [he] at hc
    cases digits with
    | nil =>
      rw [List.nil_append] at h
      rcases WindowUnit.ofRest?_eq_some hu with ⟨hnil, -⟩ | hletter
      · rw [hnil] at h
        cases h
      · obtain ⟨rfl, htail⟩ := List.cons.inj (h.trans hletter)
        obtain ⟨-, hcs⟩ := List.append_eq_nil_iff.1 htail
        obtain ⟨hmem, -⟩ := WindowUnit.mem_letters_of_lowered hc List.mem_cons_self
        rw [lowerAfter_eq_nil hcs]
        exact ⟨[c], rfl, .letter hmem⟩
    | cons d digits =>
      obtain ⟨hdigit, hdigits⟩ := List.forall_mem_cons.1 hd
      obtain ⟨rfl, htail⟩ := List.cons.inj h
      obtain ⟨rfl, hone⟩ := eq_of_isDecimalDigit hc List.mem_cons_self hdigit
      obtain ⟨-, rfl⟩ := List.cons.inj hone
      obtain ⟨suffix, rfl, hsuffix⟩ := ih htail hdigits
      exact ⟨suffix, rfl, hsuffix⟩

/-- The digits and the unit of a text can be told from its lower-case form. -/
lemma spells_iff : Spells s digits u ↔ digits ≠ [] ∧
    (lowerChars (trim s.toList)).takeWhile Text.isDecimalDigit = digits ∧
      WindowUnit.ofRest? ((lowerChars (trim s.toList)).dropWhile Text.isDecimalDigit) = some u := by
  constructor
  · rintro ⟨hne, hd, before, suffix, after, hs, hblank, hsuffix⟩
    have hbody : ∀ c ∈ digits ++ suffix, isBlank c = false := by
      intro c hc
      rcases List.mem_append.1 hc with hc | hc
      · exact (plain_of_isDecimalDigit (hd c hc)).1
      · exact (hsuffix.plain c hc).1
    have htrim : trim s.toList = digits ++ suffix := by
      rw [hs]
      exact trimBoth_append (fun c hc => hblank c (List.mem_append_left _ hc))
        (fun c hc => hblank c (List.mem_append_right _ hc)) (by simp [hne]) hbody
    obtain ⟨rest, hlower, hunit, hrest⟩ := lowerChars_spelling hd hsuffix
    rw [htrim, hlower, List.takeWhile_append_of_pos hd, List.dropWhile_append_of_pos hd]
    have htake : rest.takeWhile Text.isDecimalDigit = [] := by
      cases rest with
      | nil => rfl
      | cons c rest => exact List.takeWhile_cons_of_neg (by simp [hrest])
    have hdrop : rest.dropWhile Text.isDecimalDigit = rest := by
      cases rest with
      | nil => rfl
      | cons c rest => exact List.dropWhile_cons_of_neg (by simp [hrest])
    rw [htake, hdrop, List.append_nil]
    exact ⟨hne, rfl, hunit⟩
  · rintro ⟨hne, htake, hunit⟩
    have hsplit : lowerChars (trim s.toList) =
        digits ++ (lowerChars (trim s.toList)).dropWhile Text.isDecimalDigit := by
      rw [← htake, List.takeWhile_append_dropWhile]
    have hd : ∀ c ∈ digits, Text.isDecimalDigit c := by
      rw [← htake]
      exact fun c hc => List.mem_takeWhile_imp hc
    obtain ⟨suffix, hbody, hsuffix⟩ := spelling_of_lowerAfter hsplit hd hunit
    obtain ⟨before, after, hs, hblank⟩ := exists_trimBoth isBlank s.toList
    refine ⟨hne, hd, before, suffix, after, ?_, hblank, hsuffix⟩
    rw [← hbody]
    exact hs

inductive Refused (s : String) : WindowError → Prop where
  | malformed (h : ∀ digits u, ¬ Spells s digits u) : Refused s (.malformed s)
  | tooLong {digits : List Char} {u : WindowUnit} (h : Spells s digits u)
      (hlength : digitLimit < digits.length) : Refused s (.tooLong (.reading digits.length))
  | notPositive {digits : List Char} {u : WindowUnit} (h : Spells s digits u)
      (hlength : digits.length ≤ digitLimit) (hzero : digitsValue digits = 0) :
      Refused s (.notPositive (.text s))

lemma parseText_of_spells (h : Spells s digits u) : parseText s =
    if digits.length ≤ digitLimit then
      if digitsValue digits = 0 then .error (.notPositive (.text s))
      else .ok (digitsValue digits * u.seconds)
    else .error (.tooLong (.reading digits.length)) := by
  obtain ⟨hne, htake, hunit⟩ := spells_iff.1 h
  have hempty : digits.isEmpty = false := by simpa using hne
  have hzero : digitsValue digits * u.seconds = 0 ↔ digitsValue digits = 0 := by
    have := u.seconds_pos
    rw [Nat.mul_eq_zero]
    omega
  by_cases hlength : digits.length ≤ digitLimit
  · simp only [parseText, readDigits, htake, hempty, hunit, if_pos hlength, hzero]
  · simp only [parseText, readDigits, htake, hempty, hunit, if_neg hlength]

lemma parseText_of_not_spells (h : ∀ digits u, ¬ Spells s digits u) :
    parseText s = .error (.malformed s) := by
  unfold parseText
  simp only
  split
  · next unit hempty hunit => exact absurd (spells_iff.2 ⟨by simpa using hempty, rfl, hunit⟩) (h _ _)
  · rfl

theorem parseText_eq_ok_iff {n : Int} : parseText s = .ok n ↔ ∃ digits u, Spells s digits u ∧
    digits.length ≤ digitLimit ∧ n = (digitsValue digits * u.seconds : Nat) ∧ 0 < n := by
  constructor
  · intro h
    by_cases hs : ∃ digits u, Spells s digits u
    · obtain ⟨digits, u, hs⟩ := hs
      rw [parseText_of_spells hs] at h
      split_ifs at h with hlength hzero
      cases h
      have hpos := Nat.mul_pos (Nat.pos_of_ne_zero hzero) u.seconds_pos
      exact ⟨digits, u, hs, hlength, by push_cast; rfl, by exact_mod_cast hpos⟩
    · rw [parseText_of_not_spells fun digits u h => hs ⟨digits, u, h⟩] at h
      cases h
  · rintro ⟨digits, u, hs, hlength, rfl, hpos⟩
    have hne : digitsValue digits ≠ 0 := by
      rintro hzero
      rw [hzero, Nat.zero_mul] at hpos
      exact absurd hpos (by decide)
    rw [parseText_of_spells hs, if_pos hlength, if_neg hne]
    push_cast
    rfl

theorem parseText_eq_error_iff {e : WindowError} : parseText s = .error e ↔ Refused s e := by
  constructor
  · intro h
    by_cases hs : ∃ digits u, Spells s digits u
    · obtain ⟨digits, u, hs⟩ := hs
      rw [parseText_of_spells hs] at h
      split_ifs at h with hlength hzero
      · cases h
        exact .notPositive hs hlength hzero
      · cases h
        exact .tooLong hs (Nat.lt_of_not_le hlength)
    · have hnone : ∀ digits u, ¬ Spells s digits u := fun digits u h => hs ⟨digits, u, h⟩
      rw [parseText_of_not_spells hnone] at h
      cases h
      exact .malformed hnone
  · rintro (h | ⟨h, hlength⟩ | ⟨h, hlength, hzero⟩)
    · exact parseText_of_not_spells h
    · rw [parseText_of_spells h, if_neg (Nat.not_le_of_lt hlength)]
    · rw [parseText_of_spells h, if_pos hlength, if_pos hzero]

def textOf (before : List Char) (v : Nat) (suffix after : List Char) : String :=
  String.ofList (before ++ ((toString v).toList ++ suffix) ++ after)

lemma spells_textOf {before suffix after : List Char} (hblank : ∀ c ∈ before ++ after, isBlank c)
    (hs : u.Suffix suffix) (v : Nat) :
    Spells (textOf before v suffix after) (Nat.toDigits 10 v) u where
  digits_ne_nil := Nat.toDigits_ne_nil
  isDecimalDigit c hc := by
    rw [Text.isDecimalDigit, digitValue?_of_isAsciiDigit (isAsciiDigit_of_mem_toDigits hc)]
    rfl
  text := by
    refine ⟨before, suffix, after, ?_, hblank, hs⟩
    rw [textOf, String.toList_ofList, Nat.toString_eq_repr]
    simp

/-- A text is read as a window exactly when it is written as one, with at most as many digits as a
number may have and not as zero, and refused for one of three causes otherwise. Every number above
zero and of no more digits is read back from its text, whatever the unit and the blanks around. -/
theorem reads_exactly_spellings :
    (∀ (s : String) (n : Int), parseText s = .ok n ↔ ∃ digits u, Spells s digits u ∧
      digits.length ≤ digitLimit ∧ n = (digitsValue digits * u.seconds : Nat) ∧ 0 < n) ∧
    (∀ (s : String) (e : WindowError), parseText s = .error e ↔ Refused s e) ∧
    ∀ (v : Nat) (u : WindowUnit) (before suffix after : List Char), 0 < v → v < tenTo digitLimit →
      u.Suffix suffix → (∀ c ∈ before ++ after, isBlank c) →
        parseText (textOf before v suffix after) = .ok (v * u.seconds : Nat) := by
  refine ⟨fun s n => parseText_eq_ok_iff, fun s e => parseText_eq_error_iff, ?_⟩
  intro v u before suffix after hpos hlt hs hblank
  have hlength : (Nat.toDigits 10 v).length ≤ digitLimit :=
    (length_toDigits_le_iff v (by decide)).2 hlt
  have hvalue := digitsValue_toDigits v
  refine parseText_eq_ok_iff.2 ⟨_, u, spells_textOf hblank hs v, hlength, by rw [hvalue], ?_⟩
  exact_mod_cast Nat.mul_pos hpos u.seconds_pos

example : parseText "\u3000٤٢W\n" = .ok 25401600 := by
  decide +kernel

end Window

end TradeCharts
