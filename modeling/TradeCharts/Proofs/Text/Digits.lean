import Mathlib.Data.List.Basic
import Mathlib.Data.List.Induction
import Mathlib.Tactic.Common
import TradeCharts.Text.Numeral

/-! How large the number is that a run of digits writes: below the power of ten with their count,
and not below the one before it unless the first digit is a zero. -/
namespace TradeCharts.Text

theorem digitsValue_append_singleton (cs : List Char) (c : Char) :
    digitsValue (cs ++ [c]) = 10 * digitsValue cs + (digitValue? c).getD 0 := by
  simp [digitsValue]

lemma digitValue?_getD_le_nine (c : Char) : (digitValue? c).getD 0 ≤ 9 := by
  cases h : digitValue? c with
  | none => simp
  | some d => exact digitValue?_le_nine h

lemma tenTo_length_append_singleton (cs : List Char) (c : Char) :
    tenTo (cs ++ [c]).length = tenTo cs.length * 10 := by
  rw [List.length_append, List.length_singleton, tenTo_succ]

theorem digitsValue_lt (cs : List Char) : digitsValue cs < tenTo cs.length := by
  induction cs using List.reverseRecOn with
  | nil => simp [digitsValue]
  | append_singleton cs c ih =>
    have hc := digitValue?_getD_le_nine c
    rw [digitsValue_append_singleton, tenTo_length_append_singleton]
    omega

theorem le_digitsValue {c : Char} (hc : 0 < (digitValue? c).getD 0) (cs : List Char) :
    tenTo cs.length ≤ digitsValue (c :: cs) := by
  induction cs using List.reverseRecOn with
  | nil =>
    simp only [List.length_nil, tenTo_zero, digitsValue, List.foldl_cons, List.foldl_nil]
    omega
  | append_singleton cs d ih =>
    rw [← List.cons_append, digitsValue_append_singleton, tenTo_length_append_singleton]
    omega

lemma isAsciiDigit_iff (c : Char) : isAsciiDigit c ↔ 48 ≤ c.toNat ∧ c.toNat ≤ 57 := by
  simp only [isAsciiDigit, Bool.and_eq_true, decide_eq_true_eq, Char.le_def, UInt32.le_iff_toNat_le]
  exact Iff.rfl

theorem digitValue?_of_isAsciiDigit {c : Char} (hc : isAsciiDigit c) :
    digitValue? c = some (c.toNat - 48) := by
  have hb := (isAsciiDigit_iff c).1 hc
  have hf : zeroDigits.find? (fun z => z ≤ c.toNat && c.toNat ≤ z + 9) = some 48 := by
    refine List.find?_cons_of_pos ?_
    simp only [Bool.and_eq_true, decide_eq_true_eq]
    omega
  rw [digitValue?, hf, Option.map_some]

lemma digitValue?_pos {c : Char} (hc : isAsciiDigit c) (h0 : c ≠ '0') :
    0 < (digitValue? c).getD 0 := by
  have hb := (isAsciiDigit_iff c).1 hc
  have hne : c.toNat ≠ 48 := fun h => h0 (Char.toNat_inj.1 h)
  rw [digitValue?_of_isAsciiDigit hc, Option.getD_some]
  omega

theorem tenTo_le_tenTo {m n : Nat} (h : m ≤ n) : tenTo m ≤ tenTo n :=
  Nat.pow_le_pow_right (by decide) h

/-- A number without leading zeros reaches a power of ten exactly when it has more digits. -/
theorem tenTo_le_digitsValue_iff {c : Char} (hc : isAsciiDigit c) (h0 : c ≠ '0') (cs : List Char)
    (n : Nat) : tenTo n ≤ digitsValue (c :: cs) ↔ n < (c :: cs).length := by
  constructor
  · intro h
    by_contra hn
    have hlt := digitsValue_lt (c :: cs)
    have hle := tenTo_le_tenTo (Nat.le_of_not_lt hn)
    omega
  · intro h
    have hle := le_digitsValue (digitValue?_pos hc h0) cs
    have hpow := tenTo_le_tenTo (Nat.le_of_lt_succ h)
    omega

lemma exists_script {c : Char} (hc : isDecimalDigit c) :
    ∃ z ∈ zeroDigits, z ≤ c.toNat ∧ c.toNat ≤ z + 9 := by
  obtain ⟨d, hd⟩ := Option.isSome_iff_exists.1 hc
  obtain ⟨z, hz, -⟩ := Option.map_eq_some_iff.1 hd
  have hspan := List.find?_some hz
  rw [Bool.and_eq_true, decide_eq_true_eq, decide_eq_true_eq] at hspan
  exact ⟨z, List.mem_of_find?_eq_some hz, hspan⟩

/-- What holds of the ten digits of every script holds of every decimal digit. -/
theorem forall_isDecimalDigit {p : Char → Prop}
    (h : ∀ z ∈ zeroDigits, ∀ k < 10, p (Char.ofNat (z + k))) {c : Char} (hc : isDecimalDigit c) :
    p c := by
  obtain ⟨z, hz, hle, hlt⟩ := exists_script hc
  have hp := h z hz (c.toNat - z) (by omega)
  rwa [Nat.add_sub_cancel' hle, Char.ofNat_toNat] at hp

lemma isAsciiDigit_of_mem_toDigits {n : Nat} {c : Char} (h : c ∈ Nat.toDigits 10 n) :
    isAsciiDigit c := by
  have hdigit := Nat.isDigit_of_mem_toDigits (by decide) (by decide) h
  simp only [Char.isDigit, Bool.and_eq_true, decide_eq_true_eq] at hdigit
  exact (isAsciiDigit_iff c).2 hdigit

lemma length_toDigits_le_iff (v : Nat) {n : Nat} (hn : 0 < n) :
    (Nat.toDigits 10 v).length ≤ n ↔ v < tenTo n :=
  Nat.length_toDigits_le_iff (by decide) hn

/-- A number is read back from its decimal text. -/
theorem digitsValue_toDigits (n : Nat) : digitsValue (Nat.toDigits 10 n) = n := by
  have hfold : digitsValue (Nat.toDigits 10 n) = Nat.ofDigitChars 10 (Nat.toDigits 10 n) 0 := by
    refine List.foldl_ext _ _ _ fun value c hc => ?_
    rw [digitValue?_of_isAsciiDigit (isAsciiDigit_of_mem_toDigits hc)]
    rfl
  rw [hfold]
  exact Nat.ofDigitChars_toDigits (by decide) (by decide)

@[simp] theorem natAbs_signed (negative : Bool) (n : Nat) : (signed negative n).natAbs = n := by
  cases negative <;> simp [signed]

lemma isWritable_iff (n : Int) : isWritable n ↔ n.natAbs < tenTo digitLimit := by
  rw [isWritable, decide_eq_true_eq]

theorem isWritable_of_lt {n : Int} (digits : Nat) (h : n.natAbs < tenTo digits)
    (hd : digits ≤ digitLimit) : isWritable n :=
  (isWritable_iff n).2 (Nat.lt_of_lt_of_le h (tenTo_le_tenTo hd))

end TradeCharts.Text
