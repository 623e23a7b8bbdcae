import TradeCharts.Proofs.Text.Digits
import TradeCharts.Proofs.Text.LowerCase

/-! Lower-casing and decimal digits: it changes none, and it makes none of another character. -/
namespace TradeCharts.Text

variable {c d : Char} {cs : List Char}

/-- Whether a run neither maps a decimal digit nor has one as an image. -/
def CaseRun.missesDigits (r : CaseRun) : Bool :=
  zeroDigits.all fun z => (r.span.last < z || z + 9 < r.span.first) &&
    (r.span.last + r.shift < z || z + 9 < r.span.first + r.shift)

lemma lowerRuns_missesDigits : ∀ r ∈ lowerRuns, r.missesDigits := by
  decide +kernel

lemma CaseRun.missesDigits_iff {r : CaseRun} : r.missesDigits ↔ ∀ z ∈ zeroDigits,
    (r.span.last < z ∨ z + 9 < r.span.first) ∧
      ((r.span.last : Int) + r.shift < z ∨ (z : Int) + 9 < r.span.first + r.shift) := by
  simp [missesDigits]

lemma lowerChar_of_isDecimalDigit (h : isDecimalDigit c) : lowerChar c = [c] := by
  obtain ⟨z, hz, hspan⟩ := exists_script h
  have hdotted : c.toNat ≠ 0x130 :=
    forall_isDecimalDigit (p := fun c => c.toNat ≠ 0x130) (by decide +kernel) h
  have hnone : lowerRuns.findSome? (·.image? c.toNat) = none := by
    refine List.findSome?_eq_none_iff.2 fun r hr => ?_
    obtain ⟨hmiss, -⟩ := CaseRun.missesDigits_iff.1 (lowerRuns_missesDigits r hr) z hz
    refine if_neg fun hc => ?_
    simp only [Span.contains, Bool.and_eq_true, decide_eq_true_eq] at hc
    omega
  rw [lowerChar, if_neg hdotted, hnone]

lemma flatMap_lowerChar_digits (h : ∀ c ∈ cs, isDecimalDigit c) : cs.flatMap lowerChar = cs := by
  induction cs with
  | nil => rfl
  | cons c cs ih =>
    obtain ⟨hc, hcs⟩ := List.forall_mem_cons.1 h
    rw [List.flatMap_cons, lowerChar_of_isDecimalDigit hc, ih hcs]
    rfl

/-- A digit is no blank and no capital sigma. -/
lemma plain_of_isDecimalDigit (h : isDecimalDigit c) : isBlank c = false ∧ c.toNat ≠ 0x3A3 :=
  forall_isDecimalDigit (p := fun c => isBlank c = false ∧ c.toNat ≠ 0x3A3) (by decide +kernel) h

lemma eq_of_isDecimalDigit (h : Lowered c cs) (hmem : d ∈ cs) (hd : isDecimalDigit d) :
    c = d ∧ cs = [d] := by
  cases h with
  | itself =>
    obtain rfl := List.mem_singleton.1 hmem
    exact ⟨rfl, rfl⟩
  | @image r e hr hc he =>
    obtain rfl := List.mem_singleton.1 hmem
    obtain ⟨z, hz, hspan⟩ := exists_script hd
    obtain ⟨-, hmiss⟩ := CaseRun.missesDigits_iff.1 (lowerRuns_missesDigits r hr) z hz
    simp only [Span.contains, Bool.and_eq_true, decide_eq_true_eq] at hc
    omega
  | special h =>
    have hnone := of_mem_specialForms (p := fun d => !isDecimalDigit d) (by decide +kernel) h hmem
    rw [hd] at hnone
    cases hnone

lemma lowerAfter_eq_nil {before : List Char} (h : lowerAfter before cs = []) : cs = [] := by
  cases cs with
  | nil => rfl
  | cons c cs =>
    exact absurd (List.append_eq_nil_iff.1 h).1 (lowered_lowerBetween before c cs).ne_nil

end TradeCharts.Text
