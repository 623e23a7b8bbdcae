import Mathlib.Data.List.TakeWhile
import Mathlib.Tactic.Common
import TradeCharts.Text.Blank

/-! Trimming removes a run of the class at either end, and a text without characters of the class is
what is left between two such runs. -/
namespace TradeCharts.Text

variable {p : Char → Bool}

theorem exists_trimBoth (p : Char → Bool) (cs : List Char) :
    ∃ before after, cs = before ++ trimBoth p cs ++ after ∧ ∀ c ∈ before ++ after, p c := by
  have hback := List.takeWhile_append_dropWhile (p := p) (l := (cs.dropWhile p).reverse)
  have hrest : cs.dropWhile p = trimBoth p cs ++ ((cs.dropWhile p).reverse.takeWhile p).reverse := by
    rw [trimBoth, ← List.reverse_append, hback, List.reverse_reverse]
  refine ⟨cs.takeWhile p, ((cs.dropWhile p).reverse.takeWhile p).reverse, ?_, fun c hc => ?_⟩
  · rw [List.append_assoc, ← hrest, List.takeWhile_append_dropWhile]
  · rcases List.mem_append.1 hc with hc | hc
    · exact List.mem_takeWhile_imp hc
    · exact List.mem_takeWhile_imp (List.mem_reverse.1 hc)

lemma dropWhile_append_of_head {c : Char} (hc : p c = false) {before : List Char}
    (hbefore : ∀ d ∈ before, p d) (rest : List Char) :
    (before ++ c :: rest).dropWhile p = c :: rest := by
  rw [List.dropWhile_append_of_pos hbefore, List.dropWhile_cons_of_neg (by simp [hc])]

theorem trimBoth_append {before body after : List Char} (hbefore : ∀ c ∈ before, p c)
    (hafter : ∀ c ∈ after, p c) (hne : body ≠ []) (hbody : ∀ c ∈ body, p c = false) :
    trimBoth p (before ++ body ++ after) = body := by
  obtain ⟨c, rest, hfront⟩ := List.exists_cons_of_ne_nil hne
  obtain ⟨d, last, hback⟩ := List.exists_cons_of_ne_nil (mt List.reverse_eq_nil_iff.1 hne)
  have hc : p c = false := hbody c (by simp [hfront])
  have hd : p d = false := hbody d (List.mem_reverse.1 (by simp [hback]))
  have hdropped : (before ++ body ++ after).dropWhile p = body ++ after := by
    rw [List.append_assoc, hfront, List.cons_append, dropWhile_append_of_head hc hbefore]
  have hafter' : ∀ c ∈ after.reverse, p c := fun c hc => hafter c (List.mem_reverse.1 hc)
  rw [trimBoth, hdropped, List.reverse_append, hback, dropWhile_append_of_head hd hafter', ← hback,
    List.reverse_reverse]

end TradeCharts.Text
