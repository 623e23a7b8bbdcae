import Mathlib.Tactic.Common
import TradeCharts.Text.LowerCase

/-!
What lower-casing can bring in. Every character becomes itself, its image in a run of the table, or
one of three forms that need more than a table (`lowered_lowerBetween`). All mapped letters become
characters from `a` on, so signs and digits of ASCII stand in the lower-case form of a text only where
the text has them.
-/
namespace TradeCharts.Text

/-- The images of a run are characters that do not come before `a`. -/
def CaseRun.imagesFromA (r : CaseRun) : Bool :=
  97 ≤ r.span.first + r.shift &&
    (r.span.last + r.shift < 0xD800 ||
      (0xDFFF < r.span.first + r.shift && r.span.last + r.shift < 0x110000))

theorem lowerRuns_imagesFromA : ∀ r ∈ lowerRuns, r.imagesFromA := by
  decide +kernel

/-- The image of a code point is the character at the distance of its run. -/
theorem CaseRun.toNat_image {r : CaseRun} (hr : r.imagesFromA) {m n : Nat}
    (h : r.image? m = some n) :
    r.span.contains m ∧ ((Char.ofNat n).toNat : Int) = m + r.shift := by
  unfold image? at h
  split_ifs at h with hm
  cases h
  simp only [imagesFromA, Span.contains, Bool.and_eq_true, Bool.or_eq_true,
    decide_eq_true_eq] at hr hm ⊢
  have hvalid : (m + r.shift).toNat.isValidChar := by
    unfold Nat.isValidChar
    omega
  have htoNat : (Char.ofNat (m + r.shift).toNat).toNat = (m + r.shift).toNat := by
    rw [Char.ofNat, dif_pos hvalid]
    rfl
  omega

/-- The forms that do not come from the table: that of the dotted capital and the two of the sigma. -/
def specialForms : List (List Char) :=
  [['i', '\u0307'], ['σ'], ['ς']]

lemma of_mem_specialForms {p : Char → Bool} (hp : specialForms.flatten.all p) {cs : List Char}
    (h : cs ∈ specialForms) {d : Char} (hd : d ∈ cs) : p d :=
  List.all_eq_true.1 hp d (List.mem_flatten.2 ⟨cs, h, hd⟩)

inductive Lowered (c : Char) : List Char → Prop where
  | itself : Lowered c [c]
  | image {r : CaseRun} {d : Char} (hr : r ∈ lowerRuns) (hc : r.span.contains c.toNat)
      (hd : (d.toNat : Int) = c.toNat + r.shift) : Lowered c [d]
  | special {cs : List Char} (h : cs ∈ specialForms) : Lowered c cs

theorem lowered_lowerChar (c : Char) : Lowered c (lowerChar c) := by
  unfold lowerChar
  split_ifs
  · exact .special (by decide)
  · split
    · next n hn =>
      obtain ⟨r, hr, hi⟩ := List.exists_of_findSome?_eq_some hn
      obtain ⟨hc, hd⟩ := CaseRun.toNat_image (lowerRuns_imagesFromA r hr) hi
      exact .image hr hc hd
    · exact .itself

theorem lowered_lowerBetween (before : List Char) (c : Char) (after : List Char) :
    Lowered c (lowerBetween before c after) := by
  unfold lowerBetween
  split_ifs
  · exact .special (by decide)
  · exact .special (by decide)
  · exact lowered_lowerChar c

lemma Lowered.ne_nil {c : Char} {cs : List Char} (h : Lowered c cs) : cs ≠ [] := by
  cases h with
  | itself | image => exact List.cons_ne_nil _ _
  | special h => rintro rfl; exact absurd h (by decide)

lemma Lowered.of_mem {c d : Char} {cs : List Char} (h : Lowered c cs) (hd : d ∈ cs) :
    d = c ∨ 97 ≤ d.toNat := by
  cases h with
  | itself => exact .inl (List.mem_singleton.1 hd)
  | image hr hc he =>
    have hfrom := lowerRuns_imagesFromA _ hr
    simp only [CaseRun.imagesFromA, Span.contains, Bool.and_eq_true, decide_eq_true_eq] at hfrom hc
    rw [List.mem_singleton.1 hd]
    omega
  | special h =>
    have hfrom := of_mem_specialForms (p := fun d => 97 ≤ d.toNat) (by decide +kernel) h hd
    exact .inr (of_decide_eq_true hfrom)

theorem mem_lowerAfter {cs : List Char} {d : Char} (hd : d.toNat < 97) :
    ∀ {before : List Char}, d ∈ lowerAfter before cs → d ∈ cs := by
  induction cs with
  | nil => simp [lowerAfter]
  | cons c rest ih =>
    intro before h
    rcases List.mem_append.1 h with h | h
    · rcases (lowered_lowerBetween before c rest).of_mem h with rfl | h
      · exact List.mem_cons_self
      · omega
    · exact List.mem_cons_of_mem _ (ih h)

/-- A character before `a` is in a lower-case text only if it was in the text. -/
theorem mem_of_mem_lower {s : String} {d : Char} (hd : d.toNat < 97)
    (h : d ∈ (lower s).toList) : d ∈ s.toList := by
  rw [lower, String.toList_ofList] at h
  exact mem_lowerAfter hd h

/-- Without a capital sigma no character depends on its neighbours. -/
theorem lowerAfter_eq_flatMap {cs : List Char} (h : ∀ c ∈ cs, c.toNat ≠ 0x3A3)
    (before : List Char) : lowerAfter before cs = cs.flatMap lowerChar := by
  induction cs generalizing before with
  | nil => rfl
  | cons c rest ih =>
    obtain ⟨hc, hrest⟩ := List.forall_mem_cons.1 h
    rw [lowerAfter, ih hrest, lowerBetween, if_neg hc, List.flatMap_cons]

end TradeCharts.Text
