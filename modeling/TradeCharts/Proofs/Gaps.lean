import Mathlib.Tactic.Common
import TradeCharts.Gaps
import TradeCharts.Proofs.Numeric.Rounding

/-! When the gaps between trades have statistics: when all of them are within the doubles. The mean
and the shortest gap lie between zero and the longest one. -/
namespace TradeCharts.Gaps

open Binary64

lemma pairwise_times (b : Bounds) (trades : List Trade) : (times b trades).Pairwise (· ≤ ·) := by
  have h : (times b trades).Pairwise fun s t => decide (s ≤ t) :=
    List.pairwise_mergeSort (by simp; omega) (by simp; omega) _
  simpa using h

lemma differences_cons_cons (s t : Int) (ts : List Int) :
    differences (s :: t :: ts) = (t - s) :: differences (t :: ts) := rfl

lemma differences_nonneg {ts : List Int} (h : ts.Pairwise (· ≤ ·)) :
    ∀ gap ∈ differences ts, 0 ≤ gap := by
  induction ts with
  | nil => simp [differences]
  | cons s ts ih =>
    obtain ⟨hs, hts⟩ := List.pairwise_cons.1 h
    cases ts with
    | nil => simp [differences]
    | cons t ts =>
      intro gap hgap
      rw [differences_cons_cons, List.mem_cons] at hgap
      rcases hgap with rfl | hgap
      · have := hs t List.mem_cons_self
        omega
      · exact ih hts gap hgap

lemma foldl_max_lt_iff (gap b : Int) (rest : List Int) :
    rest.foldl max gap < b ↔ ∀ g ∈ gap :: rest, g < b := by
  induction rest generalizing gap with
  | nil => simp
  | cons g rest ih =>
    rw [List.foldl_cons, ih]
    simp only [List.mem_cons, forall_eq_or_imp, Int.max_lt, and_assoc]

lemma le_foldl_max (gap : Int) (rest : List Int) : gap ≤ rest.foldl max gap := by
  by_contra h
  have := (foldl_max_lt_iff gap gap rest).1 (Int.not_le.1 h) gap List.mem_cons_self
  omega

lemma foldl_min_le (gap : Int) (rest : List Int) : rest.foldl min gap ≤ gap := by
  induction rest generalizing gap with
  | nil => simp
  | cons g rest ih =>
    have := ih (min gap g)
    rw [List.foldl_cons]
    omega

lemma foldl_min_nonneg {gap : Int} {rest : List Int} (h : ∀ g ∈ gap :: rest, 0 ≤ g) :
    0 ≤ rest.foldl min gap := by
  induction rest generalizing gap with
  | nil => simpa using h
  | cons g rest ih =>
    rw [List.foldl_cons]
    refine ih ?_
    simp only [List.mem_cons, forall_eq_or_imp] at h ⊢
    exact ⟨by omega, h.2.2⟩

lemma foldl_add_bounds {a b : Int} {gaps : List Int} (h : ∀ g ∈ gaps, a ≤ g ∧ g ≤ b) (sum : Int) :
    sum + gaps.length * a ≤ gaps.foldl (· + ·) sum ∧
      gaps.foldl (· + ·) sum ≤ sum + gaps.length * b := by
  induction gaps generalizing sum with
  | nil => simp
  | cons g gaps ih =>
    obtain ⟨hg, hgaps⟩ := List.forall_mem_cons.1 h
    have := ih hgaps (sum + g)
    rw [List.foldl_cons, List.length_cons, Int.natCast_add, Int.add_mul, Int.add_mul]
    omega

/-- The floored mean of whole numbers lies within their bounds. -/
lemma average_bounds {gap a b : Int} {rest : List Int} (h : ∀ g ∈ gap :: rest, a ≤ g ∧ g ≤ b) :
    a ≤ (rest.foldl (· + ·) gap).fdiv (rest.length + 1) ∧
      (rest.foldl (· + ·) gap).fdiv (rest.length + 1) ≤ b := by
  obtain ⟨hgap, hrest⟩ := List.forall_mem_cons.1 h
  obtain ⟨hlow, hhigh⟩ := foldl_add_bounds hrest gap
  rw [Int.fdiv_eq_ediv_of_nonneg _ (by omega)]
  constructor
  · refine Int.le_ediv_of_mul_le (by omega) ?_
    rw [Int.mul_add, Int.mul_comm]
    omega
  · refine Int.ediv_le_of_le_mul (by omega) ?_
    rw [Int.mul_add, Int.mul_comm]
    omega

lemma isSome_ofInt?_iff {n : Int} (hn : 0 ≤ n) : (ofInt? n).isSome ↔ n < overflowFrom := by
  rw [ofInt?_isSome_iff]
  omega

lemma ofDifferences?_cons_isSome (gap : Int) (rest : List Int) :
    (ofDifferences? (gap :: rest)).isSome ↔
      (ofInt? ((rest.foldl (· + ·) gap).fdiv (rest.length + 1))).isSome ∧
        (ofInt? (rest.foldl min gap)).isSome ∧ (ofInt? (rest.foldl max gap)).isSome := by
  rw [ofDifferences?]
  cases ofInt? ((rest.foldl (· + ·) gap).fdiv (rest.length + 1)) with
  | none => simp
  | some average =>
    cases ofInt? (rest.foldl min gap) with
    | none => simp
    | some minimum => cases ofInt? (rest.foldl max gap) <;> simp

theorem ofDifferences?_isSome_iff {gaps : List Int} (h : ∀ gap ∈ gaps, 0 ≤ gap) :
    (ofDifferences? gaps).isSome ↔ ∀ gap ∈ gaps, gap < overflowFrom := by
  cases gaps with
  | nil => exact iff_of_true rfl fun _ hgap => absurd hgap List.not_mem_nil
  | cons gap rest =>
    have hmin := foldl_min_nonneg h
    have hmax := foldl_max_lt_iff gap overflowFrom rest
    have hgap := h gap List.mem_cons_self
    have hminle := foldl_min_le gap rest
    have hlemax := le_foldl_max gap rest
    rw [ofDifferences?_cons_isSome, isSome_ofInt?_iff hmin,
      isSome_ofInt?_iff (Int.le_trans hgap hlemax), ← hmax]
    refine ⟨fun hall => hall.2.2, fun hlongest => ?_⟩
    have hb : ∀ g ∈ gap :: rest, 0 ≤ g ∧ g ≤ (overflowFrom : Int) - 1 := fun g hg =>
      ⟨h g hg, Int.le_sub_one_of_lt (hmax.1 hlongest g hg)⟩
    obtain ⟨hlow, hhigh⟩ := average_bounds hb
    rw [isSome_ofInt?_iff hlow]
    exact ⟨by omega, by omega, hlongest⟩

/-- The gaps between trades have statistics unless one of them is beyond the doubles. -/
theorem stats?_isSome_iff (b : Bounds) (trades : List Trade) :
    (stats? b trades).isSome ↔ ∀ gap ∈ differences (times b trades), gap < overflowFrom :=
  ofDifferences?_isSome_iff (differences_nonneg (pairwise_times b trades))

end TradeCharts.Gaps
