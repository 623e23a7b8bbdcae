import Mathlib.Data.Rat.Floor
import TradeCharts.Proofs.Gaps
import TradeCharts.Proofs.Numeric.Nearest
import TradeCharts.Proofs.Trade.Exchange

/-!
The statistics of gaps are exact up to the final rounding (`stats?_exact`). The gaps between times
in order add up to the time from the first to the last, so their floored mean lies between the
shortest and the longest of them, and rounding keeps that order.
-/
namespace TradeCharts.Gaps

open Binary64

/-- The gaps between consecutive times of a list. -/
def gapsOf (ts : List Int) : Set Int :=
  {gap | ∃ i s t, ts[i]? = some s ∧ ts[i + 1]? = some t ∧ gap = t - s}

lemma mem_gapsOf {ts : List Int} {gap : Int} : gap ∈ gapsOf ts ↔ gap ∈ differences ts := by
  rw [List.mem_iff_getElem?]
  simp only [differences, List.getElem?_zipWith_eq_some, List.getElem?_tail]
  constructor
  · rintro ⟨i, s, t, hs, ht, rfl⟩
    exact ⟨i, s, t, hs, ht, rfl⟩
  · rintro ⟨i, s, t, hs, ht, rfl⟩
    exact ⟨i, s, t, hs, ht, rfl⟩

lemma length_differences (ts : List Int) : (differences ts).length = ts.length - 1 := by
  simp [differences]

/-- The gaps add up to the time from the first to the last moment. -/
lemma foldl_differences (s : Int) (ts : List Int) (sum : Int) :
    (differences (s :: ts)).foldl (· + ·) sum = sum + ((s :: ts).getLast (by simp) - s) := by
  induction ts generalizing s sum with
  | nil => simp [differences]
  | cons t ts ih =>
    rw [differences_cons_cons, List.foldl_cons, ih, List.getLast_cons_cons]
    ring

/-- Times in order that are those of some trades within bounds. -/
structure InOrder (b : Bounds) (trades : List Trade) (ts : List Int) : Prop where
  ascending : ts.Pairwise (· ≤ ·)
  perm : ts.Perm ((trades.map (·.timestamp)).filter fun time =>
    (∀ s ∈ b.start, s ≤ time) ∧ ∀ s ∈ b.stop, time ≤ s)

/-- Statistics that are exact up to the final rounding, for times in order with a shortest and a
longest gap. -/
structure Exact (ts : List Int) (shortest longest : Int) (st : GapStats) : Prop where
  average : ∃ first last, ts.head? = some first ∧ ts.getLast? = some last ∧
    IsNearest st.average ⌊((last - first : Int) : ℚ) / (ts.length - 1 : Nat)⌋
  minimum : IsNearest st.minimum shortest
  maximum : IsNearest st.maximum longest
  nonneg : 0.0 ≤ st.minimum
  minimum_le : st.minimum ≤ st.average
  le_maximum : st.average ≤ st.maximum

lemma admits_iff (b : Bounds) (time : Int) :
    b.admits time ↔ (∀ s ∈ b.start, s ≤ time) ∧ ∀ s ∈ b.stop, time ≤ s := by
  obtain ⟨_ | s, _ | e⟩ := b <;> simp [Bounds.admits]

/-- Sorting leaves no choice: times in order are determined by the trades. -/
lemma InOrder.times_eq {b : Bounds} {trades : List Trade} {ts : List Int}
    (h : InOrder b trades ts) : times b trades = ts := by
  have hfilter : (trades.map (·.timestamp)).filter b.admits =
      (trades.map (·.timestamp)).filter fun time =>
        (∀ s ∈ b.start, s ≤ time) ∧ ∀ s ∈ b.stop, time ≤ s :=
    List.filter_congr fun time _ => by rw [Bool.eq_iff_iff, admits_iff, decide_eq_true_iff]
  have hperm : (times b trades).Perm ts :=
    (List.mergeSort_perm _ _).trans (hfilter ▸ h.perm.symm)
  exact hperm.eq_of_pairwise (fun _ _ _ _ => le_antisymm) (pairwise_times b trades) h.ascending

lemma InOrder.of_perm {b : Bounds} {trades trades' : List Trade} {ts : List Int}
    (h : InOrder b trades ts) (hperm : trades'.Perm trades) : InOrder b trades' ts :=
  ⟨h.ascending, h.perm.trans (((hperm.map _).filter _).symm)⟩

lemma ofDifferences?_cons_eq_some {gap : Int} {rest : List Int} {st : GapStats}
    (h : ofDifferences? (gap :: rest) = some st) :
    ofInt? ((rest.foldl (· + ·) gap).fdiv (rest.length + 1)) = some st.average ∧
      ofInt? (rest.foldl min gap) = some st.minimum ∧
      ofInt? (rest.foldl max gap) = some st.maximum := by
  rw [ofDifferences?] at h
  simp only [Option.bind_eq_bind, Option.bind_eq_some_iff, Option.pure_def, Option.some.injEq] at h
  obtain ⟨average, ha, minimum, hmin, maximum, hmax, rfl⟩ := h
  exact ⟨ha, hmin, hmax⟩

lemma isLeast_foldl_min (gap : Int) (rest : List Int) :
    IsLeast {g | g ∈ gap :: rest} (rest.foldl min gap) :=
  List.min?_eq_some_iff.1 List.min?_cons'

lemma isGreatest_foldl_max (gap : Int) (rest : List Int) :
    IsGreatest {g | g ∈ gap :: rest} (rest.foldl max gap) :=
  List.max?_eq_some_iff.1 List.max?_cons'

/-- The mean gap is floored before it is rounded to a double. -/
lemma fdiv_foldl_differences (s t : Int) (ts : List Int) :
    ((differences (t :: ts)).foldl (· + ·) (t - s)).fdiv ((differences (t :: ts)).length + 1) =
      ⌊(((t :: ts).getLast (by simp) - s : Int) : ℚ) / ((s :: t :: ts).length - 1 : Nat)⌋ := by
  have hlength :
      ((differences (t :: ts)).length + 1 : Int) = ((s :: t :: ts).length - 1 : Nat) := by
    rw [length_differences]
    rfl
  rw [foldl_differences, hlength, Int.fdiv_eq_ediv_of_nonneg _ (Int.natCast_nonneg _),
    Rat.floor_intCast_div_natCast]
  congr 1
  ring

variable {b : Bounds} {trades : List Trade} {s t : Int} {ts : List Int}

theorem InOrder.exact {st : GapStats} (h : InOrder b trades (s :: t :: ts))
    (hst : stats? b trades = some st) :
    Exact (s :: t :: ts) ((differences (t :: ts)).foldl min (t - s))
      ((differences (t :: ts)).foldl max (t - s)) st := by
  rw [stats?, h.times_eq, differences_cons_cons] at hst
  obtain ⟨haverage, hminimum, hmaximum⟩ := ofDifferences?_cons_eq_some hst
  have hnonneg := differences_nonneg h.ascending
  rw [differences_cons_cons] at hnonneg
  have hleast := isLeast_foldl_min (t - s) (differences (t :: ts))
  have hgreatest := isGreatest_foldl_max (t - s) (differences (t :: ts))
  have hpositive := hnonneg _ hleast.1
  obtain ⟨hlow, hhigh⟩ := average_bounds fun g hg => ⟨hleast.2 hg, hgreatest.2 hg⟩
  have hmean := hpositive.trans hlow
  have hzero : ofInt? 0 = some 0.0 := by decide +kernel
  have hlast : (s :: t :: ts).getLast? = some ((t :: ts).getLast (by simp)) := by
    rw [List.getLast?_cons_cons]
    exact List.getLast?_eq_some_getLast _
  refine ⟨⟨s, _, rfl, hlast, ?_⟩, isNearest_of_ofInt? hpositive hminimum,
    isNearest_of_ofInt? (hmean.trans hhigh) hmaximum, le_of_ofInt? le_rfl hpositive hzero hminimum,
    le_of_ofInt? hpositive hlow hminimum haverage, le_of_ofInt? hmean hhigh haverage hmaximum⟩
  rw [← fdiv_foldl_differences]
  exact isNearest_of_ofInt? hmean haverage

/-- The statistics are exact up to the final rounding, do not depend on the order of the trades, and
are missing just when the longest gap is beyond the doubles. -/
theorem stats?_exact {ts : List Int} (h : InOrder b trades ts) :
    (ts.length < 2 → stats? b trades = some ⟨0.0, 0.0, 0.0⟩) ∧
    (2 ≤ ts.length → ∃ shortest longest, IsLeast (gapsOf ts) shortest ∧
      IsGreatest (gapsOf ts) longest ∧
      (stats? b trades = none ↔ (overflowFrom : Int) ≤ longest) ∧
      ∀ st, stats? b trades = some st → Exact ts shortest longest st) ∧
    ∀ trades' : List Trade, trades'.Perm trades → stats? b trades' = stats? b trades := by
  refine ⟨fun hlength => ?_, fun hlength => ?_, fun trades' hperm => ?_⟩
  · have hnone : differences ts = [] := by
      rw [← List.length_eq_zero_iff, length_differences]
      omega
    rw [stats?, h.times_eq, hnone]
    rfl
  · match ts, hlength with
    | s :: t :: ts, _ =>
      have hgaps : gapsOf (s :: t :: ts) = {g | g ∈ (t - s) :: differences (t :: ts)} :=
        Set.ext fun g => mem_gapsOf
      have hgreatest := isGreatest_foldl_max (t - s) (differences (t :: ts))
      rw [hgaps]
      refine ⟨_, _, isLeast_foldl_min _ _, hgreatest, ?_, fun st hst => h.exact hst⟩
      rw [← Option.not_isSome_iff_eq_none, stats?_isSome_iff, h.times_eq, differences_cons_cons,
        ← foldl_max_lt_iff, Int.not_lt]
  · rw [stats?, stats?, (h.of_perm hperm).times_eq, h.times_eq]

/-- The last trade is out of bounds, and the gaps of 3 and 8 seconds have a mean that is floored. -/
theorem stats?_exact_three :
    let trades : List Trade := [.ofAddresses 21 "a" "b", .ofAddresses 10 "a" "b",
      .ofAddresses 13 "b" "c", .ofAddresses 40 "a" "b"]
    InOrder ⟨none, some 30⟩ trades [10, 13, 21] ∧
    ∃ st, stats? ⟨none, some 30⟩ trades = some st ∧
      IsNearest st.average 5 ∧ IsNearest st.minimum 3 ∧ IsNearest st.maximum 8 := by
  intro trades
  have horder : InOrder ⟨none, some 30⟩ trades [10, 13, 21] := ⟨by decide, by decide⟩
  obtain ⟨-, hmany, -⟩ := stats?_exact horder
  obtain ⟨shortest, longest, hshortest, hlongest, hnone, hexact⟩ := hmany (by decide)
  have hgaps : gapsOf [10, 13, 21] = {3, 8} := Set.ext fun g => by simp [mem_gapsOf, differences]
  rw [hgaps] at hshortest hlongest
  have hleast : IsLeast ({3, 8} : Set Int) 3 := ⟨by simp, by simp [lowerBounds]⟩
  have hgreatest : IsGreatest ({3, 8} : Set Int) 8 := ⟨by simp, by simp [upperBounds]⟩
  obtain rfl := hshortest.unique hleast
  obtain rfl := hlongest.unique hgreatest
  have hfinite : ¬ (overflowFrom : Int) ≤ 8 := by decide +kernel
  obtain ⟨st, hst⟩ := Option.ne_none_iff_exists'.1 (mt hnone.1 hfinite)
  obtain ⟨⟨first, last, hfirst, hlast, haverage⟩, hminimum, hmaximum, -⟩ := hexact st hst
  have hten : first = 10 := (Option.some.inj hfirst).symm
  have htwentyone : last = 21 := (Option.some.inj hlast).symm
  have hmean : ⌊((21 - 10 : Int) : ℚ) / (([10, 13, 21] : List Int).length - 1 : Nat)⌋ = 5 := by
    norm_num [Int.floor_eq_iff]
  rw [hten, htwentyone, hmean] at haverage
  exact ⟨horder, st, hst, haverage, hminimum, hmaximum⟩

end TradeCharts.Gaps
