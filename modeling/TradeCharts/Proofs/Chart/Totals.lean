import TradeCharts.Proofs.Chart.Specification
import TradeCharts.Proofs.Numeric.Sum

/-!
The totals of a chart: sums of finite amounts that are not below zero. Usable trades have a base
amount above zero, so the base total of a moment with trades and the volume of a bucket with trades
are above zero (`zero_lt_baseAt`, `zero_lt_volumeAt`). No total is ever NaN, but it may overflow:
it is finite when none of the additions that make it up overflows (`isFinite_sum_iff`).
-/
namespace TradeCharts

namespace History

variable {xs : List Float}

theorem zero_lt_sum (h : ∀ x ∈ xs, 0.0 < x) (hne : xs ≠ []) : 0.0 < sum xs := by
  induction xs using List.reverseRecOn with
  | nil => exact absurd rfl hne
  | append_singleton xs x _ =>
    have hxs : 0.0 ≤ sum xs := zero_le_sum fun y hy => Binary64.zero_le_of_lt (h y (by simp [hy]))
    have hx : 0.0 < x := h x (by simp)
    rw [sum_append_singleton]
    exact Binary64.zero_lt_add hxs hx

/-- Whether every addition on the way to a total stays below the values that round to infinity. -/
def InRange (xs : List Float) : Prop :=
  ∀ ys x, ys ++ [x] <+: xs →
    Binary64.toRat (sum ys) + Binary64.toRat x < Binary64.overflowFrom

lemma inRange_nil : InRange [] := by
  intro ys x hp
  simp at hp

/-- A total that has overflowed stays infinite, since no amount is negative. -/
theorem isFinite_sum_iff (h : ∀ x ∈ xs, 0.0 ≤ x ∧ x.isFinite) :
    (sum xs).isFinite ↔ InRange xs := by
  induction xs using List.reverseRecOn with
  | nil => exact iff_of_true (by decide) inRange_nil
  | append_singleton xs x ih =>
    have hxs : ∀ y ∈ xs, 0.0 ≤ y ∧ y.isFinite := fun y hy => h y (by simp [hy])
    have hsum : 0.0 ≤ sum xs := zero_le_sum fun y hy => (hxs y hy).1
    obtain ⟨hx, fx⟩ := h x (by simp)
    rw [sum_append_singleton, Binary64.isFinite_add_iff hsum hx fx, ih hxs]
    constructor
    · rintro ⟨hbefore, hlast⟩ ys y hp
      rcases List.prefix_concat_iff.1 hp with he | hp
      · obtain ⟨hys, hy⟩ := List.append_inj' he rfl
        rw [hys, List.singleton_inj.1 hy]
        exact hlast
      · exact hbefore ys y hp
    · intro hall
      refine ⟨fun ys y hp => hall ys y (List.prefix_concat_iff.2 (.inr hp)), ?_⟩
      exact hall xs x (List.prefix_refl _)

end History

theorem Trade.isFinite_baseAmount (t : Trade) (base : String) : (t.baseAmount base).isFinite :=
  (t.isMagnitude_baseAmount base).isFinite

namespace View

variable {v : View} {trades : List Trade} {t : Trade} {buying : Bool} {time start : Int}

lemma mem_usable : t ∈ v.usable trades ↔ t ∈ trades ∧ v.Usable t := by
  rw [usable, List.mem_filter, decide_eq_true_eq]

lemma mem_usableSide :
    t ∈ v.usableSide buying trades ↔ t ∈ v.usable trades ∧ t.buys v.base = buying := by
  rw [usableSide, List.mem_filter, beq_iff_eq]

lemma Usable.admits (h : v.Usable t) : v.admits t :=
  ((v.usable_iff t).1 h).1

theorem Usable.zero_lt_baseAmount (h : v.Usable t) : 0.0 < t.baseAmount v.base :=
  Binary64.zero_lt_of_beq_eq_false (t.zero_le_baseAmount v.base) h.base

/-- The usable trades of one direction in a bucket, in their order. -/
def barTrades (v : View) (buying : Bool) (trades : List Trade) (start : Int) : List Trade :=
  (v.usableSide buying trades).filter (v.bucketFloor ·.timestamp = start)

lemma barTrades_ne_nil : v.barTrades buying trades start ≠ [] ↔
    ∃ t ∈ v.usableSide buying trades, v.bucketFloor t.timestamp = start := by
  simp [barTrades, List.filter_eq_nil_iff]

lemma usable_of_mem_barTrades (h : t ∈ v.barTrades buying trades start) : v.Usable t :=
  (mem_usable.1 (mem_usableSide.1 (List.mem_filter.1 h).1).1).2

lemma volumeAt_eq (v : View) (buying : Bool) (trades : List Trade) (start : Int) :
    v.volumeAt buying trades start =
      History.sum ((v.barTrades buying trades start).map (·.baseAmount v.base)) := rfl

lemma zero_lt_sum_baseAmount {ts : List Trade} (h : ∀ t ∈ ts, v.Usable t) (hne : ts ≠ []) :
    0.0 < History.sum (ts.map (·.baseAmount v.base)) := by
  refine History.zero_lt_sum (fun x hx => ?_) (by simpa using hne)
  obtain ⟨t, ht, rfl⟩ := List.mem_map.1 hx
  exact (h t ht).zero_lt_baseAmount

theorem zero_lt_baseAt (h : ∃ t ∈ v.usable trades, t.timestamp = time) :
    0.0 < v.baseAt trades time := by
  obtain ⟨t, ht, htime⟩ := h
  refine zero_lt_sum_baseAmount (fun u hu => ?_)
    (List.ne_nil_of_mem (List.mem_filter.2 ⟨ht, decide_eq_true htime⟩))
  exact (mem_usable.1 (List.mem_filter.1 hu).1).2

theorem zero_lt_volumeAt (h : ∃ t ∈ v.usableSide buying trades, v.bucketFloor t.timestamp = start) :
    0.0 < v.volumeAt buying trades start :=
  zero_lt_sum_baseAmount (fun _ hu => usable_of_mem_barTrades hu) (barTrades_ne_nil.2 h)

/-- The base total of a moment with usable trades needs no guard. -/
theorem mem_prices_iff_traded {palette : Palette} {p : PricePoint} :
    p ∈ (v.chart palette trades).prices ↔ (∃ t ∈ v.usable trades, t.timestamp = p.time) ∧
      (v.quoteAt trades p.time / v.baseAt trades p.time).isFinite ∧
      p.value = v.quoteAt trades p.time / v.baseAt trades p.time := by
  rw [mem_prices_iff]
  constructor
  · intro h
    exact ⟨h.traded, h.finite, h.value⟩
  · rintro ⟨ht, hfinite, hvalue⟩
    exact ⟨ht, zero_lt_baseAt ht, hfinite, hvalue⟩

theorem zero_le_quoteAt (v : View) (trades : List Trade) (time : Int) :
    0.0 ≤ v.quoteAt trades time := by
  refine History.zero_le_sum fun x hx => ?_
  obtain ⟨t, -, rfl⟩ := List.mem_map.1 hx
  exact t.zero_le_quoteAmount v.base

end View

end TradeCharts
