import Mathlib.Tactic.Common
import TradeCharts.Pair
import TradeCharts.Proofs.Timeline.Gather

/-! The default pair is that of the earliest trade, of several the one listed first
(`oldestTrade?_eq_some_iff`). Of trades in order of time that is the first one, and its pair is the
first that is listed. -/
namespace TradeCharts

/-- The earliest trade of a list; of several the one listed first. -/
structure IsOldest (trades : List Trade) (t : Trade) : Prop where
  least : ∀ u ∈ trades, t.timestamp ≤ u.timestamp
  first : (Timeline.itemsAt Trade.timestamp trades t.timestamp).head? = some t

lemma IsOldest.mem {trades : List Trade} {t : Trade} (h : IsOldest trades t) : t ∈ trades :=
  (List.mem_filter.1 (List.mem_of_head? h.first)).1

lemma IsOldest.unique {trades : List Trade} {t u : Trade} (ht : IsOldest trades t)
    (hu : IsOldest trades u) : t = u := by
  have htu := ht.least u hu.mem
  have hut := hu.least t ht.mem
  have htime : t.timestamp = u.timestamp := by omega
  have hfirst := ht.first
  rw [htime, hu.first] at hfirst
  exact (Option.some.inj hfirst).symm

/-- Reading one more trade keeps the earliest one unless the new one is strictly earlier. -/
lemma IsOldest.append_singleton {trades : List Trade} {t : Trade} (ht : IsOldest trades t)
    (u : Trade) : IsOldest (trades ++ [u]) (earlier t u) := by
  unfold earlier
  split_ifs with h
  · have hnone : Timeline.itemsAt Trade.timestamp trades u.timestamp = [] := by
      by_contra hne
      obtain ⟨w, hw, htime⟩ := Timeline.itemsAt_ne_nil.1 hne
      have hle := ht.least w hw
      omega
    constructor
    · intro w hw
      rcases List.mem_append.1 hw with hw | hw
      · have hle := ht.least w hw
        omega
      · exact Int.le_of_eq (congrArg Trade.timestamp (List.mem_singleton.1 hw).symm)
    · rw [Timeline.itemsAt_append_singleton, hnone, if_pos rfl]
      rfl
  · constructor
    · intro w hw
      rcases List.mem_append.1 hw with hw | hw
      · exact ht.least w hw
      · rw [List.mem_singleton.1 hw]
        omega
    · rw [Timeline.itemsAt_append_singleton, List.head?_append, ht.first]
      rfl

lemma isOldest_foldl_earlier (t : Trade) (rest : List Trade) :
    IsOldest (t :: rest) (rest.foldl earlier t) := by
  induction rest using List.reverseRecOn with
  | nil => exact ⟨by simp, by simp [Timeline.itemsAt]⟩
  | append_singleton rest u ih =>
    rw [List.foldl_append, ← List.cons_append]
    exact ih.append_singleton u

theorem oldestTrade?_eq_some_iff {trades : List Trade} {t : Trade} :
    oldestTrade? trades = some t ↔ IsOldest trades t := by
  cases trades with
  | nil =>
    refine iff_of_false (by simp [oldestTrade?]) fun h => ?_
    have hfirst := h.first
    simp [Timeline.itemsAt] at hfirst
  | cons u rest =>
    have hspec := isOldest_foldl_earlier u rest
    rw [oldestTrade?, Option.some.injEq]
    constructor
    · rintro rfl
      exact hspec
    · intro h
      exact hspec.unique h

lemma foldl_earlier_eq {t : Trade} {trades : List Trade}
    (h : ∀ u ∈ trades, t.timestamp ≤ u.timestamp) : trades.foldl earlier t = t := by
  induction trades with
  | nil => rfl
  | cons u trades ih =>
    obtain ⟨hu, htrades⟩ := List.forall_mem_cons.1 h
    have hearlier : earlier t u = t := if_neg (Int.not_lt.2 hu)
    rw [List.foldl_cons, hearlier, ih htrades]

theorem defaultPair?_of_ascending {trades : List Trade}
    (h : trades.Pairwise fun t u => t.timestamp ≤ u.timestamp) :
    defaultPair? trades = (tradedPairs trades).head? := by
  cases trades with
  | nil => rfl
  | cons t trades =>
    rw [defaultPair?, oldestTrade?, foldl_earlier_eq (List.pairwise_cons.1 h).1]
    rfl

lemma Pair.same_iff {p q : Pair} :
    p.same q ↔ p.base.key = q.base.key ∧ p.quote.key = q.quote.key := by
  simp [same]

lemma Pair.same_self (p : Pair) : p.same p :=
  same_iff.2 ⟨rfl, rfl⟩

theorem indexIn?_default_of_ascending {trades : List Trade}
    (h : trades.Pairwise fun t u => t.timestamp ≤ u.timestamp) :
    (defaultPair? trades).bind (·.indexIn? (tradedPairs trades)) = trades.head?.map fun _ => 0 := by
  rw [defaultPair?_of_ascending h]
  cases trades with
  | nil => rfl
  | cons t trades =>
    have hlist : tradedPairs (t :: trades) =
        t.canonicalPair :: (firstOfEachPair [t.pairKey] trades).map Trade.canonicalPair := rfl
    rw [hlist, List.head?_cons, Option.bind_some, Pair.indexIn?, List.findIdx?_cons,
      if_pos (Pair.same_self _)]
    rfl

end TradeCharts
