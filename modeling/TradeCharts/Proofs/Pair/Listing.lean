import Mathlib.Data.String.Basic
import Mathlib.Data.Sym.Sym2
import TradeCharts.Chart
import TradeCharts.Pair
import TradeCharts.Proofs.Text.LowerCase
import TradeCharts.Proofs.Trade.Exchange

/-!
How the traded pairs share out the trades. No trade belongs to two of them. A trade belongs to one
of them exactly when the first trade with its pair key exchanges the same two tokens, so every trade
is shown by some pair as long as no two sets of tokens share a key (`each_trade_listed_once_iff`).
Keys that hold hyphens may collide, as those of `a-b`, `c` and of `a`, `b-c` do.
-/
namespace TradeCharts

namespace Trade

/-- The keys of the two tokens of a trade, in no order. -/
def tokenKeys (t : Trade) : Sym2 String :=
  s(t.inputKey, t.outputKey)

/-- Whether a trade belongs to the chart of a pair. -/
def isOf (t : Trade) (p : Pair) : Bool :=
  t.matches p.base.address p.quote.address

theorem isOf_iff {t : Trade} {p : Pair} : t.isOf p ↔ t.tokenKeys = s(p.base.key, p.quote.key) := by
  simp [isOf, Trade.matches, tokenKeys, Token.key]

theorem keys_canonicalPair (t : Trade) :
    s(t.canonicalPair.base.key, t.canonicalPair.quote.key) = t.tokenKeys := by
  unfold canonicalPair Pair.canonical
  split_ifs
  · rfl
  · exact Sym2.eq_swap

/-- A trade belongs to the pair of another trade when both exchange the same two tokens. -/
theorem isOf_canonicalPair {t u : Trade} : t.isOf u.canonicalPair ↔ t.tokenKeys = u.tokenKeys := by
  rw [isOf_iff, keys_canonicalPair]

end Trade

namespace Pair

/-- A pair key is made of both token keys, in one of the two orders. -/
theorem exists_key_eq (a b : Token) :
    ∃ x y, Pair.key a b = x ++ "-" ++ y ∧ s(x, y) = s(a.key, b.key) := by
  unfold key
  split_ifs
  · exact ⟨b.key, a.key, rfl, Sym2.eq_swap⟩
  · exact ⟨a.key, b.key, rfl, rfl⟩

theorem key_comm (a b : Token) : Pair.key a b = Pair.key b a := by
  unfold key
  rcases lt_trichotomy a.key b.key with h | h | h
  · rw [if_neg h.not_gt, if_pos h]
  · rw [h]
  · rw [if_pos h, if_neg h.not_gt]

theorem key_congr {a b c d : Token} (ha : a.key = c.key) (hb : b.key = d.key) :
    Pair.key a b = Pair.key c d := by
  unfold key
  rw [ha, hb]

end Pair

namespace Trade

theorem pairKey_eq_of_tokenKeys_eq {t u : Trade} (h : t.tokenKeys = u.tokenKeys) :
    t.pairKey = u.pairKey := by
  rcases Sym2.eq_iff.1 h with ⟨hi, ho⟩ | ⟨hi, ho⟩
  · exact Pair.key_congr hi ho
  · exact (Pair.key_congr hi ho).trans (Pair.key_comm _ _)

/-- No address of the trade holds a hyphen. -/
def HyphenFree (t : Trade) : Prop :=
  '-' ∉ t.input.token.address.toList ∧ '-' ∉ t.output.token.address.toList

theorem HyphenFree.not_mem_of_tokenKeys {t : Trade} (h : t.HyphenFree) {x y : String}
    (hk : s(x, y) = t.tokenKeys) : '-' ∉ x.toList ∧ '-' ∉ y.toList := by
  have hi : '-' ∉ t.inputKey.toList := fun hm => h.1 (Text.mem_of_mem_lower (by decide) hm)
  have ho : '-' ∉ t.outputKey.toList := fun hm => h.2 (Text.mem_of_mem_lower (by decide) hm)
  rcases Sym2.eq_iff.1 hk with ⟨rfl, rfl⟩ | ⟨rfl, rfl⟩
  · exact ⟨hi, ho⟩
  · exact ⟨ho, hi⟩

end Trade

/-- A text is cut at its first hyphen in one way only. -/
theorem append_hyphen_inj {x y z w : List Char} (hx : '-' ∉ x) (hz : '-' ∉ z)
    (h : x ++ '-' :: y = z ++ '-' :: w) : x = z ∧ y = w := by
  induction x generalizing z with
  | nil =>
    cases z with
    | nil => exact ⟨rfl, (List.cons.inj h).2⟩
    | cons c z => exact absurd (List.cons.inj h).1 (List.ne_of_not_mem_cons hz)
  | cons c x ih =>
    cases z with
    | nil => exact absurd (List.cons.inj h).1.symm (List.ne_of_not_mem_cons hx)
    | cons d z =>
      obtain ⟨rfl, ht⟩ := List.cons.inj h
      obtain ⟨rfl, rfl⟩ := ih (List.not_mem_of_not_mem_cons hx) (List.not_mem_of_not_mem_cons hz) ht
      exact ⟨rfl, rfl⟩

/-- Without hyphens in the addresses the pair key tells the two tokens. -/
theorem Trade.HyphenFree.tokenKeys_eq {t u : Trade} (ht : t.HyphenFree) (hu : u.HyphenFree)
    (h : t.pairKey = u.pairKey) : t.tokenKeys = u.tokenKeys := by
  obtain ⟨x, y, hxy, hk⟩ := Pair.exists_key_eq t.input.token t.output.token
  obtain ⟨z, w, hzw, hl⟩ := Pair.exists_key_eq u.input.token u.output.token
  have he : x ++ "-" ++ y = z ++ "-" ++ w := by
    rw [← hxy, ← hzw]
    exact h
  have hc : x.toList ++ '-' :: y.toList = z.toList ++ '-' :: w.toList := by
    simpa using congrArg String.toList he
  obtain ⟨hx, hy⟩ := append_hyphen_inj (ht.not_mem_of_tokenKeys hk).1
    (hu.not_mem_of_tokenKeys hl).1 hc
  change s(t.input.token.key, t.output.token.key) = s(u.input.token.key, u.output.token.key)
  rw [← hk, ← hl, String.toList_inj.1 hx, String.toList_inj.1 hy]

/-- Of the trades that bring a pair key first, a trade belongs to at most one: the first trade with
its own key, when that exchanges the same tokens. -/
theorem countP_firstOfEachPair (t : Trade) (seen : List String) (trades : List Trade) :
    (firstOfEachPair seen trades).countP (t.tokenKeys = ·.tokenKeys) =
      if t.pairKey ∉ seen ∧
        (trades.find? (·.pairKey = t.pairKey)).any (t.tokenKeys = ·.tokenKeys) then 1 else 0 := by
  induction trades generalizing seen with
  | nil => simp [firstOfEachPair]
  | cons u rest ih =>
    unfold firstOfEachPair
    by_cases hs : u.pairKey ∈ seen
    · rw [if_pos (by simpa using hs), ih]
      by_cases hk : u.pairKey = t.pairKey
      · simp [← hk, hs]
      · simp [hk]
    · rw [if_neg (by simpa using hs), List.countP_cons, ih]
      by_cases hk : u.pairKey = t.pairKey
      · have ht : t.pairKey ∉ seen := hk ▸ hs
        simp [hk, ht]
      · have ht : t.tokenKeys ≠ u.tokenKeys := fun h => hk (Trade.pairKey_eq_of_tokenKeys_eq h).symm
        simp [hk, ht, Ne.symm hk]

theorem countP_tradedPairs (t : Trade) (trades : List Trade) :
    (tradedPairs trades).countP t.isOf =
      if (trades.find? (·.pairKey = t.pairKey)).any (t.tokenKeys = ·.tokenKeys) then 1 else 0 := by
  have hf : t.isOf ∘ Trade.canonicalPair = fun u => decide (t.tokenKeys = u.tokenKeys) := by
    funext u
    exact Bool.eq_iff_iff.2 (by simpa using Trade.isOf_canonicalPair)
  rw [tradedPairs, List.countP_map, hf, countP_firstOfEachPair]
  simp

/-- A trade is listed when the first trade with its pair key exchanges the same tokens. -/
theorem countP_tradedPairs_eq_one {t : Trade} {trades : List Trade} :
    (tradedPairs trades).countP t.isOf = 1 ↔
      ∃ u, trades.find? (·.pairKey = t.pairKey) = some u ∧ t.tokenKeys = u.tokenKeys := by
  rw [countP_tradedPairs]
  cases h : trades.find? (·.pairKey = t.pairKey) <;> simp

theorem countP_tradedPairs_le_one (t : Trade) (trades : List Trade) :
    (tradedPairs trades).countP t.isOf ≤ 1 := by
  rw [countP_tradedPairs]
  split_ifs <;> omega

theorem listed_of_keys_separate {trades : List Trade}
    (h : ∀ t ∈ trades, ∀ u ∈ trades, t.pairKey = u.pairKey → t.tokenKeys = u.tokenKeys)
    {t : Trade} (ht : t ∈ trades) : (tradedPairs trades).countP t.isOf = 1 := by
  obtain ⟨u, hu⟩ : ∃ u, trades.find? (·.pairKey = t.pairKey) = some u :=
    Option.isSome_iff_exists.1 (List.find?_isSome.2 ⟨t, ht, by simp⟩)
  have hk : u.pairKey = t.pairKey := by simpa using List.find?_some hu
  exact countP_tradedPairs_eq_one.2 ⟨u, hu, h t ht u (List.mem_of_find?_eq_some hu) hk.symm⟩

/-- Two listed trades with the same pair key belong to the pair of the first trade that has it. -/
theorem tokenKeys_eq_of_listed {trades : List Trade} {t u : Trade}
    (ht : (tradedPairs trades).countP t.isOf = 1) (hu : (tradedPairs trades).countP u.isOf = 1)
    (hk : t.pairKey = u.pairKey) : t.tokenKeys = u.tokenKeys := by
  obtain ⟨w, hw, htw⟩ := countP_tradedPairs_eq_one.1 ht
  obtain ⟨w', hw', huw⟩ := countP_tradedPairs_eq_one.1 hu
  rw [← hk] at hw'
  obtain rfl : w = w' := Option.some.inj (hw.symm.trans hw')
  exact htw.trans huw.symm

/-- Every trade belongs to exactly one listed pair if and only if no two trades with the same pair
key exchange different tokens. It never belongs to two, and addresses without hyphens are safe. -/
theorem each_trade_listed_once_iff (trades : List Trade) :
    (∀ t : Trade, (tradedPairs trades).countP t.isOf ≤ 1) ∧
    ((∀ t ∈ trades, (tradedPairs trades).countP t.isOf = 1) ↔
      ∀ t ∈ trades, ∀ u ∈ trades, t.pairKey = u.pairKey → t.tokenKeys = u.tokenKeys) ∧
    ((∀ t ∈ trades, t.HyphenFree) → ∀ t ∈ trades, (tradedPairs trades).countP t.isOf = 1) := by
  refine ⟨fun t => countP_tradedPairs_le_one t trades, ⟨?_, ?_⟩, ?_⟩
  · intro h t ht u hu
    exact tokenKeys_eq_of_listed (h t ht) (h u hu)
  · intro h t ht
    exact listed_of_keys_separate h ht
  · intro h t ht
    exact listed_of_keys_separate (fun t ht u hu => (h t ht).tokenKeys_eq (h u hu)) ht

/-- The keys of `a-b`, `c` and of `a`, `b-c` are the same, so the second trade has no pair. -/
theorem hyphens_hide_a_trade :
    ¬ ∀ t ∈ [Trade.ofAddresses 1 "a-b" "c", .ofAddresses 2 "a" "b-c"],
      (tradedPairs [.ofAddresses 1 "a-b" "c", .ofAddresses 2 "a" "b-c"]).countP t.isOf = 1 := by
  decide +kernel

end TradeCharts
