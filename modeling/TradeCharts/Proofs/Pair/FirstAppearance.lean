import TradeCharts.Proofs.Pair.Default
import TradeCharts.Proofs.Pair.Listing

/-!
The list of traded pairs. It has one pair for each pair key, in the order in which the keys first
appear among the trades, each made of the tokens of the first trade that has the key
(`listing_tradedPairs`). The tokens stand in the order of their keys, so a listed pair is found at
its own place, and one with base and quote exchanged is not found unless the two keys are equal.
-/
namespace TradeCharts

namespace Pair

def ownKey (p : Pair) : String :=
  key p.base p.quote

lemma ownKey_flip (p : Pair) : p.flip.ownKey = p.ownKey :=
  key_comm p.quote p.base

lemma ownKey_eq_of_same {p q : Pair} (h : p.same q) : p.ownKey = q.ownKey := by
  obtain ⟨hbase, hquote⟩ := same_iff.1 h
  exact key_congr hbase hquote

lemma same_flip_iff {p : Pair} : p.same p.flip ↔ p.base.key = p.quote.key := by
  rw [same_iff]
  constructor
  · rintro ⟨h, -⟩
    exact h
  · intro h
    exact ⟨h, h.symm⟩

lemma canonical_ordered (a b : Token) :
    (canonical a b).base.key < (canonical a b).quote.key ∨
      (canonical a b).base.key = (canonical a b).quote.key := by
  unfold canonical
  split_ifs with h
  · exact .inl h
  · exact lt_or_eq_of_le (not_lt.1 h)

lemma tokens_canonical (a b : Token) :
    s((canonical a b).base, (canonical a b).quote) = s(a, b) := by
  unfold canonical
  split_ifs
  · rfl
  · exact Sym2.eq_swap

/-- Among pairs of different keys only the one with the key of the target can be found. -/
lemma indexIn?_of_ownKey_eq {pairs : List Pair} (h : pairs.Pairwise fun p q => p.ownKey ≠ q.ownKey)
    {i : Nat} {p target : Pair} (hp : pairs[i]? = some p) (hkey : target.ownKey = p.ownKey) :
    target.indexIn? pairs = if p.same target then some i else none := by
  obtain ⟨hi, rfl⟩ := List.getElem?_eq_some_iff.1 hp
  have hunique {j : Nat} (hj : j < pairs.length) (hsame : pairs[j].same target) : j = i := by
    have hj' : pairs[j].ownKey = pairs[i].ownKey := (ownKey_eq_of_same hsame).trans hkey
    rcases Nat.lt_trichotomy j i with hlt | heq | hlt
    · exact absurd hj' (List.pairwise_iff_getElem.1 h j i hj hi hlt)
    · exact heq
    · exact absurd hj'.symm (List.pairwise_iff_getElem.1 h i j hi hj hlt)
  unfold indexIn?
  split_ifs with hsame
  · refine List.findIdx?_eq_some_iff_getElem.2 ⟨hi, hsame, fun j hj hfound => ?_⟩
    exact Nat.ne_of_lt hj (hunique (Nat.lt_trans hj hi) hfound)
  · refine List.findIdx?_eq_none_iff.2 fun q hq => ?_
    obtain ⟨j, hj, rfl⟩ := List.getElem_of_mem hq
    by_contra hfound
    obtain rfl := hunique hj (by simpa using hfound)
    exact hsame (by simpa using hfound)

end Pair

lemma Trade.ownKey_canonicalPair (t : Trade) : t.canonicalPair.ownKey = t.pairKey := by
  unfold canonicalPair Pair.canonical
  split_ifs
  · rfl
  · exact Pair.key_comm _ _

def firstPlace (trades : List Trade) (key : String) : Nat :=
  trades.findIdx (·.pairKey = key)

lemma firstPlace_cons_self (t : Trade) (trades : List Trade) :
    firstPlace (t :: trades) t.pairKey = 0 := by
  simp [firstPlace, List.findIdx_cons]

lemma firstPlace_cons_of_ne {t : Trade} {key : String} (h : t.pairKey ≠ key) (trades : List Trade) :
    firstPlace (t :: trades) key = firstPlace trades key + 1 := by
  simp [firstPlace, List.findIdx_cons, h]

/-- A trade is kept when its key is new and no trade before it has the key. -/
theorem mem_firstOfEachPair {seen : List String} {trades : List Trade} {t : Trade} :
    t ∈ firstOfEachPair seen trades ↔
      t.pairKey ∉ seen ∧ trades.find? (·.pairKey = t.pairKey) = some t := by
  induction trades generalizing seen with
  | nil => simp [firstOfEachPair]
  | cons u rest ih =>
    unfold firstOfEachPair
    by_cases hseen : u.pairKey ∈ seen
    · rw [if_pos (by simpa using hseen), ih]
      by_cases hkey : u.pairKey = t.pairKey
      · have ht : t.pairKey ∈ seen := hkey ▸ hseen
        simp [ht]
      · simp [hkey]
    · rw [if_neg (by simpa using hseen), List.mem_cons, ih]
      by_cases hkey : u.pairKey = t.pairKey
      · have ht : t.pairKey ∉ seen := hkey ▸ hseen
        simp [hkey, ht, eq_comm]
      · have hne : t ≠ u := fun h => hkey (congrArg Trade.pairKey h.symm)
        simp [hkey, hne, Ne.symm hkey]

/-- The kept trades stand in the order of the first places of their keys. -/
theorem pairwise_firstOfEachPair (seen : List String) (trades : List Trade) :
    (firstOfEachPair seen trades).Pairwise fun t u =>
      firstPlace trades t.pairKey < firstPlace trades u.pairKey := by
  induction trades generalizing seen with
  | nil => exact .nil
  | cons t rest ih =>
    -- the keys kept behind a trade differ from its own, since that is among those seen
    have hlater {seen : List String} (hseen : t.pairKey ∈ seen) :
        ∀ u ∈ firstOfEachPair seen rest, t.pairKey ≠ u.pairKey := fun u hu h =>
      (mem_firstOfEachPair.1 hu).1 (h ▸ hseen)
    have hrest {seen : List String} (hseen : t.pairKey ∈ seen) :
        (firstOfEachPair seen rest).Pairwise fun u w =>
          firstPlace (t :: rest) u.pairKey < firstPlace (t :: rest) w.pairKey := by
      refine (ih seen).imp_of_mem fun {u w} hu hw huw => ?_
      rw [firstPlace_cons_of_ne (hlater hseen u hu), firstPlace_cons_of_ne (hlater hseen w hw)]
      exact Nat.succ_lt_succ huw
    unfold firstOfEachPair
    split_ifs with hseen
    · exact hrest (by simpa using hseen)
    · refine .cons (fun u hu => ?_) (hrest List.mem_cons_self)
      rw [firstPlace_cons_self, firstPlace_cons_of_ne (hlater List.mem_cons_self u hu)]
      exact Nat.succ_pos _

structure Listing (trades : List Trade) (pairs : List Pair) : Prop where
  complete : ∀ t ∈ trades, ∃ p ∈ pairs, p.ownKey = t.pairKey
  once : (pairs.map Pair.ownKey).Nodup
  order : pairs.Pairwise fun p q => firstPlace trades p.ownKey < firstPlace trades q.ownKey
  tokens : ∀ p ∈ pairs, ∃ t, trades.find? (·.pairKey = p.ownKey) = some t ∧
    s(p.base, p.quote) = s(t.input.token, t.output.token)
  oriented : ∀ p ∈ pairs, p.base.key < p.quote.key ∨ p.base.key = p.quote.key
  index : ∀ i (p : Pair), pairs[i]? = some p → p.indexIn? pairs = some i
  index_flip : ∀ i (p : Pair), pairs[i]? = some p →
    p.flip.indexIn? pairs = if p.base.key = p.quote.key then some i else none

lemma mem_tradedPairs {trades : List Trade} {p : Pair} :
    p ∈ tradedPairs trades ↔
      ∃ t, trades.find? (·.pairKey = p.ownKey) = some t ∧ t.canonicalPair = p := by
  rw [tradedPairs, List.mem_map]
  refine exists_congr fun t => and_congr_left ?_
  rintro rfl
  rw [mem_firstOfEachPair, t.ownKey_canonicalPair]
  exact and_iff_right List.not_mem_nil

lemma pairwise_tradedPairs (trades : List Trade) : (tradedPairs trades).Pairwise fun p q =>
    firstPlace trades p.ownKey < firstPlace trades q.ownKey := by
  refine List.pairwise_map.2 ((pairwise_firstOfEachPair [] trades).imp fun {t u} h => ?_)
  rwa [t.ownKey_canonicalPair, u.ownKey_canonicalPair]

lemma ownKey_ne_tradedPairs (trades : List Trade) :
    (tradedPairs trades).Pairwise fun p q => p.ownKey ≠ q.ownKey :=
  (pairwise_tradedPairs trades).imp fun h hkey => Nat.ne_of_lt h (congrArg _ hkey)

/-- The traded pairs have one pair for each pair key, in order of first appearance, and each of them
is found at its own place only. -/
theorem listing_tradedPairs (trades : List Trade) : Listing trades (tradedPairs trades) where
  complete t ht := by
    have hfind : (trades.find? (·.pairKey = t.pairKey)).isSome :=
      List.find?_isSome.2 ⟨t, ht, decide_eq_true rfl⟩
    obtain ⟨u, hu⟩ := Option.isSome_iff_exists.1 hfind
    have hkey : u.canonicalPair.ownKey = t.pairKey := by
      rw [u.ownKey_canonicalPair]
      simpa using List.find?_some hu
    refine ⟨u.canonicalPair, mem_tradedPairs.2 ⟨u, ?_, rfl⟩, hkey⟩
    rw [hkey]
    exact hu
  once := List.pairwise_map.2 (ownKey_ne_tradedPairs trades)
  order := pairwise_tradedPairs trades
  tokens p hp := by
    obtain ⟨t, ht, rfl⟩ := mem_tradedPairs.1 hp
    exact ⟨t, ht, Pair.tokens_canonical _ _⟩
  oriented p hp := by
    obtain ⟨t, -, rfl⟩ := mem_tradedPairs.1 hp
    exact Pair.canonical_ordered _ _
  index i p hp := by
    rw [Pair.indexIn?_of_ownKey_eq (ownKey_ne_tradedPairs trades) hp rfl, if_pos p.same_self]
  index_flip i p hp := by
    rw [Pair.indexIn?_of_ownKey_eq (ownKey_ne_tradedPairs trades) hp p.ownKey_flip]
    simp only [Pair.same_flip_iff]

end TradeCharts
