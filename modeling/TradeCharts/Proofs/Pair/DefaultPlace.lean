import TradeCharts.Proofs.Pair.FirstAppearance

/-!
The place of the default pair. Trades may come in any order of time, so the pair of the earliest one
may have been listed before, by another trade, with the tokens exchanged and in another spelling.
It is found at the place of that pair as long as no two sets of tokens share a pair key
(`indexIn?_of_keysSeparate`), as is the case without hyphens in the addresses.
-/
namespace TradeCharts

/-- The place where the pairs list two tokens: that of the first trade which exchanges them, and of
no other pair. -/
structure ListedAt (trades : List Trade) (keys : Sym2 String) (place : Nat) : Prop where
  introduced : ∃ t, trades.find? (·.tokenKeys = keys) = some t ∧
    (tradedPairs trades)[place]? = some t.canonicalPair
  only : ∀ i (p : Pair), (tradedPairs trades)[i]? = some p → s(p.base.key, p.quote.key) = keys →
    i = place

/-- No two sets of tokens share a pair key. -/
def KeysSeparate (trades : List Trade) : Prop :=
  ∀ t ∈ trades, ∀ u ∈ trades, t.pairKey = u.pairKey → t.tokenKeys = u.tokenKeys

variable {trades : List Trade} {t u : Trade}

lemma KeysSeparate.of_hyphenFree (h : ∀ t ∈ trades, t.HyphenFree) : KeysSeparate trades :=
  fun t ht u hu hkey => (h t ht).tokenKeys_eq (h u hu) hkey

lemma KeysSeparate.find?_eq (h : KeysSeparate trades) (ht : t ∈ trades) :
    trades.find? (·.tokenKeys = t.tokenKeys) = trades.find? (·.pairKey = t.pairKey) := by
  have hfilter : trades.filter (·.tokenKeys = t.tokenKeys) =
      trades.filter (·.pairKey = t.pairKey) := by
    refine List.filter_congr fun u hu => decide_eq_decide.2 ⟨Trade.pairKey_eq_of_tokenKeys_eq, ?_⟩
    exact h u hu t ht
  rw [← List.head?_filter, ← List.head?_filter, hfilter]

/-- The order of the two keys tells base from quote, whichever trade comes first. -/
lemma Pair.same_of_keys_eq {p q : Pair} (hp : p.base.key ≤ p.quote.key)
    (hq : q.base.key ≤ q.quote.key) (h : s(p.base.key, p.quote.key) = s(q.base.key, q.quote.key)) :
    p.same q := by
  rw [same_iff]
  rcases Sym2.eq_iff.1 h with hsame | ⟨hbase, hquote⟩
  · exact hsame
  · rw [hbase, hquote] at hp
    have hkeys := le_antisymm hp hq
    exact ⟨hbase.trans hkeys, hquote.trans hkeys.symm⟩

lemma Trade.base_le_quote (t : Trade) : t.canonicalPair.base.key ≤ t.canonicalPair.quote.key :=
  (Pair.canonical_ordered _ _).elim le_of_lt le_of_eq

lemma Trade.same_canonicalPair_of_tokenKeys_eq (h : t.tokenKeys = u.tokenKeys) :
    t.canonicalPair.same u.canonicalPair := by
  refine Pair.same_of_keys_eq t.base_le_quote u.base_le_quote ?_
  rw [t.keys_canonicalPair, u.keys_canonicalPair, h]

lemma getElem?_tradedPairs_inj {i j : Nat} {p q : Pair} (hp : (tradedPairs trades)[i]? = some p)
    (hq : (tradedPairs trades)[j]? = some q) (hkey : p.ownKey = q.ownKey) : i = j := by
  have hnodup : ((tradedPairs trades).map Pair.ownKey).Nodup :=
    List.pairwise_map.2 (ownKey_ne_tradedPairs trades)
  have hi : i < ((tradedPairs trades).map Pair.ownKey).length := by
    rw [List.length_map]
    exact (List.getElem?_eq_some_iff.1 hp).1
  refine (List.getElem?_inj hi hnodup).1 ?_
  rw [List.getElem?_map, List.getElem?_map, hp, hq, Option.map_some, Option.map_some, hkey]

/-- The canonical pair of any trade is found where its tokens were first listed. -/
theorem indexIn?_of_keysSeparate (h : KeysSeparate trades) (ht : t ∈ trades) :
    ∃ place, t.canonicalPair.indexIn? (tradedPairs trades) = some place ∧
      ListedAt trades t.tokenKeys place := by
  have hsome : (trades.find? (·.tokenKeys = t.tokenKeys)).isSome :=
    List.find?_isSome.2 ⟨t, ht, decide_eq_true rfl⟩
  obtain ⟨u, hu⟩ := Option.isSome_iff_exists.1 hsome
  have hkeys : u.tokenKeys = t.tokenKeys := by simpa using List.find?_some hu
  have hpair : u.pairKey = t.pairKey := Trade.pairKey_eq_of_tokenKeys_eq hkeys
  have hlisted : u.canonicalPair ∈ tradedPairs trades := by
    refine mem_tradedPairs.2 ⟨u, ?_, rfl⟩
    rw [u.ownKey_canonicalPair, hpair, ← h.find?_eq ht]
    exact hu
  obtain ⟨place, hplace⟩ := List.mem_iff_getElem?.1 hlisted
  refine ⟨place, ?_, ⟨u, hu, hplace⟩, fun i p hp hp_keys => ?_⟩
  · have hown : t.canonicalPair.ownKey = u.canonicalPair.ownKey := by
      rw [t.ownKey_canonicalPair, u.ownKey_canonicalPair, hpair]
    rw [Pair.indexIn?_of_ownKey_eq (ownKey_ne_tradedPairs trades) hplace hown,
      if_pos (Trade.same_canonicalPair_of_tokenKeys_eq hkeys)]
  · refine getElem?_tradedPairs_inj hp hplace ?_
    obtain ⟨w, -, rfl⟩ := mem_tradedPairs.1 (List.mem_of_getElem? hp)
    rw [w.keys_canonicalPair] at hp_keys
    rw [w.ownKey_canonicalPair, u.ownKey_canonicalPair]
    exact Trade.pairKey_eq_of_tokenKeys_eq (hp_keys.trans hkeys.symm)

/-- The default pair of trades without hyphens in their addresses is listed, at the place where the
tokens of the earliest trade were first brought in. -/
theorem indexIn?_default_of_hyphenFree (hne : trades ≠ []) (h : ∀ t ∈ trades, t.HyphenFree) :
    ∃ t p place, IsOldest trades t ∧ defaultPair? trades = some p ∧ p = t.canonicalPair ∧
      p.indexIn? (tradedPairs trades) = some place ∧ ListedAt trades t.tokenKeys place := by
  obtain ⟨first, rest, rfl⟩ := List.exists_cons_of_ne_nil hne
  have holdest := isOldest_foldl_earlier first rest
  obtain ⟨place, hindex, hlisted⟩ :=
    indexIn?_of_keysSeparate (.of_hyphenFree h) holdest.mem
  exact ⟨_, _, place, holdest, rfl, rfl, hindex, hlisted⟩

/-- The earliest trade stands third, its tokens were listed second: the other way round, in another
spelling. -/
theorem indexIn?_default_of_hyphenFree_respelled :
    let trades : List Trade := [.ofAddresses 30 "0xB" "0xa", .ofAddresses 20 "0xc" "0xd",
      .ofAddresses 10 "0xD" "0xC", .ofAddresses 10 "0xb" "0xA", .ofAddresses 40 "0xE" "0xe"]
    trades ≠ [] ∧ (∀ t ∈ trades, t.HyphenFree) ∧
      (∃ t p place, IsOldest trades t ∧ defaultPair? trades = some p ∧ p = t.canonicalPair ∧
        p.indexIn? (tradedPairs trades) = some place ∧ ListedAt trades t.tokenKeys place) ∧
      (defaultPair? trades).bind (·.indexIn? (tradedPairs trades)) = some 1 := by
  intro trades
  have hne : trades ≠ [] := List.cons_ne_nil _ _
  have hhyphens : ∀ t ∈ trades, t.HyphenFree := by
    unfold Trade.HyphenFree
    decide +kernel
  exact ⟨hne, hhyphens, indexIn?_default_of_hyphenFree hne hhyphens, by decide +kernel⟩

end TradeCharts
