import TradeCharts.Proofs.Chart.Usable
import TradeCharts.Proofs.Pair.Default
import TradeCharts.Proofs.Pair.Listing
import TradeCharts.Proofs.Trade.Alike

/-!
Spellings of addresses. Tokens are told apart by the lower-case forms of their addresses, in charts as
in pairs. Other spellings of the addresses in trades, in the view and in a pair looked for change no
chart and no history, and the pairs listed are the same ones in the same order
(`spelling_irrelevant`). They are shown in the new spelling.
-/
namespace TradeCharts

namespace Pair

lemma same_congr {p q p' q' : Pair} (hp : p.same p') (hq : q.same q') : p.same q = p'.same q' := by
  obtain ⟨hpbase, hpquote⟩ := same_iff.1 hp
  obtain ⟨hqbase, hqquote⟩ := same_iff.1 hq
  rw [same, same, hpbase, hpquote, hqbase, hqquote]

lemma same_canonical {a b c d : Token} (ha : a.key = c.key) (hb : b.key = d.key) :
    (canonical a b).same (canonical c d) := by
  unfold canonical
  rw [ha, hb]
  split_ifs
  · exact same_iff.2 ⟨ha, hb⟩
  · exact same_iff.2 ⟨hb, ha⟩

/-- The place of a pair depends on no spelling, neither of its own nor in the list. -/
theorem indexIn?_congr {p q : Pair} (hpq : p.same q) {pairs pairs' : List Pair}
    (h : List.Forall₂ (fun p q => p.same q) pairs pairs') : p.indexIn? pairs = q.indexIn? pairs' := by
  unfold indexIn?
  induction h with
  | nil => rfl
  | cons hab _ ih => rw [List.findIdx?_cons, List.findIdx?_cons, same_congr hab hpq, ih]

end Pair

namespace Trade.Alike

variable {t u t' u' : Trade}

lemma pairKey_eq (h : t.Alike u) : t.pairKey = u.pairKey :=
  Pair.key_congr h.inputKey h.outputKey

lemma same_canonicalPair (h : t.Alike u) : t.canonicalPair.same u.canonicalPair :=
  Pair.same_canonical h.inputKey h.outputKey

lemma earlier_alike (ht : t.Alike t') (hu : u.Alike u') : (earlier t u).Alike (earlier t' u') := by
  unfold earlier
  rw [ht.time, hu.time]
  split_ifs
  · exact hu
  · exact ht

end Trade.Alike

namespace AllAlike

variable {trades trades' : List Trade}

/-- Alike trades bring the same pair keys, so the same places of the two lists are kept. -/
lemma allAlike_firstOfEachPair (h : AllAlike trades trades') (seen : List String) :
    AllAlike (firstOfEachPair seen trades) (firstOfEachPair seen trades') := by
  induction h generalizing seen with
  | nil => exact .nil
  | cons htu _ ih =>
    unfold firstOfEachPair
    rw [htu.pairKey_eq]
    split_ifs
    · exact ih seen
    · exact .cons htu (ih _)

theorem same_tradedPairs (h : AllAlike trades trades') :
    List.Forall₂ (fun p q => p.same q) (tradedPairs trades) (tradedPairs trades') :=
  List.rel_map (fun _ _ htu => htu.same_canonicalPair) (h.allAlike_firstOfEachPair [])

theorem alike_oldestTrade? (h : AllAlike trades trades') :
    Option.Rel Trade.Alike (oldestTrade? trades) (oldestTrade? trades') := by
  cases h with
  | nil => exact .none
  | cons htu hrest => exact .some (List.rel_foldl (fun _ _ ht _ _ hu => ht.earlier_alike hu) htu hrest)

theorem same_defaultPair? (h : AllAlike trades trades') :
    Option.Rel (fun p q => p.same q) (defaultPair? trades) (defaultPair? trades') := by
  have holdest := h.alike_oldestTrade?
  unfold defaultPair?
  generalize oldestTrade? trades = t, oldestTrade? trades' = u at holdest ⊢
  cases holdest with
  | none => exact .none
  | some htu => exact .some htu.same_canonicalPair

end AllAlike

namespace Trade

def withAddresses (t : Trade) (input output : String) : Trade :=
  { t with
    input := { t.input with token := { t.input.token with address := input } }
    output := { t.output with token := { t.output.token with address := output } } }

/-- Two trades that differ at most in how their token addresses are spelled. -/
inductive Respelled : Trade → Trade → Prop where
  | withAddresses {t : Trade} {input output : String}
      (hinput : Text.lower t.input.token.address = Text.lower input)
      (houtput : Text.lower t.output.token.address = Text.lower output) :
      Respelled t (t.withAddresses input output)

lemma Respelled.alike {t u : Trade} (h : t.Respelled u) : t.Alike u := by
  cases h with
  | withAddresses hinput houtput => exact ⟨rfl, rfl, hinput, houtput, rfl, rfl⟩

end Trade

structure SameUpToSpelling (trades trades' : List Trade) : Prop where
  places : ∀ v w : View, v.Alike w → v.places trades = w.places trades'
  chart : ∀ v w : View, v.Alike w → ∀ palette, v.chart palette trades = w.chart palette trades'
  history : ∀ theme, History.points theme trades = History.points theme trades'
  pairs : List.Forall₂ (fun p q => p.same q) (tradedPairs trades) (tradedPairs trades')
  default_pair : Option.Rel (fun p q => p.same q) (defaultPair? trades) (defaultPair? trades')
  index : ∀ p q : Pair, p.same q → p.indexIn? (tradedPairs trades) = q.indexIn? (tradedPairs trades')

/-- Addresses of one lower-case form are one address, in trades, in views and in pairs. -/
theorem spelling_irrelevant {trades trades' : List Trade}
    (h : List.Forall₂ Trade.Respelled trades trades') : SameUpToSpelling trades trades' := by
  have halike : AllAlike trades trades' := h.imp fun _ _ htu => htu.alike
  constructor
  case places =>
    intro v w hvw
    exact halike.places hvw
  case chart =>
    intro v w hvw palette
    exact halike.chart hvw palette
  case history => exact halike.history
  case pairs => exact halike.same_tradedPairs
  case default_pair => exact halike.same_defaultPair?
  case index =>
    intro p q hpq
    exact Pair.indexIn?_congr hpq halike.same_tradedPairs

/-- Two tokens in three spellings each; the Kelvin sign is a capital k. The pair listed is spelled
another way, and its chart is the same one. -/
theorem spelling_irrelevant_mixedCase :
    let trades : List Trade :=
      [.exchange 10 "0xAk" 4.0 "0xCd" 6.0, .exchange 20 "0XcD" 1.0 "0xak" 2.0]
    let trades' : List Trade :=
      [.exchange 10 "0xa\u212A" 4.0 "0XCD" 6.0, .exchange 20 "0xcd" 1.0 "0XAK" 2.0]
    let v : View := ⟨"0xaK", "0xcd", 3600, 100⟩
    let w : View := ⟨"0XA\u212A", "0xCD", 3600, 100⟩
    List.Forall₂ Trade.Respelled trades trades' ∧ v.Alike w ∧ SameUpToSpelling trades trades' ∧
      tradedPairs trades ≠ tradedPairs trades' ∧
      (w.chart .standard trades').prices = [⟨10, 1.5⟩, ⟨20, 0.5⟩] := by
  intro trades trades' v w
  have hspelling : List.Forall₂ Trade.Respelled trades trades' :=
    .cons (.withAddresses (by decide +kernel) (by decide +kernel))
      (.cons (.withAddresses (by decide +kernel) (by decide +kernel)) .nil)
  have hview : v.Alike w := ⟨by decide +kernel, by decide +kernel, rfl, rfl⟩
  exact ⟨hspelling, hview, spelling_irrelevant hspelling, by decide +kernel, by decide +kernel⟩

end TradeCharts
