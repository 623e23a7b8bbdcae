import TradeCharts.Proofs.Chart.Totals

/-!
A chart and the one with base and quote exchanged. Both admit the same trades, and every one of them
is executed the other way round: what was bought is sold, and the two amounts change places. Where no
amount is zero the same trades are usable in both, so the flipped chart shows the quotient of the
same two totals upside down, and bars at the same times for the opposite direction (`flipped_chart`).
An amount of zero breaks this: a trade is skipped for a zero on the base side only.
-/
namespace TradeCharts

/-- The pair seen from its other token. -/
def View.flip (v : View) : View :=
  { v with base := v.quote, quote := v.base }

def Execution.flip (e : Execution) : Execution :=
  { e with baseAmount := e.quoteAmount, quoteAmount := e.baseAmount, isBuy := !e.isBuy }

namespace View

/-- The quote amounts of a bucket and direction from left to right. -/
def quoteVolumeAt (v : View) (buying : Bool) (trades : List Trade) (start : Int) : Float :=
  History.sum ((v.barTrades buying trades start).map (·.quoteAmount v.base))

/-- How the flipped chart follows from the trades and the totals of the chart. -/
structure Flipped (v : View) (palette : Palette) (trades : List Trade) : Prop where
  admitted : v.flip.trades trades = v.trades trades
  executions : ∀ t ∈ v.trades trades,
    t.execution? v.flip.base = (t.execution? v.base).map Execution.flip
  usable : v.flip.usable trades = v.usable trades
  prices : ∀ p, p ∈ (v.chart palette trades).prices ↔
    (∃ t ∈ v.usable trades, t.timestamp = p.time) ∧
      (v.quoteAt trades p.time / v.baseAt trades p.time).isFinite ∧
      p.value = v.quoteAt trades p.time / v.baseAt trades p.time
  flipped_prices : ∀ p, p ∈ (v.flip.chart palette trades).prices ↔
    (∃ t ∈ v.usable trades, t.timestamp = p.time) ∧
      (v.baseAt trades p.time / v.quoteAt trades p.time).isFinite ∧
      p.value = v.baseAt trades p.time / v.quoteAt trades p.time
  buy_times : (v.flip.chart palette trades).buyVolumes.map (·.time) =
    (v.chart palette trades).sellVolumes.map (·.time)
  sell_times : (v.flip.chart palette trades).sellVolumes.map (·.time) =
    (v.chart palette trades).buyVolumes.map (·.time)
  buy_values : ∀ p ∈ (v.flip.chart palette trades).buyVolumes,
    p.value = v.quoteVolumeAt false trades p.time
  sell_values : ∀ p ∈ (v.flip.chart palette trades).sellVolumes,
    p.value = -v.quoteVolumeAt true trades p.time

variable {v : View} {trades : List Trade} {t : Trade}

lemma admits_flip (v : View) (t : Trade) : v.flip.admits t = v.admits t := by
  have hmatches : t.matches v.quote v.base = t.matches v.base v.quote := Bool.or_comm _ _
  unfold admits
  rw [← hmatches]
  rfl

lemma ofPair_of_admits (h : v.admits t) :
    (t.inputKey = Text.lower v.base ∧ t.outputKey = Text.lower v.quote) ∨
      (t.inputKey = Text.lower v.quote ∧ t.outputKey = Text.lower v.base) := by
  simp only [admits, Trade.matches, Bool.and_eq_true, Bool.or_eq_true, beq_iff_eq] at h
  exact h.2

section Keys

variable (hkeys : Text.lower v.base ≠ Text.lower v.quote) (ha : v.admits t)
include hkeys ha

/-- The input side of a trade of the pair holds exactly one of the two tokens. -/
lemma inputKey_eq_quote_iff : t.inputKey = Text.lower v.quote ↔ t.inputKey ≠ Text.lower v.base := by
  constructor
  · intro hq hb
    exact hkeys (hb.symm.trans hq)
  · intro hb
    rcases ofPair_of_admits ha with h | h
    · exact absurd h.1 hb
    · exact h.1

lemma buys_flip : t.buys v.quote = !t.buys v.base := by
  have hq := inputKey_eq_quote_iff hkeys ha
  rw [Bool.eq_iff_iff]
  simpa [Trade.buys] using hq

lemma baseAmount_flip : t.baseAmount v.quote = t.quoteAmount v.base := by
  unfold Trade.baseAmount Trade.quoteAmount
  simp only [inputKey_eq_quote_iff hkeys ha, ne_eq, ite_not]

lemma quoteAmount_flip : t.quoteAmount v.quote = t.baseAmount v.base := by
  unfold Trade.baseAmount Trade.quoteAmount
  simp only [inputKey_eq_quote_iff hkeys ha, ne_eq, ite_not]

lemma execution_flip : t.execution? v.quote = (t.execution? v.base).map Execution.flip := by
  by_cases h : t.inputAmount?.isSome ∧ t.outputAmount?.isSome
  · rw [Trade.execution?_eq_oriented h.1 h.2, Trade.execution?_eq_oriented h.1 h.2, Option.map_some]
    simp only [Trade.oriented, Execution.flip, baseAmount_flip hkeys ha, quoteAmount_flip hkeys ha,
      buys_flip hkeys ha]
  · rw [Trade.execution?_eq_none h, Trade.execution?_eq_none h, Option.map_none]

end Keys

lemma baseAmount_ne_zero
    (hamounts : ∀ i ∈ t.inputAmount?, ∀ o ∈ t.outputAmount?, (i == 0.0) = false ∧ (o == 0.0) = false)
    (hi : t.inputAmount?.isSome) (ho : t.outputAmount?.isSome) (base : String) :
    (t.baseAmount base == 0.0) = false := by
  obtain ⟨i, hi⟩ := Option.isSome_iff_exists.1 hi
  obtain ⟨o, ho⟩ := Option.isSome_iff_exists.1 ho
  obtain ⟨hi', ho'⟩ := hamounts i hi o ho
  unfold Trade.baseAmount
  rw [hi, ho]
  split_ifs
  · exact hi'
  · exact ho'

section Amounts

variable (hamounts : ∀ t ∈ v.trades trades, ∀ i ∈ t.inputAmount?, ∀ o ∈ t.outputAmount?,
  (i == 0.0) = false ∧ (o == 0.0) = false)
include hamounts

/-- A trade is skipped in one orientation when it is skipped in the other. -/
lemma usable_flip : v.flip.usable trades = v.usable trades := by
  refine List.filter_congr fun t ht => decide_eq_decide.2 ?_
  rw [usable_iff, usable_iff, admits_flip]
  have hzero (ha : v.admits t) := baseAmount_ne_zero (hamounts t (List.mem_filter.2 ⟨ht, ha⟩))
  constructor
  · rintro ⟨ha, hi, ho, -⟩
    exact ⟨ha, hi, ho, hzero ha hi ho v.base⟩
  · rintro ⟨ha, hi, ho, -⟩
    exact ⟨ha, hi, ho, hzero ha hi ho v.flip.base⟩

variable (hkeys : Text.lower v.base ≠ Text.lower v.quote)
include hkeys

lemma baseAt_flip (time : Int) : v.flip.baseAt trades time = v.quoteAt trades time := by
  unfold baseAt quoteAt
  rw [usable_flip hamounts]
  refine congrArg History.sum (List.map_congr_left fun t ht => ?_)
  exact baseAmount_flip hkeys (mem_usable.1 (List.mem_filter.1 ht).1).2.admits

lemma quoteAt_flip (time : Int) : v.flip.quoteAt trades time = v.baseAt trades time := by
  unfold baseAt quoteAt
  rw [usable_flip hamounts]
  refine congrArg History.sum (List.map_congr_left fun t ht => ?_)
  exact quoteAmount_flip hkeys (mem_usable.1 (List.mem_filter.1 ht).1).2.admits

lemma usableSide_flip (buying : Bool) :
    v.flip.usableSide buying trades = v.usableSide (!buying) trades := by
  unfold usableSide
  rw [usable_flip hamounts]
  refine List.filter_congr fun t ht => ?_
  have hbuys : t.buys v.flip.base = !t.buys v.base := buys_flip hkeys (mem_usable.1 ht).2.admits
  rw [hbuys]
  cases buying <;> cases t.buys v.base <;> rfl

lemma barTrades_flip (buying : Bool) (start : Int) :
    v.flip.barTrades buying trades start = v.barTrades (!buying) trades start := by
  unfold barTrades
  rw [usableSide_flip hamounts hkeys]
  rfl

lemma volumeAt_flip (buying : Bool) (start : Int) :
    v.flip.volumeAt buying trades start = v.quoteVolumeAt (!buying) trades start := by
  rw [volumeAt_eq, barTrades_flip hamounts hkeys]
  refine congrArg History.sum (List.map_congr_left fun t ht => ?_)
  exact baseAmount_flip hkeys (usable_of_mem_barTrades ht).admits

/-- The bars of a direction stand where those of the opposite direction stood. -/
lemma times_volumes_flip (buying : Bool) : ((v.flip.sums trades).volumes buying).times =
    ((v.sums trades).volumes !buying).times := by
  rw [sums_volumes, sums_volumes, usableSide_flip hamounts hkeys]
  exact Timeline.times_gather_congr fun _ => Iff.rfl

end Amounts

/-- Flipping a chart without zero amounts turns its prices upside down and exchanges its bars. -/
theorem flipped_chart (v : View) (palette : Palette) (trades : List Trade)
    (hkeys : Text.lower v.base ≠ Text.lower v.quote)
    (hamounts : ∀ t ∈ v.trades trades, ∀ i ∈ t.inputAmount?, ∀ o ∈ t.outputAmount?,
      (i == 0.0) = false ∧ (o == 0.0) = false) : v.Flipped palette trades where
  admitted := List.filter_congr fun t _ => v.admits_flip t
  executions t ht := execution_flip hkeys (List.mem_filter.1 ht).2
  usable := usable_flip hamounts
  prices p := mem_prices_iff_traded
  flipped_prices p := by
    rw [mem_prices_iff_traded, usable_flip hamounts, baseAt_flip hamounts hkeys,
      quoteAt_flip hamounts hkeys]
  buy_times := by
    simp only [chart, map_time_points]
    exact times_volumes_flip hamounts hkeys true
  sell_times := by
    simp only [chart, map_time_points]
    exact times_volumes_flip hamounts hkeys false
  buy_values p hp := by
    have hbar : v.flip.IsBar palette true trades p := (mem_bars_iff true).1 hp
    rw [hbar.value, if_pos rfl, volumeAt_flip hamounts hkeys]
    rfl
  sell_values p hp := by
    have hbar : v.flip.IsBar palette false trades p := (mem_bars_iff false).1 hp
    have hvalue : p.value = -v.flip.volumeAt false trades p.time := hbar.value
    rw [hvalue, volumeAt_flip hamounts hkeys]
    rfl

/-- Two exchanges of one moment and a later one the other way, seen from both tokens. -/
theorem flipped_chart_exchanges :
    let v : View := ⟨"0xA", "0xb", 3600, 400000⟩
    let trades : List Trade := [.exchange 399000 "0xa" 1.0 "0xB" 4.0,
      .exchange 399000 "0xB" 2.0 "0xa" 2.0, .exchange 400000 "0xB" 3.0 "0xa" 1.0]
    Text.lower v.base ≠ Text.lower v.quote ∧
      (∀ t ∈ v.trades trades, ∀ i ∈ t.inputAmount?, ∀ o ∈ t.outputAmount?,
        (i == 0.0) = false ∧ (o == 0.0) = false) ∧
      v.Flipped .standard trades ∧
      (v.chart .standard trades).prices = [⟨399000, 2.0⟩, ⟨400000, 3.0⟩] ∧
      (v.flip.chart .standard trades).prices = [⟨399000, 0.5⟩, ⟨400000, 1.0 / 3.0⟩] := by
  intro v trades
  have hkeys : Text.lower v.base ≠ Text.lower v.quote := by decide +kernel
  have hamounts : ∀ t ∈ v.trades trades, ∀ i ∈ t.inputAmount?, ∀ o ∈ t.outputAmount?,
      (i == 0.0) = false ∧ (o == 0.0) = false := by decide +kernel
  exact ⟨hkeys, hamounts, flipped_chart v .standard trades hkeys hamounts, by decide +kernel,
    by decide +kernel⟩

end View

end TradeCharts
