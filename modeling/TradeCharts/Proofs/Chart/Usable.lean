import TradeCharts.Proofs.Chart.Verdict
import TradeCharts.Proofs.Timeline.Gather
import TradeCharts.Proofs.Trade.Exchange

/-!
The trades that a chart is drawn from, described one by one: which trades are usable in a view, and
their base and quote amounts. The sums of a view are the timelines gathered from its usable trades
(`sums_prices`, `sums_volumes`).
-/
namespace TradeCharts

namespace Trade

/-- The magnitude on the side that holds the base token: the input side when its key is that of the
base address. -/
def baseAmount (t : Trade) (base : String) : Float :=
  (if t.inputKey = Text.lower base then t.inputAmount? else t.outputAmount?).getD 0.0

def quoteAmount (t : Trade) (base : String) : Float :=
  (if t.inputKey = Text.lower base then t.outputAmount? else t.inputAmount?).getD 0.0

def oriented (base : String) (t : Trade) : Execution :=
  ⟨t.timestamp, t.baseAmount base, t.quoteAmount base, t.buys base⟩

end Trade

namespace View

/-- A trade that counts in a view: it lies in the window, its tokens are those of the pair in either
order, both amounts are finite numbers, and the one on the base side is not zero. -/
structure Usable (v : View) (t : Trade) : Prop where
  after : v.now - v.window ≤ t.timestamp
  before : t.timestamp ≤ v.now
  ofPair : (t.inputKey = Text.lower v.base ∧ t.outputKey = Text.lower v.quote) ∨
    (t.inputKey = Text.lower v.quote ∧ t.outputKey = Text.lower v.base)
  input : t.inputAmount?.isSome
  output : t.outputAmount?.isSome
  base : (t.baseAmount v.base == 0.0) = false

theorem usable_iff (v : View) (t : Trade) :
    v.Usable t ↔ v.admits t ∧ t.inputAmount?.isSome ∧ t.outputAmount?.isSome ∧
      (t.baseAmount v.base == 0.0) = false := by
  constructor
  · intro h
    refine ⟨?_, h.input, h.output, h.base⟩
    simpa [admits, Trade.matches, h.after, h.before] using h.ofPair
  · rintro ⟨ha, hi, ho, hb⟩
    simp only [admits, Trade.matches, Bool.and_eq_true, Bool.or_eq_true, decide_eq_true_eq,
      beq_iff_eq] at ha
    exact ⟨ha.1.1, ha.1.2, ha.2, hi, ho, hb⟩

instance (v : View) : DecidablePred v.Usable := fun t =>
  decidable_of_iff _ (v.usable_iff t).symm

def usable (v : View) (trades : List Trade) : List Trade :=
  trades.filter (v.Usable ·)

end View

namespace Trade

theorem execution?_eq_none {t : Trade} {base : String}
    (h : ¬ (t.inputAmount?.isSome ∧ t.outputAmount?.isSome)) : t.execution? base = none := by
  unfold execution?
  cases hi : t.inputAmount? <;> cases ho : t.outputAmount? <;> simp_all

theorem execution?_eq_oriented {t : Trade} {base : String} (hi : t.inputAmount?.isSome)
    (ho : t.outputAmount?.isSome) : t.execution? base = some (t.oriented base) := by
  obtain ⟨i, hi⟩ := Option.isSome_iff_exists.1 hi
  obtain ⟨o, ho⟩ := Option.isSome_iff_exists.1 ho
  by_cases hb : t.inputKey = Text.lower base <;>
    simp [execution?, oriented, baseAmount, quoteAmount, buys, hi, ho, hb]

end Trade

def ChartSums.volumes (s : ChartSums) (buying : Bool) : VolumeBuckets :=
  if buying then s.buys else s.sells

namespace View

variable {v : View} {trades : List Trade} {t : Trade}

theorem usable_append_singleton (v : View) (trades : List Trade) (t : Trade) :
    v.usable (trades ++ [t]) = v.usable trades ++ if v.Usable t then [t] else [] := by
  by_cases h : v.Usable t <;> simp [usable, h]

lemma verdict_of_usable (h : v.Usable t) : v.verdict t = some (.ok (t.oriented v.base)) := by
  have ha := ((v.usable_iff t).1 h).1
  have hz : ((t.oriented v.base).baseAmount == 0.0) = false := h.base
  rw [verdict, if_pos ha, Trade.execution?_eq_oriented h.input h.output]
  simp [hz]

lemma executed?_verdict_of_not_usable (h : ¬ v.Usable t) : executed? (v.verdict t) = none := by
  unfold verdict
  split_ifs with ha
  · by_cases hs : t.inputAmount?.isSome ∧ t.outputAmount?.isSome
    · have hz : ((t.oriented v.base).baseAmount == 0.0) = true := by
        by_contra hz
        exact h ((v.usable_iff t).2 ⟨ha, hs.1, hs.2, Bool.eq_false_iff.2 hz⟩)
      simp [Trade.execution?_eq_oriented hs.1 hs.2, hz, executed?]
    · simp [Trade.execution?_eq_none hs, executed?]
  · rfl

/-- A usable trade is added to the sums. -/
theorem sums_of_usable (h : v.Usable t) :
    v.sums (trades ++ [t]) = (v.sums trades).add v.bucketWidth (t.oriented v.base) := by
  rw [sums_append_verdict, verdict_of_usable h]

/-- Any other trade leaves the sums alone; at most it is reported. -/
theorem sums_of_not_usable (trades : List Trade) (h : ¬ v.Usable t) :
    ∃ skips, v.sums (trades ++ [t]) = { v.sums trades with skips } := by
  have hexecuted := executed?_verdict_of_not_usable h
  rw [sums_append_verdict]
  cases hv : v.verdict t with
  | none => exact ⟨_, rfl⟩
  | some r =>
    cases r with
    | error reason => exact ⟨_, rfl⟩
    | ok e => simp [hv, executed?] at hexecuted

def addBase (v : View) (total : Float) (t : Trade) : Float :=
  total + t.baseAmount v.base

def addAmounts (v : View) (s : PriceTotals) (t : Trade) : PriceTotals :=
  s.add (t.baseAmount v.base) (t.quoteAmount v.base)

def bucketOf (v : View) (t : Trade) : Int :=
  Window.bucketStart t.timestamp v.bucketWidth

/-- The totals of each moment are those of its usable trades. -/
theorem sums_prices (v : View) (trades : List Trade) :
    (v.sums trades).prices = .gather Trade.timestamp v.addAmounts .zero (v.usable trades) := by
  induction trades using List.reverseRecOn with
  | nil => rfl
  | append_singleton trades t ih =>
    rw [usable_append_singleton]
    by_cases h : v.Usable t
    · rw [sums_of_usable h, if_pos h, Timeline.gather_append_singleton, ← ih]
      rfl
    · obtain ⟨skips, hs⟩ := sums_of_not_usable trades h
      rw [hs, if_neg h, List.append_nil, ← ih]

def usableSide (v : View) (buying : Bool) (trades : List Trade) : List Trade :=
  (v.usable trades).filter (·.buys v.base == buying)

/-- The volume of each bucket and direction is that of its usable trades. -/
theorem sums_volumes (v : View) (trades : List Trade) (buying : Bool) :
    (v.sums trades).volumes buying =
      .gather v.bucketOf v.addBase 0.0 (v.usableSide buying trades) := by
  induction trades using List.reverseRecOn with
  | nil => cases buying <;> rfl
  | append_singleton trades t ih =>
    rw [usableSide, usable_append_singleton, List.filter_append, ← usableSide]
    by_cases h : v.Usable t
    · rw [sums_of_usable h, if_pos h]
      by_cases hb : t.buys v.base = buying
      · rw [List.filter_cons_of_pos (by simpa using hb), List.filter_nil,
          Timeline.gather_append_singleton, ← ih, ← hb]
        cases ht : t.buys v.base <;> simp [ChartSums.volumes, ChartSums.add, Trade.oriented, ht] <;> rfl
      · rw [List.filter_cons_of_neg (by simpa using hb), List.filter_nil, List.append_nil, ← ih]
        cases buying <;> simp_all [ChartSums.volumes, ChartSums.add, Trade.oriented]
    · obtain ⟨skips, hs⟩ := sums_of_not_usable trades h
      rw [hs, if_neg h, List.filter_nil, List.append_nil, ← ih]
      rfl

end View

end TradeCharts
