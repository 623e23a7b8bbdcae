import TradeCharts.Proofs.Chart.Usable
import TradeCharts.Proofs.Numeric.Packing
import TradeCharts.Proofs.Trade.Alike

/-!
Signs of amounts. A text, the text behind a plus and the text behind a minus have the same magnitude,
whether they are numbers or not, and so have a double and its negation. Charts and histories read
magnitudes only, so the signs of amounts have no influence on them (`signs_irrelevant`).
-/
namespace TradeCharts

namespace Text

/-- A text that starts neither with white space nor with a sign. -/
def Unsigned (r : String) : Prop :=
  ∀ c ∈ r.toList.head?, isWhiteSpace c = false ∧ c ≠ '+' ∧ c ≠ '-'

instance (r : String) : Decidable (Unsigned r) :=
  decidable_of_iff (r.toList.head?.all fun c => !isWhiteSpace c && c != '+' && c != '-') <| by
    simp only [Unsigned, Option.all_eq_true, Option.mem_def, Bool.and_eq_true, Bool.not_eq_true',
      bne_iff_ne, and_assoc]

def signVariants (r : String) : List String := [r, "+" ++ r, "-" ++ r]

def trimEnd (p : Char → Bool) (cs : List Char) : List Char :=
  (cs.reverse.dropWhile p).reverse

lemma trimBoth_cons {p : Char → Bool} {c : Char} (hc : p c = false) (cs : List Char) :
    trimBoth p (c :: cs) = c :: trimEnd p cs := by
  have hfront : (c :: cs).dropWhile p = c :: cs := List.dropWhile_cons_of_neg (by simp [hc])
  have hlast : [c].dropWhile p = [c] := List.dropWhile_cons_of_neg (by simp [hc])
  unfold trimBoth trimEnd
  rw [hfront, List.reverse_cons, List.dropWhile_append, hlast]
  split_ifs with hnil
  · simp [List.isEmpty_iff.1 hnil]
  · simp

lemma toAsciiDigit_ne {c d : Char} (hcd : c ≠ d) (hd : d.toNat < 0x30) : toAsciiDigit c ≠ d := by
  unfold toAsciiDigit
  cases h : digitValue? c with
  | none => exact hcd
  | some n =>
    -- A digit of any script becomes a digit of ASCII, and these stand behind both signs.
    have hn := digitValue?_le_nine h
    intro he
    have htoNat : (Char.ofNat (0x30 + n)).toNat = 0x30 + n := by
      rw [Char.ofNat, dif_pos (by unfold Nat.isValidChar; omega)]
      rfl
    rw [← he, htoNat] at hd
    omega

lemma splitSign_of_ne {c : Char} (hp : c ≠ '+') (hm : c ≠ '-') (cs : List Char) :
    splitSign (c :: cs) = (false, c :: cs) := by
  unfold splitSign
  split
  · next he => exact absurd (List.cons.inj he).1 hm
  · next he => exact absurd (List.cons.inj he).1 hp
  · rfl

/-- What stands behind the sign of a text once it is trimmed and its digits are read. -/
def unsignedChars (cs : List Char) : List Char :=
  (splitSign ((trimBoth isWhiteSpace cs).map toAsciiDigit)).2

lemma unsignedChars_of_unsigned {r : String} (hr : Unsigned r) :
    unsignedChars r.toList = (trimEnd isWhiteSpace r.toList).map toAsciiDigit := by
  unfold Unsigned at hr
  generalize r.toList = cs at hr
  cases cs with
  | nil => rfl
  | cons c cs =>
    obtain ⟨hw, hp, hm⟩ := hr c rfl
    have hend : trimEnd isWhiteSpace (c :: cs) = c :: trimEnd isWhiteSpace cs := by
      have h := trimBoth_cons hw cs
      unfold trimBoth at h
      rwa [List.dropWhile_cons_of_neg (by simp [hw])] at h
    unfold unsignedChars
    rw [trimBoth_cons hw, hend, List.map_cons,
      splitSign_of_ne (toAsciiDigit_ne hp (by decide)) (toAsciiDigit_ne hm (by decide))]

lemma unsignedChars_of_mem {s r : String} (hs : s ∈ signVariants r) (hr : Unsigned r) :
    unsignedChars s.toList = (trimEnd isWhiteSpace r.toList).map toAsciiDigit := by
  simp only [signVariants, List.mem_cons, List.not_mem_nil, or_false] at hs
  -- A sign is no white space, so trimming leaves it in front, where it is split off.
  rcases hs with rfl | rfl | rfl
  · exact unsignedChars_of_unsigned hr
  · rw [String.toList_append]
    change (splitSign ((trimBoth isWhiteSpace ('+' :: r.toList)).map toAsciiDigit)).2 = _
    rw [trimBoth_cons (by decide)]
    rfl
  · rw [String.toList_append]
    change (splitSign ((trimBoth isWhiteSpace ('-' :: r.toList)).map toAsciiDigit)).2 = _
    rw [trimBoth_cons (by decide)]
    rfl

end Text

open Text

theorem amountOfText?_of_mem {s r : String} (hs : s ∈ signVariants r) (hr : Unsigned r) :
    amountOfText? s = amountOfText? r := by
  change (unsignedAmount? (unsignedChars s.toList)).bind finiteMagnitude? =
    (unsignedAmount? (unsignedChars r.toList)).bind finiteMagnitude?
  rw [unsignedChars_of_mem hs hr, unsignedChars_of_unsigned hr]

theorem finiteMagnitude?_neg (x : Float) : finiteMagnitude? (-x) = finiteMagnitude? x := by
  have hfinite : (-x).isFinite = x.isFinite := Bool.eq_iff_iff.2 (Binary64.isFinite_neg x)
  unfold finiteMagnitude?
  rw [hfinite, Binary64.abs_neg]

/-- Two amounts that differ at most in their sign. -/
inductive FormattedAmount.UpToSign : FormattedAmount → FormattedAmount → Prop where
  | same (a : FormattedAmount) : UpToSign a a
  | text {r s u : String} (hr : Unsigned r) (hs : s ∈ signVariants r) (hu : u ∈ signVariants r) :
      UpToSign (.text s) (.text u)
  | negated (x : Float) : UpToSign (.number x) (.number (-x))
  | restored (x : Float) : UpToSign (.number (-x)) (.number x)

theorem FormattedAmount.UpToSign.magnitude? {a b : FormattedAmount} (h : a.UpToSign b) :
    a.magnitude? = b.magnitude? := by
  cases h with
  | same => rfl
  | text hr hs hu => exact (amountOfText?_of_mem hs hr).trans (amountOfText?_of_mem hu hr).symm
  | negated x => exact (finiteMagnitude?_neg x).symm
  | restored x => exact finiteMagnitude?_neg x

namespace Trade

def withAmounts (t : Trade) (input output : FormattedAmount) : Trade :=
  { t with
    input := { t.input with formattedAmount := input }
    output := { t.output with formattedAmount := output } }

/-- Two trades that differ at most in the signs of their formatted amounts. -/
inductive UpToSigns : Trade → Trade → Prop where
  | withAmounts {t : Trade} {input output : FormattedAmount}
      (hinput : t.input.formattedAmount.UpToSign input)
      (houtput : t.output.formattedAmount.UpToSign output) : UpToSigns t (t.withAmounts input output)

lemma UpToSigns.alike {t u : Trade} (h : t.UpToSigns u) : t.Alike u := by
  cases h with
  | withAmounts hinput houtput => exact ⟨rfl, rfl, rfl, rfl, hinput.magnitude?, houtput.magnitude?⟩

end Trade

structure ReadAlike (trades trades' : List Trade) : Prop where
  places : ∀ v : View, v.places trades = v.places trades'
  chart : ∀ (v : View) (palette : Palette), v.chart palette trades = v.chart palette trades'
  history : ∀ theme, History.points theme trades = History.points theme trades'
  chart_skips : ∀ v : View, trades.map (fun t => View.skipReason? (v.verdict t)) =
    trades'.map fun t => View.skipReason? (v.verdict t)
  history_skips : trades.map History.skipReason? = trades'.map History.skipReason?
  chart_log : ∀ v : View, (v.log trades).map LogEntry.line = (v.log trades').map LogEntry.line
  history_log : (History.log trades).map LogEntry.line = (History.log trades').map LogEntry.line

/-- Trades that differ only in the signs of their amounts give the same charts and histories, and the
same trades are skipped. -/
theorem signs_irrelevant {trades trades' : List Trade}
    (h : List.Forall₂ Trade.UpToSigns trades trades') : ReadAlike trades trades' := by
  have halike : AllAlike trades trades' := h.imp fun _ _ htu => htu.alike
  constructor
  case places =>
    intro v
    exact halike.places (.refl v)
  case chart =>
    intro v palette
    exact halike.chart (.refl v) palette
  case history => exact halike.history
  case chart_skips =>
    intro v
    refine map_congr_of_forall₂ halike fun t u htu => ?_
    rw [htu.verdict (.refl v)]
  case history_skips =>
    refine map_congr_of_forall₂ halike fun t u htu => ?_
    rw [History.skipReason?, History.skipReason?, htu.sample]
  case chart_log => exact halike.chart_log
  case history_log => exact halike.history_log

/-- Texts and doubles with other signs, one of them no number. The second trade is skipped either
way, and the others keep their price. -/
theorem signs_irrelevant_texts :
    let t : Trade := .exchange 10 "a" 4.0 "b" 6.0
    let trades : List Trade := [t, t.withAmounts (.text "n/a") (.number 1.0),
      t.withAmounts (.text "-2") (.text "1_5e-1 ")]
    let trades' : List Trade := [t.withAmounts (.number (-4.0)) (.number 6.0),
      t.withAmounts (.text "-n/a") (.number (-1.0)), t.withAmounts (.text "2") (.text "+1_5e-1 ")]
    let v : View := ⟨"a", "b", 3600, 100⟩
    List.Forall₂ Trade.UpToSigns trades trades' ∧ ReadAlike trades trades' ∧
      (v.chart .standard trades').prices = [⟨10, 1.25⟩] ∧
      trades'.map (fun t => View.skipReason? (v.verdict t)) =
        [none, some .nonNumericAmount, none] := by
  intro t trades trades' v
  have hna : FormattedAmount.UpToSign (.text "n/a") (.text "-n/a") :=
    .text (r := "n/a") (by decide) (by decide) (by decide)
  have htwo : FormattedAmount.UpToSign (.text "-2") (.text "2") :=
    .text (r := "2") (by decide) (by decide) (by decide)
  have hfifteen : FormattedAmount.UpToSign (.text "1_5e-1 ") (.text "+1_5e-1 ") :=
    .text (r := "1_5e-1 ") (by decide) (by decide) (by decide)
  have hsigns : List.Forall₂ Trade.UpToSigns trades trades' :=
    .cons (.withAmounts (.negated 4.0) (.same (.number 6.0)))
      (.cons (.withAmounts hna (.negated 1.0)) (.cons (.withAmounts htwo hfifteen) .nil))
  exact ⟨hsigns, signs_irrelevant hsigns, by decide +kernel, by decide +kernel⟩

end TradeCharts
