import Mathlib.Tactic.Common
import TradeCharts.Label
import TradeCharts.Proofs.Calendar

/-! Which moments have a label: those of the years 1 to 9999, both in universal time and in the zone.
The bounds of the clock and of broken-down times are never the ones that matter. -/
namespace TradeCharts.Label

open Calendar

/-- The moments of the years that labels can show. -/
def Shown (seconds : Int) : Prop :=
  firstSecond ≤ seconds ∧ seconds ≤ lastSecond

instance (seconds : Int) : Decidable (Shown seconds) :=
  inferInstanceAs (Decidable (_ ∧ _))

lemma fitsBits_of_shown {seconds : Int} (h : Shown seconds) : fitsBits 64 seconds := by
  unfold Shown firstSecond lastSecond at h
  rw [fitsBits, show (twoTo (64 - 1) : Int) = 9223372036854775808 from rfl]
  simp only [Bool.and_eq_true, decide_eq_true_eq]
  omega

lemma fitsBits_of_inRange {year : Int} (h : inRange year) : fitsBits 32 (year - yearOrigin) := by
  simp only [inRange, Bool.and_eq_true, decide_eq_true_eq] at h
  rw [fitsBits, show (twoTo (32 - 1) : Int) = 2147483648 from rfl, yearOrigin]
  simp only [Bool.and_eq_true, decide_eq_true_eq]
  omega

/-- Whether a moment has a label in a zone. -/
def HasLabel (zone : Zone) (seconds : Int) : Prop :=
  Shown seconds ∧ Shown (seconds + zone.offsetAt seconds)

instance (zone : Zone) (seconds : Int) : Decidable (HasLabel zone seconds) :=
  inferInstanceAs (Decidable (_ ∧ _))

theorem ofSeconds_eq_ok_iff (seconds window : Int) (zone : Zone) :
    (∃ label, ofSeconds seconds window zone = .ok label) ↔
      HasLabel zone seconds := by
  have hhere := inRange_year_iff seconds
  have hthere := inRange_year_iff (seconds + zone.offsetAt seconds)
  unfold ofSeconds
  simp only
  split_ifs with hclock hyears hyear hlocal
  · refine iff_of_false (by simp) fun h => ?_
    rw [fitsBits_of_shown h.1] at hclock
    cases hclock
  · refine iff_of_false (by simp) fun h => ?_
    rw [fitsBits_of_inRange (hhere.2 h.1)] at hyears
    cases hyears
  · refine iff_of_false (by simp) fun h => ?_
    rw [hhere.2 h.1] at hyear
    cases hyear
  · rw [Bool.not_eq_true', Bool.not_eq_false] at hyear
    exact iff_of_true ⟨_, rfl⟩ ⟨hhere.1 hyear, hthere.1 hlocal⟩
  · exact iff_of_false (by simp) fun h => hlocal (hthere.2 h.2)

lemma eq_render_of_ofSeconds {seconds window : Int} {zone : Zone} {label : String}
    (h : ofSeconds seconds window zone = .ok label) :
    label = render window (minuteOf (seconds + zone.offsetAt seconds)) := by
  unfold ofSeconds at h
  simp only at h
  split_ifs at h
  exact (Except.ok.inj h).symm

/-- A label is that of the minute in the zone. -/
theorem ofSeconds_eq_ok (seconds window : Int) (zone : Zone) (label : String) :
    ofSeconds seconds window zone = .ok label ↔ HasLabel zone seconds ∧
      label = render window (minuteOf (seconds + zone.offsetAt seconds)) := by
  constructor
  · intro h
    exact ⟨(ofSeconds_eq_ok_iff seconds window zone).1 ⟨label, h⟩, eq_render_of_ofSeconds h⟩
  · rintro ⟨hlabel, rfl⟩
    obtain ⟨label, h⟩ := (ofSeconds_eq_ok_iff seconds window zone).2 hlabel
    rw [h, eq_render_of_ofSeconds h]

end TradeCharts.Label
