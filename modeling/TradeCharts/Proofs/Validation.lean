import Mathlib.Tactic.Common
import TradeCharts.Proofs.Json.Integers
import TradeCharts.Proofs.Text.Digits
import TradeCharts.Validation

/-! What checked values come from: the parts of a whole that is valid are valid, and the whole numbers
read from a value stay within the digit limit if those in the value do. -/
namespace TradeCharts

open Text

lemma isWritable_of_readStrict {cs : List Char} {n : Int}
    (h : WholeNumber.readStrict cs = .ok n) : isWritable n := by
  simp only [WholeNumber.readStrict] at h
  split_ifs at h with hform hlong hrest
  cases h
  refine isWritable_of_lt _ ?_ (Nat.not_lt.1 hlong)
  rw [natAbs_signed]
  exact digitsValue_lt _

lemma isWritable_of_read {s : String} {n : Int} (h : WholeNumber.read s = .ok n) :
    isWritable n := by
  rw [WholeNumber.read] at h
  cases hstrict : WholeNumber.readStrict s.toList with
  | ok m =>
    rw [hstrict] at h
    cases h
    exact isWritable_of_readStrict hstrict
  | error e =>
    rw [hstrict] at h
    cases e with
    | tooLong => cases h
    | malformed =>
      simp only at h
      split at h
      · next m hm =>
        cases h
        obtain ⟨cs, -, hcs⟩ := Option.map_eq_some_iff.1 hm
        exact isWritable_of_readStrict hcs
      · cases h

lemma isWritable_of_integerOfFloat {x : Float} {n : Int} (h : integerOfFloat x = .ok n) :
    isWritable n := by
  rw [integerOfFloat] at h
  split_ifs at h
  split at h
  · cases h
  · split_ifs at h with hbound
    cases h
    refine isWritable_of_lt 19 ?_ (by decide)
    rw [natAbs_signed]
    exact Nat.lt_of_lt_of_le hbound (by decide)

theorem isWritable_of_integerOfJson {v : Json} (hv : v.Writable) {n : Int}
    (h : integerOfJson v = .ok n) : isWritable n := by
  cases hv with
  | integer hn =>
    cases h
    exact hn
  | boolean b =>
    cases h
    refine isWritable_of_lt 1 ?_ (by decide)
    cases b <;> decide
  | number x => exact isWritable_of_integerOfFloat h
  | text s =>
    rw [integerOfJson] at h
    cases hs : WholeNumber.read s with
    | ok m =>
      rw [hs] at h
      cases h
      exact isWritable_of_read hs
    | error e =>
      rw [hs] at h
      cases h
  | _ => cases h

namespace Checked

variable {α β : Type}

lemma map_eq_valid {f : α → β} {a : Checked α} {b : β} (h : f <$> a = .valid b) :
    ∃ x, a = .valid x ∧ b = f x := by
  cases a with
  | valid x =>
    cases h
    exact ⟨x, rfl, rfl⟩
  | invalid i is => cases h

lemma seq_eq_valid {f : Checked (α → β)} {a : Checked α} {b : β} (h : f <*> a = .valid b) :
    ∃ g x, f = .valid g ∧ a = .valid x ∧ b = g x := by
  cases f with
  | valid g =>
    cases a with
    | valid x =>
      cases h
      exact ⟨g, x, rfl, rfl, rfl⟩
    | invalid i is => cases h
  | invalid i is => cases a <;> cases h

lemma under_eq_valid {name : String} {a : Checked α} {x : α} (h : a.under name = .valid x) :
    a = .valid x := by
  cases a with
  | valid y => exact h
  | invalid i is => cases h

lemma mem_of_find?_eq_some {k : FieldKey} {fields : List (String × Json)} {name : String}
    {v : Json} (h : k.find? fields = some (name, v)) : (name, v) ∈ fields := by
  have hlookup {key : String} {w : Json} (hw : fields.lookup key = some w) : (key, w) ∈ fields := by
    obtain ⟨before, after, rfl, -⟩ := List.lookup_eq_some_iff.1 hw
    simp
  rw [FieldKey.find?] at h
  split at h
  · next w hw =>
    cases h
    exact hlookup hw
  · obtain ⟨w, hw, heq⟩ := Option.map_eq_some_iff.1 h
    cases heq
    exact hlookup hw

lemma required_eq_valid {fields : List (String × Json)} {k : FieldKey} {read : Json → Checked α}
    {x : α} (h : required fields k read = .valid x) : ∃ f ∈ fields, read f.2 = .valid x := by
  rw [required] at h
  split at h
  · next name v hfind => exact ⟨(name, v), mem_of_find?_eq_some hfind, under_eq_valid h⟩
  · cases h

lemma isWritable_of_integer {v : Json} (hv : v.Writable) {n : Int}
    (h : Checked.integer v = .valid n) : isWritable n := by
  rw [integer] at h
  split at h
  · next m hm =>
    cases h
    exact isWritable_of_integerOfJson hv hm
  · cases h

end Checked

end TradeCharts
