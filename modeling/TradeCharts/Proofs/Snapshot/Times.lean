import Mathlib.Tactic.Common
import TradeCharts.Proofs.Json.Integers
import TradeCharts.Proofs.Validation
import TradeCharts.Snapshot

/-! The times of loaded trades: they are in ascending order, and all within the digit limit, whether
they stand in the file as numbers, texts or truth values. -/
namespace TradeCharts

open Text

theorem Trade.isWritable_timestamp {r : Json} (hr : r.Writable) {t : Trade}
    (h : Trade.ofJson r = .valid t) : isWritable t.timestamp := by
  cases hr with
  | object hfields =>
    rw [Trade.ofJson, Checked.object] at h
    obtain ⟨f4, hash, h4, -, rfl⟩ := Checked.seq_eq_valid h
    obtain ⟨f3, output, h3, -, rfl⟩ := Checked.seq_eq_valid h4
    obtain ⟨f2, input, h2, -, rfl⟩ := Checked.seq_eq_valid h3
    obtain ⟨f1, time, h1, htime, rfl⟩ := Checked.seq_eq_valid h2
    obtain ⟨id, -, rfl⟩ := Checked.map_eq_valid h1
    obtain ⟨f, hf, hvalid⟩ := Checked.required_eq_valid htime
    exact Checked.isWritable_of_integer (hfields f hf) hvalid
  | _ => cases h

lemma Trade.mem_of_listOfJson_go {rs : List Json} {index : Nat} {ts : List Trade}
    (h : listOfJson.go index rs = .ok ts) {t : Trade} (ht : t ∈ ts) :
    ∃ r ∈ rs, ofJson r = .valid t := by
  induction rs generalizing index ts with
  | nil =>
    cases h
    cases ht
  | cons r rs ih =>
    rw [listOfJson.go] at h
    cases hr : ofJson r with
    | invalid i is =>
      rw [hr] at h
      cases h
    | valid u =>
      rw [hr] at h
      cases hrest : listOfJson.go (index + 1) rs with
      | error e =>
        rw [hrest] at h
        cases h
      | ok us =>
        rw [hrest] at h
        cases h
        rcases List.mem_cons.1 ht with rfl | ht
        · exact ⟨r, List.mem_cons_self, hr⟩
        · obtain ⟨r', hr', hvalid⟩ := ih hrest ht
          exact ⟨r', List.mem_cons_of_mem r hr', hvalid⟩

namespace Snapshot

lemma pairwise_sort (ts : List Trade) :
    (sort ts).Pairwise fun t u => t.timestamp ≤ u.timestamp := by
  have h : (sort ts).Pairwise fun t u => decide (t.timestamp ≤ u.timestamp) :=
    List.pairwise_mergeSort (by simp; omega) (by simp; omega) _
  simpa using h

lemma writable_parse {depth : Nat} {cs : List Char} {v : Json} (h : parse depth cs = .ok v) :
    v.Writable := by
  rw [parse] at h
  split at h <;> cases h
  exact Json.writable_of_read rfl ‹_›

lemma writable_records {v : Json} (hv : v.Writable) {rs : List Json} (h : records v = .ok rs) :
    ∀ r ∈ rs, r.Writable := by
  cases hv with
  | list hitems =>
    cases h
    exact hitems
  | object hfields =>
    rw [records] at h
    split at h
    · next hitems =>
      cases h
      obtain ⟨before, after, rfl, -⟩ := List.lookup_eq_some_iff.1 hitems
      cases hfields ("trades", .list rs) (by simp) with
      | list hitems => exact hitems
    · cases h
  | _ => cases h

lemma mem_of_trades {rs : List Json} {ts : List Trade} (h : trades rs = .ok ts) {t : Trade}
    (ht : t ∈ ts) : ∃ r ∈ rs, Trade.ofJson r = .valid t := by
  rw [trades] at h
  split at h <;> cases h
  exact Trade.mem_of_listOfJson_go ‹_› ht

structure Loaded (ts : List Trade) : Prop where
  ascending : ts.Pairwise fun t u => t.timestamp ≤ u.timestamp
  writable : ∀ t ∈ ts, isWritable t.timestamp

lemma bind_eq_ok {ε α β : Type} {r : Except ε α} {f : α → Except ε β} {b : β}
    (h : r >>= f = .ok b) : ∃ a, r = .ok a ∧ f a = .ok b := by
  cases r with
  | ok a => exact ⟨a, rfl, h⟩
  | error e => cases h

theorem loaded_of_load {files : Files} {depth : Nat} {path : String} {ts : List Trade}
    (h : load files depth path = .ok ts) : Loaded ts := by
  obtain ⟨bytes, -, hbytes⟩ := bind_eq_ok h
  obtain ⟨cs, -, hcs⟩ := bind_eq_ok hbytes
  obtain ⟨v, hparse, hv⟩ := bind_eq_ok hcs
  obtain ⟨rs, hrecords, hrs⟩ := bind_eq_ok hv
  obtain ⟨us, htrades, hus⟩ := bind_eq_ok hrs
  cases hus
  refine ⟨pairwise_sort us, fun t ht => ?_⟩
  obtain ⟨r, hr, hvalid⟩ := mem_of_trades htrades (List.mem_mergeSort.1 ht)
  exact Trade.isWritable_timestamp (writable_records (writable_parse hparse) hrecords r hr) hvalid

end Snapshot

end TradeCharts
