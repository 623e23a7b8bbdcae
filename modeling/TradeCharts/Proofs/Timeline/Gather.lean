import Mathlib.Data.List.Induction
import Mathlib.Data.List.Perm.Subperm
import TradeCharts.Timeline

/-!
Timelines gathered from a list. Every item is merged into what its time holds, so the value at a
time is the fold over the items of that time, in their order (`get?_gather`), however the items of
different times interleave.
-/
namespace TradeCharts

/-- Two lists that hold the same and ascend strictly by a key are equal. -/
theorem eq_of_ascending {α : Type} (key : α → Int) {l m : List α}
    (hl : l.Pairwise (key · < key ·)) (hm : m.Pairwise (key · < key ·))
    (h : ∀ a, a ∈ l ↔ a ∈ m) : l = m := by
  have nodup {k : List α} (hk : k.Pairwise (key · < key ·)) : k.Nodup :=
    hk.imp fun hab he => absurd (congrArg key he) (Int.ne_of_lt hab)
  refine List.Perm.eq_of_pairwise (fun a b _ _ hab hba => ?_) hl hm
    ((List.perm_ext_iff_of_nodup (nodup hl) (nodup hm)).2 h)
  omega

namespace Timeline

variable {α β : Type}

/-- Merges the items of a list one after the other; a time that holds nothing starts from `zero`. -/
def gather (time : β → Int) (merge : α → β → α) (zero : α) (items : List β) : Timeline α :=
  items.foldl (fun l b => l.update (time b) fun a? => merge (a?.getD zero) b) empty

/-- The items of one time, in their order. -/
def itemsAt (time : β → Int) (items : List β) (t : Int) : List β :=
  items.filter (time · = t)

variable {time : β → Int} {merge : α → β → α} {zero : α} {items : List β} {t : Int}

theorem gather_append_singleton (items : List β) (b : β) :
    gather time merge zero (items ++ [b]) =
      (gather time merge zero items).update (time b) fun a? => merge (a?.getD zero) b := by
  simp [gather]

theorem itemsAt_append_singleton (items : List β) (b : β) (t : Int) :
    itemsAt time (items ++ [b]) t =
      itemsAt time items t ++ if time b = t then [b] else [] := by
  by_cases h : time b = t <;> simp [itemsAt, h]

theorem itemsAt_ne_nil : itemsAt time items t ≠ [] ↔ ∃ b ∈ items, time b = t := by
  simp [itemsAt, List.filter_eq_nil_iff]

theorem itemsAt_filter (p : β → Bool) (items : List β) (t : Int) :
    itemsAt time (items.filter p) t = (itemsAt time items t).filter p := by
  simp [itemsAt, List.filter_filter, Bool.and_comm]

/-- A time holds the fold over its own items, and nothing when it has none. -/
theorem get?_gather (items : List β) (t : Int) :
    (gather time merge zero items).get? t =
      if itemsAt time items t = [] then none else some ((itemsAt time items t).foldl merge zero) := by
  induction items using List.reverseRecOn with
  | nil => rfl
  | append_singleton items b ih =>
    rw [gather_append_singleton, itemsAt_append_singleton]
    by_cases h : time b = t
    · subst h
      rw [get?_update, ih]
      by_cases he : itemsAt time items (time b) = [] <;> simp [he]
    · rw [get?_update_of_ne _ _ (Ne.symm h), ih]
      simp [h]

/-- Only the items of each time count, not how different times interleave. -/
theorem gather_congr {items' : List β} (h : ∀ t, itemsAt time items t = itemsAt time items' t) :
    gather time merge zero items = gather time merge zero items' := by
  refine ext_get? fun t => ?_
  rw [get?_gather, get?_gather, h t]

theorem mem_entries_gather {a : α} :
    (t, a) ∈ (gather time merge zero items).entries ↔
      (∃ b ∈ items, time b = t) ∧ a = (itemsAt time items t).foldl merge zero := by
  rw [mem_entries_iff, get?_gather, ← itemsAt_ne_nil]
  split_ifs with h <;> simp [h, eq_comm]

theorem mem_times_gather :
    t ∈ (gather time merge zero items).times ↔ ∃ b ∈ items, time b = t := by
  rw [times, List.mem_map]
  constructor
  · rintro ⟨⟨s, a⟩, hentry, rfl⟩
    exact (mem_entries_gather.1 hentry).1
  · intro h
    exact ⟨_, mem_entries_gather.2 ⟨h, rfl⟩, rfl⟩

theorem nodup_times (l : Timeline α) : l.times.Nodup :=
  (List.pairwise_map.2 l.ascending).imp Int.ne_of_lt

/-- No more times are filled than there are items. -/
theorem size_gather_le (items : List β) :
    (gather time merge zero items).size ≤ items.length := by
  have hsubset : (gather time merge zero items).times ⊆ items.map time := by
    intro t ht
    exact List.mem_map.2 (mem_times_gather.1 ht)
  have hle := ((nodup_times _).subperm hsubset).length_le
  simpa [times, size] using hle

/-- Updates at different times can be made in either order. -/
theorem update_comm (l : Timeline α) {s t : Int} (h : s ≠ t) (f g : Option α → α) :
    (l.update s f).update t g = (l.update t g).update s f := by
  refine ext_get? fun u => ?_
  by_cases hs : u = s
  · subst hs
    rw [get?_update_of_ne _ _ h, get?_update, get?_update, get?_update_of_ne _ _ h]
  · rw [get?_update_of_ne (l.update t g) f hs]
    by_cases ht : u = t
    · subst ht
      rw [get?_update, get?_update, get?_update_of_ne _ _ hs]
    · rw [get?_update_of_ne _ _ ht, get?_update_of_ne _ _ hs, get?_update_of_ne _ _ ht]

/-- Lists with items at the same times fill the same times, whatever the items are merged into. -/
theorem times_gather_congr {α' β' : Type} {time' : β' → Int} {merge' : α' → β' → α'} {zero' : α'}
    {items' : List β'} (h : ∀ t, (∃ b ∈ items, time b = t) ↔ ∃ b ∈ items', time' b = t) :
    (gather time merge zero items).times = (gather time' merge' zero' items').times := by
  refine eq_of_ascending id (List.pairwise_map.2 (ascending _)) (List.pairwise_map.2 (ascending _))
    fun t => ?_
  rw [mem_times_gather, mem_times_gather]
  exact h t

end Timeline

end TradeCharts
