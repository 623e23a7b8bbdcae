import Mathlib.Data.List.Nodup
import TradeCharts.Proofs.Timeline.Gather

/-!
Entries kept in the order in which their times were first used. They hold what a timeline holds, and
sorting them as pairs gives the entries of the timeline (`isSortOf_gatherInPlace_iff`): no two of them
share a time, so it never matters how values compare.
-/
namespace TradeCharts.Timeline

variable {α β : Type} {time : β → Int} {merge : α → β → α} {zero : α} {l : List (Int × α)}
  {t u : Int} {a : α} {f : Option α → α}

/-- Replaces the value at a time where it stands, or puts one behind all others when there is none. -/
def updateInPlace (t : Int) (f : Option α → α) : List (Int × α) → List (Int × α)
  | [] => [(t, f none)]
  | (s, a) :: rest =>
    if t = s then (s, f (some a)) :: rest else (s, a) :: updateInPlace t f rest

/-- Merges the items of a list one after the other, each into the entry of its time. -/
def gatherInPlace (time : β → Int) (merge : α → β → α) (zero : α) (items : List β) :
    List (Int × α) :=
  items.foldl (fun l b => updateInPlace (time b) (fun a? => merge (a?.getD zero) b) l) []

theorem gatherInPlace_append_singleton (items : List β) (b : β) :
    gatherInPlace time merge zero (items ++ [b]) =
      updateInPlace (time b) (fun a? => merge (a?.getD zero) b)
        (gatherInPlace time merge zero items) := by
  simp [gatherInPlace]

theorem lookup_updateInPlace (t : Int) (f : Option α → α) (l : List (Int × α)) :
    (updateInPlace t f l).lookup t = some (f (l.lookup t)) := by
  induction l with
  | nil => simp [updateInPlace]
  | cons entry rest ih =>
    obtain ⟨s, a⟩ := entry
    simp only [updateInPlace]
    split_ifs with h
    · subst h
      rw [List.lookup_cons_self, List.lookup_cons_self]
    · rw [lookup_cons_of_ne h, lookup_cons_of_ne h, ih]

theorem lookup_updateInPlace_of_ne (f : Option α → α) (h : u ≠ t) (l : List (Int × α)) :
    (updateInPlace t f l).lookup u = l.lookup u := by
  induction l with
  | nil => exact lookup_cons_of_ne h
  | cons entry rest ih =>
    obtain ⟨s, a⟩ := entry
    simp only [updateInPlace]
    split_ifs with hs
    · subst hs
      rw [lookup_cons_of_ne h, lookup_cons_of_ne h]
    · rw [List.lookup_cons, List.lookup_cons, ih]

theorem fst_mem_updateInPlace (h : u ∈ (updateInPlace t f l).map (·.1)) :
    u = t ∨ u ∈ l.map (·.1) := by
  induction l with
  | nil => simpa [updateInPlace] using h
  | cons entry rest ih =>
    obtain ⟨s, a⟩ := entry
    simp only [updateInPlace] at h
    split_ifs at h
    · exact .inr h
    · rcases List.mem_cons.1 h with rfl | h
      · exact .inr List.mem_cons_self
      · exact (ih h).imp_right (List.mem_cons_of_mem s)

theorem nodup_updateInPlace (t : Int) (f : Option α → α) (h : (l.map (·.1)).Nodup) :
    ((updateInPlace t f l).map (·.1)).Nodup := by
  induction l with
  | nil => simp [updateInPlace]
  | cons entry rest ih =>
    obtain ⟨s, a⟩ := entry
    obtain ⟨hs, hrest⟩ := List.nodup_cons.1 h
    simp only [updateInPlace]
    split_ifs with hts
    · exact h
    · refine List.nodup_cons.2 ⟨fun hmem => ?_, ih hrest⟩
      rcases fst_mem_updateInPlace hmem with hst | hmem
      · exact hts hst.symm
      · exact hs hmem

theorem nodup_gatherInPlace (items : List β) :
    ((gatherInPlace time merge zero items).map (·.1)).Nodup := by
  induction items using List.reverseRecOn with
  | nil => exact List.nodup_nil
  | append_singleton items b ih =>
    rw [gatherInPlace_append_singleton]
    exact nodup_updateInPlace _ _ ih

theorem lookup_gatherInPlace (items : List β) (t : Int) :
    (gatherInPlace time merge zero items).lookup t = (gather time merge zero items).get? t := by
  induction items using List.reverseRecOn with
  | nil => rfl
  | append_singleton items b ih =>
    rw [gatherInPlace_append_singleton, gather_append_singleton]
    by_cases h : t = time b
    · subst h
      rw [lookup_updateInPlace, get?_update, ih]
    · rw [lookup_updateInPlace_of_ne _ h, get?_update_of_ne _ _ h, ih]

theorem lookup_eq_some_iff_mem (h : (l.map (·.1)).Nodup) :
    l.lookup t = some a ↔ (t, a) ∈ l := by
  refine ⟨mem_of_lookup_eq_some, fun hmem => ?_⟩
  induction l with
  | nil => cases hmem
  | cons entry rest ih =>
    obtain ⟨hentry, hrest⟩ := List.nodup_cons.1 h
    rcases List.mem_cons.1 hmem with rfl | hmem
    · exact List.lookup_cons_self
    · have hne : t ≠ entry.1 := by
        rintro rfl
        exact hentry (List.mem_map.2 ⟨_, hmem, rfl⟩)
      rw [lookup_cons_of_ne hne]
      exact ih hrest hmem

theorem gatherInPlace_perm_entries (time : β → Int) (merge : α → β → α) (zero : α)
    (items : List β) :
    (gatherInPlace time merge zero items).Perm (gather time merge zero items).entries := by
  refine (List.perm_ext_iff_of_nodup (List.Nodup.of_map _ (nodup_gatherInPlace items))
    (List.Nodup.of_map _ (nodup_times _))).2 fun (t, a) => ?_
  rw [← lookup_eq_some_iff_mem (nodup_gatherInPlace items), lookup_gatherInPlace, mem_entries_iff]

/-- The order of entries as pairs: by time, and at one time in the order of the values, whatever that
is. -/
def Precedes (below : α → α → Prop) (p q : Int × α) : Prop :=
  p.1 < q.1 ∨ p.1 = q.1 ∧ below p.2 q.2

/-- A rearrangement of a list in which no entry precedes an earlier one. -/
structure IsSortOf (below : α → α → Prop) (l sorted : List (Int × α)) : Prop where
  perm : sorted.Perm l
  ordered : sorted.Pairwise fun p q => ¬ Precedes below q p

/-- Sorting the entries gives those of the timeline. -/
theorem isSortOf_gatherInPlace_iff (below : α → α → Prop) (items : List β)
    (sorted : List (Int × α)) :
    IsSortOf below (gatherInPlace time merge zero items) sorted ↔
      sorted = (gather time merge zero items).entries := by
  have hperm := gatherInPlace_perm_entries time merge zero items
  have hascending := (gather time merge zero items).ascending
  constructor
  · rintro ⟨hsorted, hordered⟩
    have hnodup : (sorted.map (·.1)).Nodup :=
      (hsorted.map _).nodup_iff.2 (nodup_gatherInPlace items)
    have hlt : sorted.Pairwise (·.1 < ·.1) := by
      refine (hordered.and (List.pairwise_map.1 hnodup)).imp fun {p q} ⟨hnot, hne⟩ => ?_
      have hle : ¬ q.1 < p.1 := fun h => hnot (.inl h)
      omega
    exact eq_of_ascending Prod.fst hlt hascending fun p => (hsorted.trans hperm).mem_iff
  · rintro rfl
    refine ⟨hperm.symm, hascending.imp fun {p q} hpq => ?_⟩
    rintro (h | ⟨h, -⟩) <;> omega

end TradeCharts.Timeline
