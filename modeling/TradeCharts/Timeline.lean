/-!
Values kept by time. The entries stand in ascending order of time, one for each time, so a timeline
is determined by what it holds at each time (`ext_get?`), and an update at one time changes nothing
at another (`get?_update_of_ne`).
-/
namespace TradeCharts

/-- A finite map from times to values, its entries in strictly ascending order. -/
structure Timeline (α : Type) where
  entries : List (Int × α)
  ascending : entries.Pairwise (·.1 < ·.1)
  deriving Repr

namespace Timeline

variable {α β : Type}

def empty : Timeline α :=
  ⟨[], List.Pairwise.nil⟩

def size (l : Timeline α) : Nat :=
  l.entries.length

def times (l : Timeline α) : List Int :=
  l.entries.map (·.1)

def get? (l : Timeline α) (t : Int) : Option α :=
  l.entries.lookup t

/-- Replaces the value at a time, or puts one there when there is none. -/
def updateEntries (t : Int) (f : Option α → α) : List (Int × α) → List (Int × α)
  | [] => [(t, f none)]
  | (s, a) :: rest =>
    if t < s then (t, f none) :: (s, a) :: rest
    else if t = s then (s, f (some a)) :: rest
    else (s, a) :: updateEntries t f rest

theorem fst_mem_updateEntries {t : Int} {f : Option α → α} {l : List (Int × α)} {p : Int × α}
    (h : p ∈ updateEntries t f l) : p.1 = t ∨ ∃ q ∈ l, q.1 = p.1 := by
  induction l with
  | nil => simp_all [updateEntries]
  | cons q rest ih =>
    obtain ⟨s, a⟩ := q
    simp only [updateEntries] at h
    split at h
    · simp only [List.mem_cons] at h
      rcases h with rfl | rfl | h
      · exact Or.inl rfl
      · exact Or.inr ⟨_, List.mem_cons_self, rfl⟩
      · exact Or.inr ⟨p, by simp [h], rfl⟩
    · split at h
      · simp only [List.mem_cons] at h
        rcases h with rfl | h
        · exact Or.inr ⟨_, List.mem_cons_self, rfl⟩
        · exact Or.inr ⟨p, by simp [h], rfl⟩
      · rcases List.mem_cons.1 h with rfl | h
        · exact Or.inr ⟨_, List.mem_cons_self, rfl⟩
        · obtain h | ⟨q, hq, hqp⟩ := ih h
          · exact Or.inl h
          · exact Or.inr ⟨q, by simp [hq], hqp⟩

theorem ascending_updateEntries {t : Int} {f : Option α → α} {l : List (Int × α)}
    (h : l.Pairwise (·.1 < ·.1)) : (updateEntries t f l).Pairwise (·.1 < ·.1) := by
  induction l with
  | nil => simp [updateEntries]
  | cons q rest ih =>
    obtain ⟨s, a⟩ := q
    obtain ⟨hs, hrest⟩ := List.pairwise_cons.1 h
    simp only [updateEntries]
    split
    · next hts =>
      refine List.pairwise_cons.2 ⟨fun p hp => ?_, h⟩
      rcases List.mem_cons.1 hp with rfl | hp
      · exact hts
      · exact Int.lt_trans hts (hs p hp)
    · split
      · exact List.pairwise_cons.2 ⟨hs, hrest⟩
      · next hts hne =>
        refine List.pairwise_cons.2 ⟨fun p hp => ?_, ih hrest⟩
        obtain hp | ⟨q, hq, hqp⟩ := fst_mem_updateEntries hp
        · simp only [hp]; omega
        · simpa [hqp] using hs q hq

def update (l : Timeline α) (t : Int) (f : Option α → α) : Timeline α :=
  ⟨updateEntries t f l.entries, ascending_updateEntries l.ascending⟩

@[simp] theorem get?_empty (t : Int) : (empty : Timeline α).get? t = none := rfl

theorem lookup_cons_of_ne {t s : Int} {a : α} {l : List (Int × α)} (h : t ≠ s) :
    ((s, a) :: l).lookup t = l.lookup t := by
  have : (t == s) = false := by simpa using h
  simp [List.lookup_cons, this]

theorem lookup_eq_none {t : Int} {l : List (Int × α)} (h : ∀ p ∈ l, t < p.1) :
    l.lookup t = none := by
  induction l with
  | nil => rfl
  | cons q rest ih =>
    have hq : t < q.1 := h q List.mem_cons_self
    rw [lookup_cons_of_ne (by omega)]
    exact ih fun p hp => h p (List.mem_cons_of_mem _ hp)

theorem lookup_updateEntries {t : Int} {f : Option α → α} {l : List (Int × α)}
    (h : l.Pairwise (·.1 < ·.1)) :
    (updateEntries t f l).lookup t = some (f (l.lookup t)) := by
  induction l with
  | nil => simp [updateEntries]
  | cons q rest ih =>
    obtain ⟨s, a⟩ := q
    obtain ⟨hs, hrest⟩ := List.pairwise_cons.1 h
    simp only [updateEntries]
    split
    · next hts =>
      have : ((s, a) :: rest).lookup t = none := lookup_eq_none fun p hp => by
        rcases List.mem_cons.1 hp with rfl | hp
        · exact hts
        · exact Int.lt_trans hts (hs p hp)
      rw [this, List.lookup_cons_self]
    · split
      · next heq => subst heq; rw [List.lookup_cons_self, List.lookup_cons_self]
      · next hne => rw [lookup_cons_of_ne hne, lookup_cons_of_ne hne]; exact ih hrest

theorem lookup_updateEntries_of_ne {t u : Int} {f : Option α → α} {l : List (Int × α)}
    (hne : u ≠ t) : (updateEntries t f l).lookup u = l.lookup u := by
  induction l with
  | nil => exact lookup_cons_of_ne hne
  | cons q rest ih =>
    obtain ⟨s, a⟩ := q
    simp only [updateEntries]
    split
    · exact lookup_cons_of_ne hne
    · split
      · next heq => subst heq; rw [lookup_cons_of_ne hne, lookup_cons_of_ne hne]
      · by_cases hus : u = s
        · subst hus; rw [List.lookup_cons_self, List.lookup_cons_self]
        · rw [lookup_cons_of_ne hus, lookup_cons_of_ne hus, ih]

@[simp] theorem get?_update (l : Timeline α) (t : Int) (f : Option α → α) :
    (l.update t f).get? t = some (f (l.get? t)) :=
  lookup_updateEntries l.ascending

theorem get?_update_of_ne (l : Timeline α) {t u : Int} (f : Option α → α) (h : u ≠ t) :
    (l.update t f).get? u = l.get? u :=
  lookup_updateEntries_of_ne h

theorem lookup_eq_some_of_mem {l : List (Int × α)} (h : l.Pairwise (·.1 < ·.1)) {t : Int} {a : α}
    (hp : (t, a) ∈ l) : l.lookup t = some a := by
  induction l with
  | nil => simp at hp
  | cons q rest ih =>
    obtain ⟨hq, hrest⟩ := List.pairwise_cons.1 h
    rcases List.mem_cons.1 hp with rfl | hp
    · exact List.lookup_cons_self
    · have : q.1 < t := hq _ hp
      rw [lookup_cons_of_ne (by omega)]
      exact ih hrest hp

theorem mem_of_lookup_eq_some {l : List (Int × α)} {t : Int} {a : α} (h : l.lookup t = some a) :
    (t, a) ∈ l := by
  induction l with
  | nil => simp at h
  | cons q rest ih =>
    obtain ⟨s, b⟩ := q
    by_cases hts : t = s
    · subst hts
      rw [List.lookup_cons_self] at h
      cases h
      exact List.mem_cons_self
    · rw [lookup_cons_of_ne hts] at h
      exact List.mem_cons_of_mem _ (ih h)

theorem mem_entries_iff {l : Timeline α} {t : Int} {a : α} :
    (t, a) ∈ l.entries ↔ l.get? t = some a :=
  ⟨lookup_eq_some_of_mem l.ascending, mem_of_lookup_eq_some⟩

theorem entries_eq_of_mem_iff : ∀ {l m : List (Int × α)}, l.Pairwise (·.1 < ·.1) →
    m.Pairwise (·.1 < ·.1) → (∀ p, p ∈ l ↔ p ∈ m) → l = m
  | [], [], _, _, _ => rfl
  | [], q :: _, _, _, h => absurd ((h q).2 List.mem_cons_self) (by simp)
  | p :: _, [], _, _, h => absurd ((h p).1 List.mem_cons_self) (by simp)
  | p :: l, q :: m, hl, hm, h => by
    obtain ⟨hp, hl'⟩ := List.pairwise_cons.1 hl
    obtain ⟨hq, hm'⟩ := List.pairwise_cons.1 hm
    have hpq : p = q := by
      rcases List.mem_cons.1 ((h p).1 List.mem_cons_self) with h₁ | h₁
      · exact h₁
      rcases List.mem_cons.1 ((h q).2 List.mem_cons_self) with h₂ | h₂
      · exact h₂.symm
      have := hq p h₁
      have := hp q h₂
      omega
    subst hpq
    refine congrArg (p :: ·) (entries_eq_of_mem_iff hl' hm' fun r => ⟨fun hr => ?_, fun hr => ?_⟩)
    · rcases List.mem_cons.1 ((h r).1 (List.mem_cons_of_mem _ hr)) with rfl | h'
      · exact absurd (hp r hr) (Int.lt_irrefl _)
      · exact h'
    · rcases List.mem_cons.1 ((h r).2 (List.mem_cons_of_mem _ hr)) with rfl | h'
      · exact absurd (hq r hr) (Int.lt_irrefl _)
      · exact h'

/-- Two timelines that hold the same at each time are equal. -/
theorem ext_get? {l m : Timeline α} (h : ∀ t, l.get? t = m.get? t) : l = m := by
  have he : l.entries = m.entries := entries_eq_of_mem_iff l.ascending m.ascending fun p => by
    rw [show p = (p.1, p.2) from rfl, mem_entries_iff, mem_entries_iff, h]
  cases l; cases m; cases he; rfl

end Timeline

end TradeCharts
