import Mathlib.Tactic.Common
import TradeCharts.Trade.Writing

/-!
The fields of objects as writers leave them: each stands under one of the names of its key, and in any
order. No name belongs to two keys of an object, so a key finds its own field whichever of its names
was chosen (`lookup_spelled`) and wherever the field stands (`Reordered.of_object`).
-/
namespace TradeCharts

namespace Json

def IsScalar : Json → Prop
  | list _ | object _ => False
  | _ => True

/-- Two values that differ at most in the order of fields, at any depth. -/
inductive Reordered : Json → Json → Prop where
  | refl (v : Json) : Reordered v v
  | fields {fs gs : List (String × Json)} (hperm : fs.Perm gs) (hnodup : (fs.map (·.1)).Nodup) :
      Reordered (.object fs) (.object gs)
  | field {before after : List (String × Json)} {name : String} {v w : Json} (h : Reordered v w) :
      Reordered (.object (before ++ (name, v) :: after)) (.object (before ++ (name, w) :: after))
  | item {before after : List Json} {v w : Json} (h : Reordered v w) :
      Reordered (.list (before ++ v :: after)) (.list (before ++ w :: after))
  | trans {u v w : Json} (h : Reordered u v) (h' : Reordered v w) : Reordered u w

lemma lookup_perm {fs gs : List (String × Json)} (hperm : fs.Perm gs)
    (hnodup : (fs.map (·.1)).Nodup) (name : String) : fs.lookup name = gs.lookup name := by
  induction hperm with
  | nil => rfl
  | cons f hperm ih =>
    obtain ⟨-, hrest⟩ := List.nodup_cons.1 hnodup
    rw [List.lookup_cons, List.lookup_cons, ih hrest]
  | swap f g rest =>
    obtain ⟨n, v⟩ := f
    obtain ⟨m, w⟩ := g
    obtain ⟨hne, -⟩ := List.nodup_cons.1 hnodup
    simp only [List.map_cons, List.mem_cons, not_or] at hne
    simp only [List.lookup_cons]
    cases hn : name == n with
    | false => rfl
    | true =>
      rw [beq_iff_eq] at hn
      rw [hn, beq_false_of_ne (Ne.symm hne.1)]
  | trans hperm hperm' ih ih' =>
    rw [ih hnodup, ih' ((hperm.map _).nodup hnodup)]

/-- Fields that hold the same values under the same names, up to the order within the values. -/
def SameFields (fs gs : List (String × Json)) : Prop :=
  ∀ name, Option.Rel Reordered (fs.lookup name) (gs.lookup name)

lemma SameFields.refl (fs : List (String × Json)) : SameFields fs fs := by
  intro name
  cases fs.lookup name with
  | none => exact .none
  | some v => exact .some (.refl v)

lemma SameFields.trans {fs gs hs : List (String × Json)} (h : SameFields fs gs)
    (h' : SameFields gs hs) : SameFields fs hs := by
  intro name
  have hfg := h name
  have hgh := h' name
  generalize fs.lookup name = u, gs.lookup name = v, hs.lookup name = w at hfg hgh
  cases hfg with
  | none => exact hgh
  | some hfg =>
    cases hgh with
    | some hgh => exact .some (hfg.trans hgh)

lemma sameFields_field {v w : Json} (h : Reordered v w) (before after : List (String × Json))
    (name : String) : SameFields (before ++ (name, v) :: after) (before ++ (name, w) :: after) := by
  intro n
  have hafter := SameFields.refl after n
  simp only [List.lookup_append, List.lookup_cons]
  cases before.lookup n with
  | some u => exact .some (.refl u)
  | none =>
    cases n == name with
    | true => exact .some h
    | false => exact hafter

namespace Reordered

lemma of_object {fs : List (String × Json)} {v : Json} (h : Reordered (.object fs) v) :
    ∃ gs, v = .object gs ∧ SameFields fs gs := by
  generalize hu : Json.object fs = u at h
  induction h generalizing fs with
  | refl => exact ⟨fs, hu.symm, .refl fs⟩
  | fields hperm hnodup =>
    cases hu
    refine ⟨_, rfl, fun name => ?_⟩
    rw [lookup_perm hperm hnodup]
    exact SameFields.refl _ name
  | field h =>
    cases hu
    exact ⟨_, rfl, sameFields_field h _ _ _⟩
  | item => cases hu
  | trans _ _ ih ih' =>
    obtain ⟨gs, hv, hfs⟩ := ih hu
    obtain ⟨hs, hw, hgs⟩ := ih' hv.symm
    exact ⟨hs, hw, hfs.trans hgs⟩

lemma eq_of_isScalar {u v : Json} (h : Reordered u v) (hu : u.IsScalar) : v = u := by
  induction h with
  | refl => rfl
  | fields => cases hu
  | field => cases hu
  | item => cases hu
  | trans _ _ ih ih' =>
    have hv := ih hu
    subst hv
    exact ih' hu

end Reordered

end Json

namespace FieldKey

variable {exported : FieldKey → Bool} {entries : List (FieldKey × Json)} {k : FieldKey} {v : Json}

@[simp]
lemma name_single (exported : FieldKey → Bool) (name : String) :
    (single name).name exported = name :=
  ite_self name

def names (k : FieldKey) : List String :=
  [k.exported, k.plain]

lemma name_mem_names (exported : FieldKey → Bool) (k : FieldKey) : k.name exported ∈ k.names := by
  unfold name names
  split_ifs <;> simp

def Separate (ks : List FieldKey) : Prop :=
  ks.Pairwise fun k l => ∀ n ∈ k.names, n ∉ l.names

instance (ks : List FieldKey) : Decidable (Separate ks) :=
  inferInstanceAs (Decidable (List.Pairwise _ _))

/-- Fields under the names that are chosen for their keys. -/
def spelled (exported : FieldKey → Bool) (entries : List (FieldKey × Json)) :
    List (String × Json) :=
  entries.map fun e => (e.1.name exported, e.2)

lemma lookup_spelled_of_forall_not_mem {n : String} (h : ∀ e ∈ entries, n ∉ e.1.names) :
    (spelled exported entries).lookup n = none := by
  rw [List.lookup_eq_none_iff]
  intro f hf
  obtain ⟨e, he, rfl⟩ := List.mem_map.1 hf
  rw [bne_iff_ne]
  rintro rfl
  exact h e he (name_mem_names exported e.1)

/-- Of the names of a key the chosen one leads to its field and the other one nowhere. -/
lemma lookup_spelled (hsep : Separate (entries.map (·.1))) (hmem : (k, v) ∈ entries) {n : String}
    (hn : n ∈ k.names) :
    (spelled exported entries).lookup n = if n = k.name exported then some v else none := by
  induction entries with
  | nil => cases hmem
  | cons e rest ih =>
    obtain ⟨hhead, hrest⟩ := List.pairwise_cons.1 hsep
    change List.lookup n ((e.1.name exported, e.2) :: spelled exported rest) = _
    rw [List.lookup_cons]
    rcases List.mem_cons.1 hmem with rfl | hmem
    · have hnone : (spelled exported rest).lookup n = none :=
        lookup_spelled_of_forall_not_mem fun e he => hhead _ (List.mem_map_of_mem he) n hn
      rw [hnone]
      by_cases hname : n = k.name exported
      · rw [if_pos hname, hname, beq_self_eq_true]
      · rw [if_neg hname, beq_false_of_ne hname]
    · have hne : n ≠ e.1.name exported := by
        rintro rfl
        exact hhead k (List.mem_map_of_mem hmem) _ (name_mem_names exported e.1) hn
      rw [beq_false_of_ne hne]
      exact ih hrest hmem

/-- An object has a field for a key, with a value in some order of its own fields. -/
def Holds (gs : List (String × Json)) (k : FieldKey) (v : Json) : Prop :=
  ∃ name w, k.find? gs = some (name, w) ∧ v.Reordered w

lemma holds_of_spelled (hsep : Separate (entries.map (·.1))) {gs : List (String × Json)}
    (h : Json.SameFields (spelled exported entries) gs) : ∀ e ∈ entries, Holds gs e.1 e.2 := by
  rintro ⟨k, v⟩ hmem
  have hexported := h k.exported
  have hplain := h k.plain
  rw [lookup_spelled hsep hmem (by simp [names])] at hexported hplain
  unfold Holds find?
  by_cases hchosen : k.exported = k.name exported
  · rw [if_pos hchosen] at hexported
    generalize gs.lookup k.exported = x at hexported
    cases hexported with
    | some hw => exact ⟨k.exported, _, rfl, hw⟩
  · have hother : k.plain = k.name exported := by
      unfold name at hchosen ⊢
      split_ifs with hk
      · exact absurd (if_pos hk).symm hchosen
      · rfl
    rw [if_neg hchosen] at hexported
    rw [if_pos hother] at hplain
    generalize gs.lookup k.exported = x, gs.lookup k.plain = y at hexported hplain
    cases hexported
    cases hplain with
    | some hw => exact ⟨k.plain, _, rfl, hw⟩

end FieldKey

namespace Checked

variable {α : Type} {read : Json → Checked α} {write : α → Json}

/-- A reader that gives back what a writer writes, in whatever order fields stand. -/
def ReadsBack (read : Json → Checked α) (write : α → Json) : Prop :=
  ∀ ⦃a v⦄, (write a).Reordered v → read v = .valid a

lemma readsBack_of_isScalar (hscalar : ∀ a, (write a).IsScalar)
    (h : ∀ a, read (write a) = .valid a) : ReadsBack read write := by
  intro a v hv
  rw [hv.eq_of_isScalar (hscalar a), h]

lemma readsBack_text : ReadsBack text .text :=
  readsBack_of_isScalar (fun _ => trivial) fun _ => rfl

lemma readsBack_integer : ReadsBack integer .integer :=
  readsBack_of_isScalar (fun _ => trivial) fun _ => rfl

variable {gs : List (String × Json)} {k : FieldKey} {a : α}

lemma required_of_holds (hread : ReadsBack read write) (h : k.Holds gs (write a)) :
    required gs k read = .valid a := by
  obtain ⟨name, w, hfind, hw⟩ := h
  rw [required, hfind]
  change (read w).under name = _
  rw [hread hw]
  rfl

lemma withDefault_of_holds (hread : ReadsBack read write) (h : k.Holds gs (write a))
    (default : α) : withDefault gs k default read = .valid a := by
  obtain ⟨name, w, hfind, hw⟩ := h
  rw [withDefault, hfind]
  change (read w).under name = _
  rw [hread hw]
  rfl

end Checked

end TradeCharts
