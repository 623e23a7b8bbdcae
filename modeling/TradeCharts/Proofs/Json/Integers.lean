import Mathlib.Tactic.Common
import TradeCharts.Json.Reader
import TradeCharts.Proofs.Json.Lexemes
import TradeCharts.Proofs.Text.Digits

/-! A reader that limits the digits of whole numbers reads values whose whole numbers all stay within
the limit, at every depth. The open containers of the reader carry this from lexeme to lexeme. -/
namespace TradeCharts

open Text

inductive Json.Writable : Json → Prop
  | null : Writable .null
  | boolean (b : Bool) : Writable (.boolean b)
  | integer {n : Int} (h : isWritable n) : Writable (.integer n)
  | number (x : Float) : Writable (.number x)
  | text (s : String) : Writable (.text s)
  | list {items : List Json} (h : ∀ v ∈ items, Writable v) : Writable (.list items)
  | object {fields : List (String × Json)} (h : ∀ f ∈ fields, Writable f.2) :
    Writable (.object fields)

namespace Json

def Frame.Writable : Frame → Prop
  | .list items => ∀ v ∈ items, v.Writable
  | .object fields _ => ∀ f ∈ fields, f.2.Writable

def State.Writable : State → Prop
  | .within frames _ => ∀ f ∈ frames, f.Writable
  | .done v => v.Writable

def Lexeme.Writable : Lexeme → Prop
  | .scalar v => v.Writable
  | _ => True

variable {limits : Limits} {frames : List Frame} {s s' : State} {l : Lexeme} {place : Nat}

lemma writable_complete {v : Json} (hv : v.Writable) (hf : ∀ f ∈ frames, f.Writable) :
    (State.complete v frames).Writable := by
  cases frames with
  | nil => exact hv
  | cons f frames =>
    obtain ⟨hhead, htail⟩ := List.forall_mem_cons.1 hf
    cases f with
    | list items => exact List.forall_mem_cons.2 ⟨List.forall_mem_cons.2 ⟨hv, hhead⟩, htail⟩
    | object fields name => exact List.forall_mem_cons.2 ⟨List.forall_mem_cons.2 ⟨hv, hhead⟩, htail⟩

lemma writable_openFrame {f : Frame} {e : Expecting} (hf : f.Writable)
    (hframes : ∀ g ∈ frames, g.Writable) (h : openFrame limits frames f e = .ok s') :
    s'.Writable := by
  rw [openFrame] at h
  split_ifs at h
  cases h
  exact List.forall_mem_cons.2 ⟨hf, hframes⟩

lemma writable_takeValue (hf : ∀ f ∈ frames, f.Writable) (hl : l.Writable)
    (h : takeValue limits frames place l = .ok s') : s'.Writable := by
  cases l with
  | mark c =>
    simp only [takeValue] at h
    split_ifs at h
    · exact writable_openFrame (f := .list []) (fun _ hv => absurd hv List.not_mem_nil) hf h
    · exact writable_openFrame (f := .object [] "") (fun _ hv => absurd hv List.not_mem_nil) hf h
  | text t =>
    cases h
    exact writable_complete (.text t) hf
  | scalar v =>
    cases h
    exact writable_complete hl hf
  | _ => cases h

lemma writable_takeName (hf : ∀ f ∈ frames, f.Writable)
    (h : takeName frames place l = .ok s') : s'.Writable := by
  cases l with
  | text t =>
    cases frames with
    | nil => cases h
    | cons f frames =>
      cases f with
      | list items => cases h
      | object fields name =>
        cases h
        obtain ⟨hhead, htail⟩ := List.forall_mem_cons.1 hf
        exact List.forall_mem_cons.2 ⟨hhead, htail⟩
  | _ => cases h

lemma writable_takeComma (hf : ∀ f ∈ frames, f.Writable)
    (h : takeComma frames place l = .ok s') : s'.Writable := by
  cases l with
  | mark c =>
    cases frames with
    | nil => cases h
    | cons f frames =>
      obtain ⟨hhead, htail⟩ := List.forall_mem_cons.1 hf
      cases f with
      | list items =>
        simp only [takeComma] at h
        split_ifs at h <;> cases h
        · exact hf
        · exact writable_complete (.list fun v hv => hhead v (List.mem_reverse.1 hv)) htail
      | object fields name =>
        simp only [takeComma] at h
        split_ifs at h <;> cases h
        · exact hf
        · exact writable_complete (.object hhead) htail
  | _ => cases h

theorem writable_step (hs : s.Writable) (hl : l.Writable)
    (h : s.step limits place l = .ok s') : s'.Writable := by
  cases s with
  | done v => cases h
  | within frames e =>
    have htail : ∀ f ∈ frames.tail, f.Writable := fun f hf => hs f (List.mem_of_mem_tail hf)
    cases e with
    | value => exact writable_takeValue hs hl h
    | item =>
      simp only [State.step] at h
      split_ifs at h
      · cases h
        exact writable_complete (.list fun _ hv => absurd hv List.not_mem_nil) htail
      · exact writable_takeValue hs hl h
    | firstName =>
      simp only [State.step] at h
      split_ifs at h
      · cases h
        exact writable_complete (.object fun _ hv => absurd hv List.not_mem_nil) htail
      · exact writable_takeName hs h
    | name => exact writable_takeName hs h
    | colon =>
      simp only [State.step] at h
      split_ifs at h
      cases h
      exact hs
    | comma => exact writable_takeComma hs h

theorem writable_run {ls : List (Nat × Lexeme)} {stop : Nat} {v : Json} (hs : s.Writable)
    (hls : ∀ x ∈ ls, x.2.Writable) (h : s.run limits stop ls = .ok v) : v.Writable := by
  induction ls generalizing s with
  | nil =>
    cases s <;> cases h
    exact hs
  | cons x ls ih =>
    obtain ⟨hx, hls⟩ := List.forall_mem_cons.1 hls
    rw [run_cons] at h
    cases hstep : s.step limits x.1 x.2 with
    | error e =>
      rw [hstep] at h
      cases h
    | ok s' =>
      rw [hstep] at h
      exact ih (writable_step hs hx hstep) hls h

lemma NumberText.writable_lexeme {cs : List Char} {t : NumberText} (h : take? cs = some t) :
    (t.lexeme true).Writable := by
  unfold lexeme
  split_ifs with hi hd
  · trivial
  · refine .integer ?_
    rw [Bool.true_and, decide_eq_true_eq, ← tenTo_le_whole_iff h] at hd
    rw [isWritable_iff, natAbs_signed]
    exact Nat.not_le.1 hd
  · split
    · exact .number _
    · trivial

lemma Scanned.writable {l : Bool → Lexeme} (h : Scanned l) : (l true).Writable := by
  cases h with
  | number h => exact NumberText.writable_lexeme h
  | word h => rcases word_cases h with rfl | ⟨b, rfl⟩ | ⟨x, rfl⟩ <;> constructor
  | _ => trivial

theorem writable_of_read {cs : List Char} {v : Json} (hlimited : limits.digitsLimited)
    (h : read limits cs = .ok v) : v.Writable := by
  obtain ⟨found, -, hfound, heq⟩ := exists_scanned cs
  rw [read, hlimited, heq] at h
  split_ifs at h
  have hstart : (State.within [] .value).Writable := fun _ hf => absurd hf List.not_mem_nil
  refine writable_run hstart (fun x hx => ?_) h
  obtain ⟨y, hy, rfl⟩ := List.mem_map.1 hx
  exact (hfound y hy).writable

end Json

end TradeCharts
