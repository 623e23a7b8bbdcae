import Mathlib.Tactic.Common
import TradeCharts.Proofs.Json.Lexemes
import TradeCharts.Snapshot

/-!
When loading a snapshot ends with its trades or a refusal. Everything that is wrong with the value
in a file is refused; what escapes is a path that no file can have, bytes that are not UTF-8, and a
text beyond the limits of the reader.
-/
namespace TradeCharts.Snapshot

variable {α β : Type} (depth : Nat)

/-- An answer or a refusal. -/
def Settled (r : Except LoadError α) : Prop :=
  (∃ a, r = .ok a) ∨ ∃ cause, r = .error (.refused cause)

lemma settled_ok (a : α) : Settled (.ok a : Except LoadError α) :=
  .inl ⟨a, rfl⟩

lemma settled_refused (cause : SnapshotError) :
    Settled (.error (.refused cause) : Except LoadError α) :=
  .inr ⟨cause, rfl⟩

lemma not_settled_failed (cause : Failure) :
    ¬ Settled (.error (.failed cause) : Except LoadError α) := by
  rintro (⟨a, h⟩ | ⟨c, h⟩) <;> cases h

/-- Steps that only refuse leave open only whether the first one is settled. -/
lemma settled_bind_iff {r : Except LoadError α} {f : α → Except LoadError β}
    (hf : ∀ a, r = .ok a → Settled (f a)) : Settled (r >>= f) ↔ Settled r := by
  cases r with
  | ok a => exact iff_of_true (hf a rfl) (settled_ok a)
  | error e =>
    cases e with
    | refused cause => exact iff_of_true (settled_refused cause) (settled_refused cause)
    | failed cause => exact iff_of_false (not_settled_failed cause) (not_settled_failed cause)

lemma settled_records (v : Json) : Settled (records v) := by
  cases v with
  | list items => exact settled_ok items
  | object fields =>
    rw [records]
    split
    · exact settled_ok _
    · exact settled_refused _
  | _ => exact settled_refused _

lemma settled_trades (rs : List Json) : Settled (trades rs) := by
  rw [trades]
  split
  · exact settled_ok _
  · exact settled_refused _

theorem settled_parse_iff (cs : List Char) :
    Settled (parse depth cs) ↔ ¬ Json.Exceeds ⟨depth, true⟩ cs := by
  rw [← Json.read_isLimit_iff, parse]
  cases Json.read ⟨depth, true⟩ cs with
  | ok v => exact iff_of_true (settled_ok v) (by rintro ⟨e, he, -⟩; cases he)
  | error e =>
    cases e with
    | malformed fault =>
      refine iff_of_true (settled_refused _) ?_
      rintro ⟨e, he, hlimit⟩
      cases he
      cases hlimit
    | tooDeep => exact iff_of_false (not_settled_failed _) (not_not_intro ⟨_, rfl, rfl⟩)
    | longNumber c => exact iff_of_false (not_settled_failed _) (not_not_intro ⟨_, rfl, rfl⟩)

theorem settled_ofBytes_iff (bytes : ByteArray) :
    Settled (ofBytes depth bytes) ↔
      ∃ cs, bytes = List.utf8Encode cs ∧ ¬ Json.Exceeds ⟨depth, true⟩ (universalNewlines cs) := by
  have htrades (v : Json) : Settled (do
      let rs ← records v
      return sort (← trades rs)) := by
    refine (settled_bind_iff fun rs _ => ?_).2 (settled_records v)
    exact (settled_bind_iff fun ts _ => settled_ok _).2 (settled_trades rs)
  have hparse (cs : List Char) : Settled (do
      let v ← parse depth cs
      let rs ← records v
      return sort (← trades rs)) ↔ ¬ Json.Exceeds ⟨depth, true⟩ cs := by
    rw [settled_bind_iff fun v _ => htrades v, settled_parse_iff]
  rw [ofBytes, decode]
  cases hb : bytes.utf8Decode? with
  | none =>
    refine iff_of_false (not_settled_failed _) ?_
    rintro ⟨cs, rfl, -⟩
    rw [List.utf8Decode?_utf8Encode] at hb
    cases hb
  | some text =>
    refine (hparse _).trans ⟨fun h => ⟨text.toList, ?_, h⟩, ?_⟩
    · obtain ⟨cs, rfl⟩ := ByteArray.isSome_utf8Decode?_iff.1 (Option.isSome_of_eq_some hb)
      rw [List.utf8Decode?_utf8Encode] at hb
      cases hb
      rfl
    · rintro ⟨cs, rfl, h⟩
      rw [List.utf8Decode?_utf8Encode] at hb
      cases hb
      exact h

/-- Loading settles every path but those that no file can have and those of files whose bytes are not
UTF-8 or whose text exceeds the limits on JSON. -/
theorem loads_or_refuses_iff (files : Files) (depth : Nat) (path : String) :
    ((∃ trades, load files depth path = .ok trades) ∨
        ∃ cause, load files depth path = .error (.refused cause)) ↔
      files path ≠ .error .nullCharacter ∧ ∀ bytes, files path = .ok (.file bytes) →
        ∃ cs, bytes = List.utf8Encode cs ∧
          ¬ Json.Exceeds ⟨depth, true⟩ (universalNewlines cs) := by
  change Settled (load files depth path) ↔ _
  rw [load, bytes, Files.read]
  cases files path with
  | ok entry =>
    cases entry with
    | file bytes =>
      refine (settled_ofBytes_iff depth bytes).trans ?_
      simp
    | directory => exact iff_of_true (settled_refused _) (by simp)
  | error e =>
    cases e with
    | nullCharacter => exact iff_of_false (not_settled_failed _) (by simp)
    | _ => exact iff_of_true (settled_refused _) (by simp)

/-- A byte that no UTF-8 text holds is neither loaded nor refused. -/
theorem stray_byte_not_settled :
    ¬ ((∃ trades, load (.ofDirectory [("bad.json", .file ⟨#[0xFF]⟩)]) 985 "bad.json" =
        .ok trades) ∨
      ∃ cause, load (.ofDirectory [("bad.json", .file ⟨#[0xFF]⟩)]) 985 "bad.json" =
        .error (.refused cause)) := by
  have h : load (.ofDirectory [("bad.json", .file ⟨#[0xFF]⟩)]) 985 "bad.json" =
      .error (.failed .invalidText) := rfl
  rw [h]
  exact not_settled_failed _

end TradeCharts.Snapshot
