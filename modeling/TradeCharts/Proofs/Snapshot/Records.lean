import TradeCharts.Proofs.Interleaving

/-!
What becomes of the records of a snapshot. If all of them are valid, the trades are loaded in order
of time, those of one time in the order of the file; otherwise the first faulty record is blamed by
its place in the file (`load_sorts_or_blames`). It does not matter whether the records are the whole
document or stand under `trades` in it.
-/
namespace TradeCharts

/-- A record that no trade can be read from. -/
def Json.Faulty (r : Json) : Prop :=
  ∀ t, Trade.ofJson r ≠ .valid t

lemma Json.faulty_of_invalid {r : Json} {first : Issue} {others : List Issue}
    (h : Trade.ofJson r = .invalid first others) : r.Faulty := by
  intro t ht
  rw [ht] at h
  cases h

structure Json.FirstFault (rs : List Json) (i : Nat) (first : Issue) (others : List Issue) :
    Prop where
  least : IsLeast {j | ∃ r, rs[j]? = some r ∧ r.Faulty} i
  issues : ∃ r, rs[i]? = some r ∧ Trade.ofJson r = .invalid first others

namespace Trade

/-- What is read from each of some records. -/
abbrev ReadFrom (rs : List Json) (ts : List Trade) : Prop :=
  List.Forall₂ (fun r t => ofJson r = .valid t) rs ts

/-- A list of records is read from its head on, and the place of a record is passed along. -/
theorem listOfJson_go_spec (rs : List Json) (n : Nat) :
    (∃ ts, listOfJson.go n rs = .ok ts ∧ ReadFrom rs ts) ∨
      ∃ i first others, listOfJson.go n rs = .error (n + i, first, others) ∧
        Json.FirstFault rs i first others := by
  induction rs generalizing n with
  | nil => exact .inl ⟨[], rfl, .nil⟩
  | cons r rs ih =>
    rw [listOfJson.go]
    cases hr : ofJson r with
    | invalid first others =>
      refine .inr ⟨0, first, others, rfl, ⟨⟨r, rfl, Json.faulty_of_invalid hr⟩, ?_⟩, r, rfl, hr⟩
      exact fun j _ => Nat.zero_le j
    | valid t =>
      rcases ih (n + 1) with ⟨ts, hts, hread⟩ | ⟨i, first, others, hgo, hfault⟩
      · exact .inl ⟨t :: ts, by simp only [hts]; rfl, .cons hr hread⟩
      · have hplace : n + 1 + i = n + (i + 1) := by omega
        refine .inr ⟨i + 1, first, others, by simp only [hgo, hplace]; rfl, ⟨?_, ?_⟩, ?_⟩
        · exact hfault.least.1
        · rintro (_ | j) ⟨u, hu, hfaulty⟩
          · cases hu
            exact absurd hr (hfaulty t)
          · exact Nat.succ_le_succ (hfault.least.2 ⟨u, hu, hfaulty⟩)
        · exact hfault.issues

lemma ReadFrom.not_faulty {rs : List Json} {ts : List Trade} (h : ReadFrom rs ts) :
    ∀ r ∈ rs, ¬ r.Faulty := by
  induction h with
  | nil => simp
  | cons hr _ ih => exact List.forall_mem_cons.2 ⟨fun hfaulty => hfaulty _ hr, ih⟩

end Trade

namespace Snapshot

/-- A JSON value that holds some records: the list of them, or an object with that list under
`trades`. -/
inductive Holds (rs : List Json) : Json → Prop where
  | list : Holds rs (.list rs)
  | object {fields : List (String × Json)} (h : fields.lookup "trades" = some (.list rs)) :
      Holds rs (.object fields)

lemma Holds.records_eq {rs : List Json} {v : Json} (h : Holds rs v) : records v = .ok rs := by
  cases h with
  | list => rfl
  | object h => rw [records, h]

/-- The file at a path is a JSON text that holds some records and nests up to `depth`. -/
def FileHolds (files : Files) (depth : Nat) (path : String) (rs : List Json) : Prop :=
  ∃ bytes cs v, files path = .ok (.file bytes) ∧ decode bytes = .ok cs ∧ parse depth cs = .ok v ∧
    Holds rs v

/-- Of such a file only the records matter. -/
theorem FileHolds.load_eq {files : Files} {depth : Nat} {path : String} {rs : List Json}
    (h : FileHolds files depth path rs) : load files depth path = (trades rs).map sort := by
  obtain ⟨bytes, cs, v, hfile, hdecode, hparse, hholds⟩ := h
  have hbytes : Snapshot.bytes files path = .ok bytes := by
    rw [Snapshot.bytes, Files.read, hfile]
  have hload : load files depth path = ofBytes depth bytes := by
    rw [load, hbytes]
    rfl
  have hof : ofBytes depth bytes = do return sort (← trades rs) := by
    rw [ofBytes, hdecode]
    change (do let value ← parse depth cs; _) = _
    rw [hparse]
    change (do let records ← records v; _) = _
    rw [hholds.records_eq]
    rfl
  rw [hload, hof]
  cases trades rs <;> rfl

structure IsStableSort (ts us : List Trade) : Prop where
  perm : us.Perm ts
  ascending : us.Pairwise fun t u => t.timestamp ≤ u.timestamp
  stable : ∀ time, us.filter (·.timestamp = time) = ts.filter (·.timestamp = time)

theorem isStableSort_sort (ts : List Trade) : IsStableSort ts (sort ts) where
  perm := List.mergeSort_perm ts _
  ascending := pairwise_sort ts
  stable time := (sameMoments_sort ts time).symm

/-- The records of a snapshot are loaded in order of time, or the first faulty one is blamed; other
files with the same records fare the same. -/
theorem load_sorts_or_blames {files : Files} {depth : Nat} {path : String} {rs : List Json}
    (h : FileHolds files depth path rs) :
    ((∀ r ∈ rs, ¬ r.Faulty) → ∃ ts us, Trade.ReadFrom rs ts ∧ load files depth path = .ok us ∧
      IsStableSort ts us) ∧
    ((∃ r ∈ rs, r.Faulty) → ∃ i first others, Json.FirstFault rs i first others ∧
      load files depth path = .error (.refused (.invalidTrade i first others)) ∧
      (SnapshotError.invalidTrade i first others).message path =
        s!"Invalid trade at index {i} in {path}: " ++ issueCount "Trade" (others.length + 1)) ∧
    ∀ files' depth' path', FileHolds files' depth' path' rs →
      load files' depth' path' = load files depth path := by
  have hload := h.load_eq
  rw [trades, Trade.listOfJson] at hload
  refine ⟨?_, ?_, fun files' depth' path' h' => h'.load_eq.trans h.load_eq.symm⟩
  · intro hvalid
    rcases Trade.listOfJson_go_spec rs 0 with ⟨ts, hts, hread⟩ | ⟨i, first, others, -, hfault⟩
    · rw [hts] at hload
      exact ⟨ts, sort ts, hread, hload, isStableSort_sort ts⟩
    · obtain ⟨⟨r, hr, hfaulty⟩, -⟩ := hfault.least
      exact absurd hfaulty (hvalid r (List.mem_of_getElem? hr))
  · rintro ⟨r, hr, hfaulty⟩
    rcases Trade.listOfJson_go_spec rs 0 with ⟨ts, -, hread⟩ | ⟨i, first, others, hgo, hfault⟩
    · exact absurd hfaulty (hread.not_faulty r hr)
    · rw [hgo, Nat.zero_add] at hload
      exact ⟨i, first, others, hfault, hload, rfl⟩

def sideText (address : String) : List Char :=
  "\x7b\"token\":\x7b\"address\":\"".toList ++ address.toList ++
    "\"\x7d,\"formatted_amount\":\"1\"\x7d".toList

def recordText (time input output : String) : List Char :=
  "\x7b\"timestamp\":".toList ++ time.toList ++ ",\"input_change\":".toList ++ sideText input ++
    ",\"output_change\":".toList ++ sideText output ++ "\x7d".toList

def record (time : Json) (input output : String) : Json :=
  let side (address : String) : Json :=
    .object [("formatted_amount", .text "1"), ("token", .object [("address", .text address)])]
  .object [("output_change", side output), ("input_change", side input), ("timestamp", time)]

/-- The text of three records, the first and the last of one moment. -/
def threeRecordsText (time : String) : List Char :=
  "[".toList ++ recordText "20" "a" "b" ++ ",".toList ++ recordText time "c" "d" ++ ",".toList ++
    recordText "20" "e" "f" ++ "]".toList

def threeRecords (time : Json) : List Json :=
  [record (.integer 20) "a" "b", record time "c" "d", record (.integer 20) "e" "f"]

lemma decode_toUTF8 (cs : List Char) :
    decode (String.ofList cs).toUTF8 = .ok (universalNewlines cs) := by
  change decode (List.utf8Encode cs) = _
  rw [decode, List.utf8Decode?_utf8Encode]

/-- Files with three records each, in two shapes and with one that lacks a time. -/
def threeRecordsFiles : Files := .ofDirectory
  [("list.json", .file (String.ofList (threeRecordsText "10")).toUTF8),
    ("object.json", .file (String.ofList
      ("\x7b\"trades\":".toList ++ threeRecordsText "10" ++ "\x7d".toList)).toUTF8),
    ("timeless.json", .file (String.ofList (threeRecordsText "null")).toUTF8)]

set_option maxRecDepth 10000 in
lemma fileHolds_list : FileHolds threeRecordsFiles 985 "list.json" (threeRecords (.integer 10)) :=
  ⟨_, _, _, rfl, decode_toUTF8 _, rfl, .list⟩

set_option maxRecDepth 10000 in
lemma fileHolds_object :
    FileHolds threeRecordsFiles 985 "object.json" (threeRecords (.integer 10)) :=
  ⟨_, _, .object [("trades", .list (threeRecords (.integer 10)))], rfl, decode_toUTF8 _, rfl,
    .object rfl⟩

set_option maxRecDepth 10000 in
lemma fileHolds_timeless : FileHolds threeRecordsFiles 985 "timeless.json" (threeRecords .null) :=
  ⟨_, _, _, rfl, decode_toUTF8 _, rfl, .list⟩

/-- The second record is loaded first, or blamed when it has no time. -/
theorem load_sorts_or_blames_three :
    (∃ ts us, Trade.ReadFrom (threeRecords (.integer 10)) ts ∧
      load threeRecordsFiles 985 "list.json" = .ok us ∧ IsStableSort ts us) ∧
    load threeRecordsFiles 985 "object.json" = load threeRecordsFiles 985 "list.json" ∧
    ∃ first others, load threeRecordsFiles 985 "timeless.json" =
      .error (.refused (.invalidTrade 1 first others)) := by
  obtain ⟨hsorts, -, hshape⟩ := load_sorts_or_blames fileHolds_list
  obtain ⟨-, hblames, -⟩ := load_sorts_or_blames fileHolds_timeless
  refine ⟨hsorts ?_, hshape _ _ _ fileHolds_object, ?_⟩
  · simp only [threeRecords, List.forall_mem_cons]
    exact ⟨fun h => h _ rfl, fun h => h _ rfl, fun h => h _ rfl, by simp⟩
  · have hnull : (record .null "c" "d").Faulty := Json.faulty_of_invalid rfl
    obtain ⟨i, first, others, hfault, hload, -⟩ := hblames ⟨_, by simp [threeRecords], hnull⟩
    have hone : IsLeast {j | ∃ r, (threeRecords .null)[j]? = some r ∧ r.Faulty} 1 := by
      refine ⟨⟨_, rfl, hnull⟩, ?_⟩
      rintro (_ | j) ⟨r, hr, hfaulty⟩
      · cases hr
        exact absurd rfl (hfaulty _)
      · exact Nat.succ_le_succ (Nat.zero_le j)
    obtain rfl := hfault.least.unique hone
    exact ⟨first, others, hload⟩

end Snapshot

end TradeCharts
