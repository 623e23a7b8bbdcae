import TradeCharts.Proofs.Chart.Specification
import TradeCharts.Proofs.Timeline.FirstUse

/-!
Volumes in use: amounts are added to buckets and points are read, in any order. A reading shows the
totals of the additions before it (`shows_ofAdditions`) and leaves no trace (`run_read`); additions
to different buckets do not see each other (`run_exchange`). Nothing is asked of the amounts, which
may be infinite or no numbers: the order of the points is that of their times alone.
-/
namespace TradeCharts.VolumeBuckets

inductive Call where
  /-- Add an amount to the bucket that starts at a time. -/
  | add (start : Int) (amount : Float)
  /-- Read the points. -/
  | read (color : Option String) (negate : Bool)
  deriving DecidableEq, Repr

def Call.addition? : Call → Option (Int × Float)
  | add start amount => some (start, amount)
  | read .. => none

def answer (v : VolumeBuckets) : Call → VolumeBuckets × Option (List ColoredPoint)
  | .add start amount => (v.add start amount, none)
  | .read color negate => (v, some (v.points color negate))

/-- The volumes after some calls, and what each of them answered. -/
def run (v : VolumeBuckets) : List Call → VolumeBuckets × List (Option (List ColoredPoint))
  | [] => (v, [])
  | c :: calls =>
    let next := v.answer c
    let rest := run next.1 calls
    (rest.1, next.2 :: rest.2)

def additions (calls : List Call) : List (Int × Float) :=
  calls.filterMap Call.addition?

def ofAdditions (adds : List (Int × Float)) : VolumeBuckets :=
  adds.foldl (fun v a => v.add a.1 a.2) .empty

/-- The amounts added to a bucket, summed from left to right. -/
def totalAt (adds : List (Int × Float)) (start : Int) : Float :=
  History.sum ((adds.filter (·.1 = start)).map (·.2))

variable {adds : List (Int × Float)} {calls later : List Call} {color : Option String}
  {negate : Bool} {start : Int}

theorem ofAdditions_eq_gather (adds : List (Int × Float)) :
    ofAdditions adds = .gather Prod.fst (fun total a => total + a.2) 0.0 adds := rfl

theorem mem_times_ofAdditions :
    start ∈ (ofAdditions adds).times ↔ ∃ a ∈ adds, a.1 = start := by
  rw [ofAdditions_eq_gather, Timeline.mem_times_gather]

theorem mem_entries_ofAdditions {total : Float} :
    (start, total) ∈ (ofAdditions adds).entries ↔
      (∃ a ∈ adds, a.1 = start) ∧ total = totalAt adds start := by
  rw [ofAdditions_eq_gather, Timeline.mem_entries_gather, totalAt, History.sum, List.foldl_map]
  rfl

/-- What the points have to be after some additions: one for each bucket that was added to. -/
structure Shows (adds : List (Int × Float)) (color : Option String) (negate : Bool)
    (ps : List ColoredPoint) : Prop where
  ascending : ps.Pairwise (·.time < ·.time)
  mem : ∀ p, p ∈ ps ↔ (∃ a ∈ adds, a.1 = p.time) ∧
    p.value = (if negate then -totalAt adds p.time else totalAt adds p.time) ∧ p.color = color

theorem shows_ofAdditions (adds : List (Int × Float)) (color : Option String) (negate : Bool) :
    Shows adds color negate ((ofAdditions adds).points color negate) where
  ascending := View.points_ascending _ _ _
  mem p := by
    rw [View.mem_points]
    simp only [mem_entries_ofAdditions]
    constructor
    · rintro ⟨total, ⟨hadded, rfl⟩, hvalue, hcolor⟩
      exact ⟨hadded, hvalue, hcolor⟩
    · rintro ⟨hadded, hvalue, hcolor⟩
      exact ⟨_, ⟨hadded, rfl⟩, hvalue, hcolor⟩

theorem points_negated (v : VolumeBuckets) (color : Option String) :
    v.points color true =
      (v.points color false).map fun p => { p with value := -p.value } := by
  simp [points]

theorem add_comm (v : VolumeBuckets) {a b : Int} (h : a ≠ b) (x y : Float) :
    (v.add a x).add b y = (v.add b y).add a x :=
  Timeline.update_comm v h _ _

/-- A call changes the volumes when it adds to them, and only then. -/
theorem fst_answer (v : VolumeBuckets) (c : Call) :
    (v.answer c).1 = c.addition?.elim v fun a => v.add a.1 a.2 := by
  cases c <;> rfl

theorem fst_run (v : VolumeBuckets) (calls : List Call) :
    (v.run calls).1 = (additions calls).foldl (fun v a => v.add a.1 a.2) v := by
  induction calls generalizing v with
  | nil => rfl
  | cons c calls ih =>
    simp only [run, additions, List.filterMap_cons] at ih ⊢
    rw [ih, fst_answer]
    cases c.addition? <;> rfl

theorem fst_run_empty (calls : List Call) :
    (run .empty calls).1 = ofAdditions (additions calls) :=
  fst_run _ _

theorem run_append (v : VolumeBuckets) (calls later : List Call) :
    v.run (calls ++ later) =
      ((run (v.run calls).1 later).1, (v.run calls).2 ++ (run (v.run calls).1 later).2) := by
  induction calls generalizing v with
  | nil => rfl
  | cons c calls ih => simp [run, ih]

/-- A reading puts its answer among those of the other calls and changes none of them. -/
theorem run_read (v : VolumeBuckets) (calls later : List Call) (color : Option String)
    (negate : Bool) :
    v.run (calls ++ .read color negate :: later) =
      ((v.run (calls ++ later)).1,
        (v.run (calls ++ later)).2.insertIdx calls.length
          (some ((v.run calls).1.points color negate))) := by
  induction calls generalizing v with
  | nil => simp [run, answer]
  | cons c calls ih => simp [run, ih]

/-- Two additions next to each other and to different buckets can be made in either order. -/
theorem run_exchange (v : VolumeBuckets) (calls later : List Call) {a b : Int} (h : a ≠ b)
    (x y : Float) :
    v.run (calls ++ .add a x :: .add b y :: later) =
      v.run (calls ++ .add b y :: .add a x :: later) := by
  rw [run_append, run_append]
  simp only [run, answer, add_comm _ h]

/-- The totals in the order in which their buckets were first added to. -/
def firstUses (adds : List (Int × Float)) : List (Int × Float) :=
  Timeline.gatherInPlace Prod.fst (fun total a => total + a.2) 0.0 adds

/-- What can be relied on after some calls, and whatever is called later. -/
structure Faithful (calls : List Call) : Prop where
  shows : ∀ color negate,
    Shows (additions calls) color negate ((run .empty calls).1.points color negate)
  -- `below` stands for the order of doubles, which compares nothing with what is no number.
  sorted : ∀ below sorted, Timeline.IsSortOf below (firstUses (additions calls)) sorted ↔
    sorted = (run .empty calls).1.entries
  size : ∀ color negate,
    (run .empty calls).1.size = ((run .empty calls).1.points color negate).length
  negated : ∀ color, (run .empty calls).1.points color true =
    ((run .empty calls).1.points color false).map fun p => { p with value := -p.value }
  reading : ∀ color negate later, run .empty (calls ++ .read color negate :: later) =
    ((run .empty (calls ++ later)).1,
      (run .empty (calls ++ later)).2.insertIdx calls.length
        (some ((run .empty calls).1.points color negate)))
  exchange : ∀ a b, a ≠ b → ∀ x y later,
    run .empty (calls ++ .add a x :: .add b y :: later) =
      run .empty (calls ++ .add b y :: .add a x :: later)

/-- Volumes are faithful sums under every sequence of calls. -/
theorem faithful_run (calls : List Call) : Faithful calls where
  shows color negate := by
    rw [fst_run_empty]
    exact shows_ofAdditions _ color negate
  sorted below sorted := by
    rw [fst_run_empty, ofAdditions_eq_gather]
    exact Timeline.isSortOf_gatherInPlace_iff below _ sorted
  size _ _ := (List.length_map _).symm
  negated := points_negated _
  reading color negate later := run_read _ calls later color negate
  exchange _ _ h x y later := run_exchange _ calls later h x y

/-- An infinite total keeps its place among the others, also when a later amount leaves no number of
it. -/
theorem faithful_run_beyondNumbers :
    let infinity : Float := 1.0 / 0.0
    let calls : List Call := [.add 1800 5.0, .add 900 infinity, .read none false,
      .add (-900) 2.0, .add 900 (-infinity)]
    Faithful calls ∧
      (run .empty (calls ++ [.read none true])).2 =
        [none, none, some [⟨900, infinity, none⟩, ⟨1800, 5.0, none⟩], none, none,
          some [⟨-900, -2.0, none⟩, ⟨900, 0.0 / 0.0, none⟩, ⟨1800, -5.0, none⟩]] ∧
      run .empty (calls ++ [.add 900 3.0, .add 0 4.0]) =
        run .empty (calls ++ [.add 0 4.0, .add 900 3.0]) := by
  intro infinity calls
  have hfaithful := faithful_run calls
  exact ⟨hfaithful, by decide +kernel, hfaithful.exchange 900 0 (by decide) 3.0 4.0 []⟩

end TradeCharts.VolumeBuckets
