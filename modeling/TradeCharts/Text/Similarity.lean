/-!
How much two texts have in common: the longest run of characters that both hold, and in the same way
what they have in common before it and behind it.
-/
namespace TradeCharts.Text

def commonHead : List Char → List Char → Nat
  | a :: as, b :: bs => if a = b then commonHead as bs + 1 else 0
  | _, _ => 0

structure SharedRun where
  left : Nat
  right : Nat
  length : Nat
  deriving DecidableEq, Repr

def SharedRun.longer (r s : SharedRun) : SharedRun :=
  if r.length < s.length then s else r

/-- The longest run that two texts share; of several the first one in the first text, then in the
second. -/
def longestRun (a b : List Char) : SharedRun :=
  (List.range a.length).foldl (fun r i =>
    (List.range b.length).foldl (fun r j =>
      r.longer ⟨i, j, commonHead (a.drop i) (b.drop j)⟩) r) ⟨0, 0, 0⟩

/-- The number of characters that two texts have in common. Every round shortens the first text, so
its length is enough fuel. -/
def commonCount : Nat → List Char → List Char → Nat
  | 0, _, _ => 0
  | fuel + 1, a, b =>
    let r := longestRun a b
    if r.length = 0 then 0
    else
      commonCount fuel (a.take r.left) (b.take r.right) + r.length +
        commonCount fuel (a.drop (r.left + r.length)) (b.drop (r.right + r.length))

structure Similarity where
  common : Nat
  total : Nat
  deriving DecidableEq, Repr

def similarity (a b : String) : Similarity :=
  let a := a.toList
  let b := b.toList
  ⟨2 * commonCount a.length a b, a.length + b.length⟩

def Similarity.isClose (s : Similarity) : Bool :=
  3 * s.total ≤ 5 * s.common

/-- Whether one name resembles a text more than another does; of names that resemble it equally the
greater one counts as more alike. -/
def isMoreAlike (target a b : String) : Bool :=
  let s := similarity a target
  let t := similarity b target
  t.common * s.total < s.common * t.total ||
    (t.common * s.total == s.common * t.total && b < a)

/-- The names that resemble a text, the best three of them, most alike first. -/
def closeNames (target : String) (names : List String) : List String :=
  ((names.filter fun n => (similarity n target).isClose).mergeSort fun a b =>
    !isMoreAlike target b a).take 3

end TradeCharts.Text
