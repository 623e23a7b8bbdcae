/-!
Control sequences of terminals: an escape and a bracket, parameters, intermediate characters, and a
final character. They are left out of a text that goes elsewhere than to a terminal.
-/
namespace TradeCharts.Text.ControlSequence

def isBetween (low high c : Char) : Bool :=
  low ≤ c && c ≤ high

/-- What follows the control sequence at the start of a text, `none` when there is none. -/
def after? : List Char → Option (List Char)
  | '\x1b' :: '[' :: rest =>
    match (rest.dropWhile (isBetween '0' '?')).dropWhile (isBetween ' ' '/') with
    | c :: rest => if isBetween '@' '~' c then some rest else none
    | [] => none
  | _ => none

theorem length_lt_of_after?_eq_some {cs rest : List Char} (h : after? cs = some rest) :
    rest.length < cs.length := by
  unfold after? at h
  split at h
  · rename_i tail
    have first := (List.dropWhile_sublist (isBetween '0' '?') (l := tail)).length_le
    have second := (List.dropWhile_sublist (isBetween ' ' '/')
      (l := tail.dropWhile (isBetween '0' '?'))).length_le
    split at h
    · rename_i c after heq
      rw [heq] at second
      simp only [List.length_cons] at second ⊢
      split at h
      · cases h
        omega
      · cases h
    · cases h
  · cases h

def dropAll (cs : List Char) : List Char :=
  match h : after? cs with
  | some rest =>
    have := length_lt_of_after?_eq_some h
    dropAll rest
  | none =>
    match cs with
    | [] => []
    | c :: rest => c :: dropAll rest
termination_by cs.length

end TradeCharts.Text.ControlSequence
