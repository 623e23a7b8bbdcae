import TradeCharts.Json.Value
import TradeCharts.Numeric.Binary64
import TradeCharts.Text.WholeNumber
/-!
Reading typed values out of JSON. A reader reports every fault of a value, in the order of the
fields, each with the path that leads to it.
-/
namespace TradeCharts

open Text

inductive Cause where
  | missing
  | notObject (type : String)
  | notText
  | notInteger
  | notIntegerText
  | fractional
  | notFinite
  | integerTooLarge
  | notNumber
  | rejected (reason : String)
  deriving DecidableEq, Repr

namespace Cause

def code : Cause → String
  | missing => "missing"
  | notObject _ => "model_type"
  | notText => "string_type"
  | notInteger => "int_type"
  | notIntegerText => "int_parsing"
  | fractional => "int_from_float"
  | notFinite => "finite_number"
  | integerTooLarge => "int_parsing_size"
  | notNumber => "float_type"
  | rejected _ => "value_error"

def message : Cause → String
  | missing => "Field required"
  | notObject type => s!"Input should be a valid dictionary or instance of {type}"
  | notText => "Input should be a valid string"
  | notInteger => "Input should be a valid integer"
  | notIntegerText => "Input should be a valid integer, unable to parse string as an integer"
  | fractional => "Input should be a valid integer, got a number with a fractional part"
  | notFinite => "Input should be a finite number"
  | integerTooLarge => "Unable to parse input string as an integer, exceeded maximum size"
  | notNumber => "Input should be a valid number"
  | rejected reason => s!"Value error, {reason}"

end Cause

structure Issue where
  path : List String
  cause : Cause
  deriving DecidableEq, Repr

def Issue.under (name : String) (i : Issue) : Issue :=
  { i with path := name :: i.path }

/-- A value that passed all checks, or its faults, of which there is at least one. -/
inductive Checked (α : Type) where
  | valid (value : α)
  | invalid (first : Issue) (others : List Issue)
  deriving Repr

namespace Checked

variable {α β : Type}

def fault (cause : Cause) : Checked α :=
  .invalid ⟨[], cause⟩ []

def map (f : α → β) : Checked α → Checked β
  | .valid a => .valid (f a)
  | .invalid i is => .invalid i is

/-- Combines two parts; the faults of the first come before those of the second. -/
def both (f : Checked (α → β)) (a : Checked α) : Checked β :=
  match f, a with
  | .valid f, .valid a => .valid (f a)
  | .valid _, .invalid i is => .invalid i is
  | .invalid i is, .valid _ => .invalid i is
  | .invalid i is, .invalid j js => .invalid i (is ++ j :: js)

instance : Applicative Checked where
  pure := .valid
  map := map
  seq f a := both f (a ())

def under (name : String) : Checked α → Checked α
  | .valid a => .valid a
  | .invalid i is => .invalid (i.under name) (is.map (·.under name))

end Checked

/-- The names of a field: the exported one, which wins when both are present, and the plain one. -/
structure FieldKey where
  exported : String
  plain : String
  deriving DecidableEq, Repr

def FieldKey.single (name : String) : FieldKey :=
  ⟨name, name⟩

def FieldKey.find? (k : FieldKey) (fields : List (String × Json)) : Option (String × Json) :=
  match fields.lookup k.exported with
  | some v => some (k.exported, v)
  | none => (fields.lookup k.plain).map (k.plain, ·)

namespace Checked

variable {α : Type}

def required (fields : List (String × Json)) (k : FieldKey) (read : Json → Checked α) :
    Checked α :=
  match k.find? fields with
  | some (name, v) => (read v).under name
  | none => (fault .missing).under k.exported

/-- A field that may be missing; its default is not checked. -/
def withDefault (fields : List (String × Json)) (k : FieldKey) (default : α)
    (read : Json → Checked α) : Checked α :=
  match k.find? fields with
  | some (name, v) => (read v).under name
  | none => .valid default

/-- The fields of an object; `type` names the type that was expected. -/
def object (type : String) (read : List (String × Json) → Checked α) : Json → Checked α
  | .object fields => read fields
  | _ => fault (.notObject type)

def nullable (read : Json → Checked α) : Json → Checked (Option α)
  | .null => .valid none
  | v => (read v).map some

def text : Json → Checked String
  | .text s => .valid s
  | _ => fault .notText

end Checked

def causeOfText : WholeNumberError → Cause
  | .malformed => .notIntegerText
  | .tooLong => .integerTooLarge

/-- A double as a whole number, which has to lie strictly between -2^63 and 2^63. -/
def integerOfFloat (x : Float) : Except Cause Int :=
  if !x.isFinite then .error .notFinite
  else match (Binary64.dyadic x).toNat? with
    | none => .error .fractional
    | some n =>
      if n < Binary64.signBit then .ok (signed (Binary64.isNegative x) n)
      else .error .integerTooLarge

def integerOfJson : Json → Except Cause Int
  | .integer n => .ok n
  | .boolean b => .ok (if b then 1 else 0)
  | .number x => integerOfFloat x
  | .text s => (WholeNumber.read s).mapError causeOfText
  | _ => .error .notInteger

def floatOfJson? : Json → Option Float
  | .number x => some x
  | .integer n => Binary64.ofInt? n
  | .boolean b => some (if b then 1.0 else 0.0)
  | _ => none

def Checked.integer (v : Json) : Checked Int :=
  match integerOfJson v with
  | .ok n => .valid n
  | .error c => fault c

end TradeCharts
