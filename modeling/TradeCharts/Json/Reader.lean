import TradeCharts.Json.Lexeme
/-! Reading JSON texts. The reader takes the lexemes one by one and keeps the containers that are
still open on a stack. -/
namespace TradeCharts.Json

open Text

structure Limits where
  depth : Nat
  digitsLimited : Bool
  deriving DecidableEq, Repr

inductive ReadError where
  | malformed (fault : Fault)
  | tooDeep
  | longNumber (cause : DigitLimitExceeded)
  deriving DecidableEq, Repr

/-- An open container: the items of a list, latest first, or the fields of an object and the name of
the field that is being read. -/
inductive Frame where
  | list (items : List Json)
  | object (fields : List (String × Json)) (name : String)
  deriving Repr

inductive Expecting where
  | value
  /-- A value, or the end of an empty list. -/
  | item
  /-- A name, or the end of an empty object. -/
  | firstName
  | name
  | colon
  /-- A comma, or the end of the container. -/
  | comma
  deriving DecidableEq, Repr

inductive State where
  | within (open? : List Frame) (expecting : Expecting)
  | done (value : Json)
  deriving Repr

/-- Puts a value where it belongs: into the innermost container, or at the end of the text. -/
def State.complete (v : Json) : List Frame → State
  | [] => .done v
  | .list items :: frames => .within (.list (v :: items) :: frames) .comma
  | .object fields name :: frames => .within (.object ((name, v) :: fields) name :: frames) .comma

def Expecting.fault : Expecting → SyntaxFault
  | .value | .item => .expectingValue
  | .firstName | .name => .expectingName
  | .colon => .expectingColon
  | .comma => .expectingComma

def openFrame (limits : Limits) (frames : List Frame) (f : Frame) (e : Expecting) :
    Except ReadError State :=
  if frames.length < limits.depth then .ok (.within (f :: frames) e) else .error .tooDeep

def takeValue (limits : Limits) (frames : List Frame) (place : Nat) :
    Lexeme → Except ReadError State
  | .scalar v => .ok (.complete v frames)
  | .text s => .ok (.complete (.text s) frames)
  | .badText f => .error (.malformed f)
  | .longNumber c => .error (.longNumber c)
  | .mark c =>
    if c = '[' then openFrame limits frames (.list []) .item
    else if c = '\x7b' then openFrame limits frames (.object [] "") .firstName
    else .error (.malformed ⟨place, .expectingValue⟩)
  | .stray => .error (.malformed ⟨place, .expectingValue⟩)

def takeName (frames : List Frame) (place : Nat) : Lexeme → Except ReadError State
  | .text s => match frames with
    | .object fields _ :: outer => .ok (.within (.object fields s :: outer) .colon)
    | _ => .error (.malformed ⟨place, .expectingName⟩)
  | .badText f => .error (.malformed f)
  | _ => .error (.malformed ⟨place, .expectingName⟩)

def takeComma (frames : List Frame) (place : Nat) : Lexeme → Except ReadError State
  | .mark c => match frames with
    | .list items :: outer =>
      if c = ',' then .ok (.within frames .value)
      else if c = ']' then .ok (.complete (.list items.reverse) outer)
      else .error (.malformed ⟨place, .expectingComma⟩)
    | .object fields _ :: outer =>
      if c = ',' then .ok (.within frames .name)
      else if c = '\x7d' then .ok (.complete (.object fields) outer)
      else .error (.malformed ⟨place, .expectingComma⟩)
    | [] => .error (.malformed ⟨place, .expectingComma⟩)
  | _ => .error (.malformed ⟨place, .expectingComma⟩)

def Lexeme.isMark (c : Char) : Lexeme → Bool
  | .mark d => d = c
  | _ => false

def State.step (limits : Limits) (s : State) (place : Nat) (l : Lexeme) : Except ReadError State :=
  match s with
  | .done _ => .error (.malformed ⟨place, .extraData⟩)
  | .within frames e => match e with
    | .value => takeValue limits frames place l
    | .item =>
      if l.isMark ']' then .ok (.complete (.list []) frames.tail)
      else takeValue limits frames place l
    | .firstName =>
      if l.isMark '\x7d' then .ok (.complete (.object []) frames.tail)
      else takeName frames place l
    | .name => takeName frames place l
    | .colon =>
      if l.isMark ':' then .ok (.within frames .value)
      else .error (.malformed ⟨place, .expectingColon⟩)
    | .comma => takeComma frames place l

/-- Takes lexemes until they end at the given place. -/
def State.run (limits : Limits) (stop : Nat) : State → List (Nat × Lexeme) → Except ReadError Json
  | .done v, [] => .ok v
  | .within _ e, [] => .error (.malformed ⟨stop, e.fault⟩)
  | s, (place, l) :: rest => match s.step limits place l with
    | .ok s => s.run limits stop rest
    | .error e => .error e

def read (limits : Limits) (cs : List Char) : Except ReadError Json :=
  if cs.head? == some '\uFEFF' then .error (.malformed ⟨0, .byteOrderMark⟩)
  else State.run limits cs.length (.within [] .value) (lexemes limits.digitsLimited cs)

/-- A fault with its place in a text: the line and the column, counted from one, and the offset. -/
def Fault.message (cs : List Char) (f : Fault) : String :=
  let before := cs.take f.place
  let line := before.count '\n' + 1
  let column := (before.reverse.takeWhile (· != '\n')).length + 1
  s!"{f.kind.message}: line {line} column {column} (char {f.place})"

end TradeCharts.Json
