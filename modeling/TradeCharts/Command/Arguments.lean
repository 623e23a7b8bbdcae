import TradeCharts.Command.Usage
/-! Command lines taken apart: flags with their values, and what is left. -/
namespace TradeCharts

/-- The flags given, in their order, and the other arguments. The value of a flag that takes none is
empty. -/
structure Arguments where
  flags : List (Flag × String)
  rest : List String
  deriving DecidableEq, Repr

namespace Arguments

def isFlag (arg : String) : Bool :=
  match arg.toList with
  | '-' :: _ :: _ => true
  | _ => false

/-- The name in an argument, and the value behind the first equals sign, if there is one. -/
def splitValue (arg : String) : String × Option String :=
  let cs := arg.toList
  match cs.dropWhile (· != '=') with
  | _ :: value => (String.ofList (cs.takeWhile (· != '=')), some (String.ofList value))
  | [] => (arg, none)

/-- The error for an unknown flag. Behind a single hyphen every letter is a flag, so the first one
is blamed. -/
def unknown (known : List Flag) (arg : String) : UsageError :=
  let name := (splitValue arg).1
  match arg.toList with
  | '-' :: '-' :: _ => .unknownFlag name (Text.closeNames name (known.map Flag.name))
  | cs => .unknownFlag (String.ofList (cs.take 2)) []

def withFlag (flag : Flag) (value : String) (a : Arguments) : Arguments :=
  { a with flags := (flag, value) :: a.flags }

def withArgument (arg : String) (a : Arguments) : Arguments :=
  { a with rest := arg :: a.rest }

/-- Takes a command line apart behind a flag that waits for its value, if there is one: this takes
the next argument whatever it looks like. A double hyphen ends the flags; so does the first other
argument, unless flags and other arguments may be `mixed`. -/
def splitAfter (known : List Flag) (mixed : Bool) :
    Option Flag → List String → Except UsageError Arguments
  | none, [] => .ok ⟨[], []⟩
  | some flag, [] => .error (.valueMissing flag)
  | some flag, value :: rest => (splitAfter known mixed none rest).map (withFlag flag value)
  | none, arg :: rest =>
    if arg == "--" then .ok ⟨[], rest⟩
    else if isFlag arg then
      let (name, value?) := splitValue arg
      match known.find? (·.name == name) with
      | none => .error (unknown known arg)
      | some flag => match flag.takesValue, value? with
        | true, some value => (splitAfter known mixed none rest).map (withFlag flag value)
        | true, none => splitAfter known mixed (some flag) rest
        | false, some _ => .error (.valueNotTaken flag)
        | false, none => (splitAfter known mixed none rest).map (withFlag flag "")
    else if mixed then (splitAfter known mixed none rest).map (withArgument arg)
    else .ok ⟨[], arg :: rest⟩

def split (known : List Flag) (mixed : Bool) (args : List String) : Except UsageError Arguments :=
  splitAfter known mixed none args

def gives (a : Arguments) (flag : Flag) : Bool :=
  a.flags.any (·.1 == flag)

/-- The flags given, each once and with its last value, in the order of their first use. -/
def effective (a : Arguments) : List (Flag × String) :=
  (a.flags.map (·.1)).eraseDups.filterMap fun flag =>
    (a.flags.reverse.lookup flag).map (flag, ·)

end Arguments

end TradeCharts
