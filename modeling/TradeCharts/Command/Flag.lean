/-! The commands of the program and the flags that they know. -/
namespace TradeCharts

inductive Verb where
  | pairs
  | chart
  | history
  | gaps
  deriving DecidableEq, Repr

inductive Flag where
  | logLevel
  | settings
  | base
  | quote
  | window
  | now
  | flip
  | theme
  | start
  | stop
  | format
  | help
  deriving DecidableEq, Repr

namespace Flag

def name : Flag → String
  | logLevel => "--log-level"
  | settings => "--config"
  | base => "--base"
  | quote => "--quote"
  | window => "--window"
  | now => "--now"
  | flip => "--flip"
  | theme => "--theme"
  | start => "--start"
  | stop => "--end"
  | format => "--format"
  | help => "--help"

def takesValue : Flag → Bool
  | flip | help => false
  | _ => true

/-- The flags in front of the command. -/
def global : List Flag := [logLevel, settings, help]

end Flag

namespace Verb

def name : Verb → String
  | pairs => "pairs"
  | chart => "chart"
  | history => "history"
  | gaps => "gaps"

def all : List Verb := [pairs, chart, history, gaps]

def ofName? (s : String) : Option Verb :=
  all.find? (·.name == s)

def flags : Verb → List Flag
  | pairs => [.format, .help]
  | chart => [.base, .quote, .window, .now, .flip, .format, .help]
  | history => [.theme, .format, .help]
  | gaps => [.start, .stop, .format, .help]

end Verb

end TradeCharts
