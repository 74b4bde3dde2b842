/-!
# Log Events

What a run reports about itself, beside its result.
-/

namespace RecordSieve

/-- How important an event is, the most important first. -/
inductive LogLevel where
  | error
  | warn
  | info
  | debug
  | trace
deriving DecidableEq

namespace LogLevel

/-- The levels, the most important first. -/
def all : List LogLevel := [error, warn, info, debug, trace]

/-- The place of a level, counted from one; zero stands for no level at all. -/
def rank : LogLevel → Nat
  | error => 1
  | warn => 2
  | info => 3
  | debug => 4
  | trace => 5

/-- The name of a level. -/
def name : LogLevel → String
  | error => "ERROR"
  | warn => "WARN"
  | info => "INFO"
  | debug => "DEBUG"
  | trace => "TRACE"

end LogLevel

/-- One event: the part of the program that reports it, and what it says. -/
structure LogEvent where
  level : LogLevel
  target : String
  message : String
deriving DecidableEq

end RecordSieve
