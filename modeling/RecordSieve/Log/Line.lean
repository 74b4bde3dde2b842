import RecordSieve.Log.Filter

/-!
# Log Lines

The written form of an event: its level and its target in brackets, then its message. The further
lines of a message are indented. In color, the brackets are dimmed and the level has a color of
its own.

## Main definitions

* `LogEvent.render`: the lines of an event;
* `LogFilter.render`: the lines of the events that a filter admits.
-/

namespace RecordSieve

/-- A text in a terminal color, which is switched off behind it. -/
def colorText (code text : String) : String := "\x1b[" ++ code ++ "m" ++ text ++ "\x1b[0m"

namespace LogLevel

/-- The name of a level, filled up to the longest one. -/
def paddedName (level : LogLevel) : String :=
  level.name ++ String.ofList (List.replicate (5 - level.name.length) ' ')

/-- The terminal color of a level. -/
def colorCode : LogLevel → String
  | error => "1;31"
  | warn => "33"
  | info => "32"
  | debug => "34"
  | trace => "36"

end LogLevel

namespace LogEvent

/-- How far the further lines of a message are indented. -/
def indent : List Char := List.replicate 4 ' '

/-- A message with its further lines indented. -/
def indented (message : String) : String :=
  String.ofList (message.toList.flatMap fun c => if c = '\n' then '\n' :: indent else [c])

/-- The lines of an event. -/
def render (colored : Bool) (event : LogEvent) : String :=
  let dim (text : String) := if colored then colorText "90" text else text
  let name := event.level.paddedName
  dim "[" ++ (if colored then colorText event.level.colorCode name else name) ++ " " ++
    event.target ++ dim "]" ++ " " ++ indented event.message ++ "\n"

end LogEvent

/-- The lines of the events that a filter admits. -/
def LogFilter.render (filter : LogFilter) (colored : Bool) (events : List LogEvent) : String :=
  String.join ((events.filter filter.admits).map (·.render colored))

end RecordSieve
