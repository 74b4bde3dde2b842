import RecordSieve.Log
import RecordSieve.Pattern.Basic
import RecordSieve.Text.Blank
import RecordSieve.Wording

/-!
# Log Filters

Which events are shown. A filter holds thresholds, each for the targets that start with a name or
for all of them, and perhaps a pattern that the message has to contain. The threshold with the
longest name decides.

A filter is written as thresholds between commas, such as `warn,jsonl_tools::fields=debug`, and
perhaps a pattern behind a slash.

## Main definitions

* `LogLevel.ofVerbosity`, `LogFilter.ofVerbosity`: the filter that a count of flags asks for;
* `LogFilter.amend`: the filter with a written one on top of it, and the warnings about it;
* `LogFilter.admits`: whether an event is shown.
-/

namespace RecordSieve

/-- The least important level that a count of flags shows. -/
def LogLevel.ofVerbosity (verbosity : Nat) (quiet : Bool) : LogLevel :=
  if quiet then .error
  else
    match verbosity with
    | 0 => .warn
    | 1 => .info
    | 2 => .debug
    | _ => .trace

/-- How far the events of some targets are shown. -/
structure LogThreshold where
  /-- The name that the targets start with, or nothing for all targets. -/
  target : Option String
  /-- The least important level that is shown, or nothing if none is. -/
  level : Option LogLevel
deriving DecidableEq

/-- Which events are shown. -/
structure LogFilter where
  /-- The thresholds, each target once. -/
  thresholds : List LogThreshold
  /-- A pattern that has a match in every message that is shown. -/
  pattern : Option Regex

namespace LogThreshold

/-- Whether the threshold is for a target. -/
def covers (threshold : LogThreshold) (target : String) : Bool :=
  threshold.target.all fun name => name.toList.isPrefixOf target.toList

/-- How many bytes the name of a threshold has. -/
def nameSize (threshold : LogThreshold) : Nat := (threshold.target.map String.utf8ByteSize).getD 0

/-- Whether the threshold shows a level. -/
def shows (threshold : LogThreshold) (level : LogLevel) : Bool :=
  threshold.level.any fun least => level.rank ≤ least.rank

/-- The threshold that decides: the one with the longer name, or the later one of two with names
of one length. -/
def decisive (earlier : Option LogThreshold) (later : LogThreshold) : Option LogThreshold :=
  match earlier with
  | some earlier => if later.nameSize < earlier.nameSize then some earlier else some later
  | none => some later

/-! ### Reading -/

/-- A text without the blanks around it. -/
def trim (text : List Char) : List Char :=
  ((text.dropWhile isBlank).reverse.dropWhile isBlank).reverse

/-- The pieces of a text between the occurrences of a character. -/
def pieces (separator : Char) : List Char → List (List Char)
  | [] => [[]]
  | c :: rest =>
      if c = separator then [] :: pieces separator rest
      else
        match pieces separator rest with
        | [] => [[c]]
        | piece :: others => (c :: piece) :: others

/-- The level that a text names, in letters of either case; `off` names no level. -/
def level? (text : List Char) : Option (Option LogLevel) :=
  let name := String.ofList (text.map Char.toUpper)
  if name = "OFF" then some none
  else (LogLevel.all.find? (·.name = name)).map some

/-- The threshold that a text writes, or the part of the text that is wrong. A level alone is
for all targets, and a target alone shows everything. -/
def ofText (text : List Char) : Except (List Char) LogThreshold :=
  match pieces '=' text with
  | [name] =>
      match level? name with
      | some level => .ok ⟨none, level⟩
      | none => .ok ⟨some (String.ofList name), some .trace⟩
  | [name, level] =>
      let level := trim level
      -- A target with a sign of equality and nothing behind it shows everything too.
      if level = [] then .ok ⟨some (String.ofList name), some .trace⟩
      else
        match level? level with
        | some level => .ok ⟨some (String.ofList name), level⟩
        | none => .error level
  | _ => .error text

end LogThreshold

namespace LogFilter

open LogThreshold

/-- The filter for all targets that a count of flags asks for. -/
def ofVerbosity (verbosity : Nat) (quiet : Bool) : LogFilter :=
  ⟨[⟨none, some (.ofVerbosity verbosity quiet)⟩], none⟩

/-- The filter with one more threshold, which replaces one for the same targets. -/
def insert (filter : LogFilter) (threshold : LogThreshold) : LogFilter :=
  if filter.thresholds.any (·.target = threshold.target) then
    { filter with
      thresholds := filter.thresholds.map fun other =>
        if other.target = threshold.target then threshold else other }
  else { filter with thresholds := filter.thresholds ++ [threshold] }

/-- The filter with a written threshold, and the warnings so far. -/
def amendThreshold (state : LogFilter × List String) (text : List Char) :
    LogFilter × List String :=
  -- Nothing between two commas is no mistake.
  match trim text with
  | [] => state
  | text =>
      match ofText text with
      | .ok threshold => (state.1.insert threshold, state.2)
      | .error wrong =>
          (state.1, state.2 ++ ["invalid logging spec '" ++ String.ofList wrong ++ "'"])

/-- The filter with a written pattern, and the warnings so far. -/
def amendPattern (wording : Wording) (state : LogFilter × List String) (pattern : List Char) :
    LogFilter × List String :=
  match Regex.ofText? pattern with
  | some regex => ({ state.1 with pattern := some regex }, state.2)
  | none => (state.1, state.2 ++ ["invalid regex filter - " ++ wording.pattern pattern])

/-- The filter with a written one on top of it, and the warnings about it. -/
def amend (wording : Wording) (filter : LogFilter) (text : String) : LogFilter × List String :=
  match pieces '/' text.toList with
  | [thresholds] => (pieces ',' thresholds).foldl amendThreshold (filter, [])
  | [thresholds, pattern] =>
      amendPattern wording ((pieces ',' thresholds).foldl amendThreshold (filter, [])) pattern
  | _ => (filter, ["invalid logging spec '" ++ text ++ "' (too many '/'s)"])

/-- Whether an event is shown. -/
def admits (filter : LogFilter) (event : LogEvent) : Bool :=
  (((filter.thresholds.filter (·.covers event.target)).foldl decisive none).any
    (·.shows event.level)) &&
    filter.pattern.all (·.isMatch event.message.toList)

end LogFilter

end RecordSieve
