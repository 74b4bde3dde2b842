import RecordSieve.Condition.Reader
import RecordSieve.Log
import RecordSieve.Settings
import RecordSieve.Sieve.Basic

/-!
# Requests

What a user asks of a sieve, and the sieve that the settings make of it. The conditions of the
named presets stand in front of the user's own, and a flag holds if the user or the settings
set it.

## Main definitions

* `Request.sieve`: the sieve of a request;
* `Request.events`: what building it reports.
-/

namespace RecordSieve

/-- What a user asks of a sieve. -/
structure Request where
  /-- Whether the records that pass are dropped. -/
  reverse : Bool
  /-- Whether one condition is enough. -/
  useOr : Bool
  /-- The names of presets. -/
  presets : List String
  /-- The texts of more conditions. -/
  conditions : List String
deriving DecidableEq

namespace Request

/-- The conditions of a request, those of the presets first. Names are looked up before any
condition is read. -/
def conditionsWith (request : Request) (settings : Settings) :
    Except Failure (List Condition) := do
  let preset ← settings.presetConditions request.presets
  Condition.parseAll (preset ++ request.conditions)

/-- How the answers are combined. -/
def aggregationWith (request : Request) (settings : Settings) : Aggregation :=
  .ofOr (request.useOr || settings.useOr)

/-- Whether the records that pass are dropped. -/
def reverseWith (request : Request) (settings : Settings) : Bool :=
  request.reverse || settings.reverse

/-- The sieve of a request. Every condition is read before any pattern is compiled. -/
def sieve (request : Request) (settings : Settings) : Except Failure Sieve := do
  let conditions ← request.conditionsWith settings
  Sieve.ofConditions conditions (request.aggregationWith settings) (request.reverseWith settings)

/-- What a log line says about some conditions. -/
def summary (request : Request) (settings : Settings) (conditions : List Condition) : String :=
  "Filtering with " ++ NumberLayout.natText conditions.length ++ " condition(s), mode " ++
    (request.aggregationWith settings).name ++ ", reverse " ++
    if request.reverseWith settings then "true" else "false"

/-- What building the sieve of a request reports, as soon as the conditions have been read. -/
def events (request : Request) (settings : Settings) : List LogEvent :=
  let event (level : LogLevel) (message : String) : LogEvent := ⟨level, "jsonl_tools", message⟩
  match request.conditionsWith settings with
  | .error _ => []
  | .ok conditions =>
      (Condition.warnings conditions).map (event .warn) ++
        [event .info (request.summary settings conditions)] ++
        conditions.map fun condition => event .debug ("Condition: " ++ condition.render)

end Request

end RecordSieve
