import RecordSieve.CommandLine.Reader
import RecordSieve.Execution
import RecordSieve.Log.Line

/-!
# The Program

What the program prints. The output is that of the execution; the diagnostics are the log lines
that the flags and the environment let through and, in the end, the report of what went wrong.

## Main definitions

* `Trouble.report`: the report of what ended an execution, with or without color;
* `Diagnostics`: how an execution reports about itself;
* `Program.runTo`: the exit status, the output and the diagnostics of an invocation;
* `Program.run`: the same where the output does not fail, in the words of this program.
-/

namespace RecordSieve

/-- The variables of the environment that have a value. -/
abbrev Environment := List (String × String)

namespace Environment

/-- The value of a variable. -/
def get? (environment : Environment) (name : String) : Option String := environment.lookup name

/-- Whether the environment asks for colors even where there is no terminal. -/
def forcesColor (environment : Environment) : Bool :=
  (environment.get? "CLICOLOR_FORCE").any (· ≠ "0")

/-- Whether the environment asks for no colors in the log. -/
def forbidsColor (environment : Environment) : Bool :=
  (environment.get? "NO_COLOR").any (· ≠ "")

/-- Whether log lines are colored where there is no terminal. -/
def colorsLog (environment : Environment) : Bool :=
  match environment.get? "RUST_LOG_STYLE" with
  | some "always" => true
  | some "never" => false
  | _ => !environment.forbidsColor && environment.forcesColor

/-- Whether reports are colored where there is no terminal. -/
def colorsReport (environment : Environment) : ColorMode → Bool
  | .always => true
  | .never => false
  | .auto => environment.forcesColor

end Environment

/-! ### Diagnostics -/

/-- The first word of a report. -/
def reportWord (colored : Bool) : String := if colored then colorText "1;31" "error:" else "error:"

/-- The report of a trouble. -/
def Trouble.report (wording : Wording) (colored : Bool) (trouble : Trouble) : String :=
  reportWord colored ++ " " ++ String.intercalate ": " (trouble.chain wording) ++ "\n"

/-- The line of a warning. -/
def warningLine (text : String) : String := "warning: " ++ text ++ ", ignoring it\n"

/-- How an execution reports about itself. -/
structure Diagnostics where
  wording : Wording
  filter : LogFilter
  /-- What is wrong with the filter that the environment asks for. -/
  warnings : List String
  logColored : Bool
  reportColored : Bool

namespace Diagnostics

/-- The diagnostics of a command line. The environment outweighs the flags. -/
def ofCommandLine (wording : Wording) (line : CommandLine) (environment : Environment) :
    Diagnostics :=
  let flags := LogFilter.ofVerbosity line.verbosity line.quiet
  let (filter, warnings) := match environment.get? "RUST_LOG" with
    | none => (flags, [])
    | some text => flags.amend wording text
  { wording, filter, warnings
    logColored := environment.colorsLog
    reportColored := environment.colorsReport line.color }

/-- The lines about a filter that is partly wrong. -/
def opening (diagnostics : Diagnostics) : String :=
  String.join (diagnostics.warnings.map warningLine)

/-- The log lines of some events. -/
def log (diagnostics : Diagnostics) (events : List LogEvent) : String :=
  diagnostics.filter.render diagnostics.logColored events

/-- The report of what ended an execution. -/
def report (diagnostics : Diagnostics) (trouble : Trouble) : String :=
  trouble.report diagnostics.wording diagnostics.reportColored

/-- The report of what ended an execution, if anything did. -/
def closing (diagnostics : Diagnostics) (execution : Execution) : String :=
  String.join (execution.trouble.toList.map diagnostics.report)

/-- Everything that is said about an execution. -/
def render (diagnostics : Diagnostics) (execution : Execution) : String :=
  diagnostics.opening ++ diagnostics.log execution.events ++ diagnostics.closing execution

end Diagnostics

/-! ### Outcomes -/

/-- What an invocation of the program leaves behind. -/
structure Outcome where
  status : Nat
  output : List UInt8
  diagnostics : String

namespace Outcome

/-- The outcome of arguments that are no command line, and of what is said about them. What was
asked for is output, and what is wrong is not. -/
def ofStop (stop : Stop) (text : String) : Outcome :=
  if stop.status = 0 then ⟨0, Utf8.encode text.toList, ""⟩
  else ⟨stop.status, [], text⟩

/-- The outcome of an execution. -/
def ofExecution (execution : Execution) (diagnostics : Diagnostics) : Outcome :=
  ⟨execution.status, execution.output, diagnostics.render execution⟩

end Outcome

namespace Program

/-- The outcome of an invocation whose output may fail. -/
def runTo (wording : Wording) (sink : Sink) (arguments : List String)
    (environment : Environment) (file : String → FileContent) (input : Source) : Outcome :=
  let path := environment.get? CommandLine.configVariable
  match CommandLine.read arguments path with
  | .error stop => .ofStop stop (wording.arguments arguments path)
  | .ok line =>
      .ofExecution (line.execute file input sink) (.ofCommandLine wording line environment)

/-- The words of this program for what its parts find wrong. They say no more than that. -/
def wording : Wording where
  pattern _ := "the pattern does not compile"
  settings _ := "the text gives no settings"
  arguments arguments path :=
    match CommandLine.read arguments path with
    | .error stop => stop.message
    | .ok _ => ""

/-- The outcome of an invocation whose output does not fail, in the words of this program. -/
def run (arguments : List String) (environment : Environment) (file : String → FileContent)
    (input : Source) : Outcome :=
  runTo wording .reliable arguments environment file input

end Program

end RecordSieve
