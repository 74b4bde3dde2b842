import RecordSieve.CommandLine.Basic
import RecordSieve.Sieve.Keys

/-!
# Executions

What a command line does to an input and an output: everything that is written before a failure
stays, and nothing is written when the settings or the sieve cannot be made.

## Main definitions

* `CommandLine.prepare`: the task of a command line, which needs no input;
* `Task.execute`: what a task does to an input and an output;
* `CommandLine.execute`: both together.
-/

namespace RecordSieve

/-- The text of a fault of the output, as the system gives it. -/
def OutputFault.reason : OutputFault → String
  | closed => "Broken pipe (os error 32)"
  | failed reason => reason

/-- What ends an execution early. -/
inductive Trouble where
  | settings (failure : SettingsFailure)
  /-- The sieve cannot be made. -/
  | request (failure : Failure)
  /-- A run of the sieve failed. -/
  | filtering (failure : Failure)
  /-- The keys cannot be collected. -/
  | fields (failure : Failure)
  /-- The keys cannot be written. -/
  | printing (reason : String)
deriving DecidableEq

/-- The text of a trouble, the outermost part first. -/
def Trouble.chain (wording : Wording) : Trouble → List String
  | settings failure => "Failed to load configuration" :: failure.chain wording
  | request failure => failure.chain wording
  | filtering failure => "Failed to filter records from stdin" :: failure.chain wording
  | fields failure => "Failed to collect fields from stdin" :: failure.chain wording
  | printing reason => ["Failed to write fields to stdout", reason]

/-- What an execution did. -/
structure Execution where
  /-- Everything it reported on the way, however little of that is shown. -/
  events : List LogEvent
  output : List UInt8
  trouble : Option Trouble

namespace Execution

/-- The exit status of an execution. -/
def status (execution : Execution) : Nat := if execution.trouble.isSome then 1 else 0

/-- The execution that is a run of a sieve. -/
def ofRun (run : Run) : Execution :=
  ⟨run.events, run.output,
    match run.result with
    | .ok _ => none
    | .error failure => some (.filtering failure)⟩

end Execution

/-- What is to be done to the input. -/
inductive Task where
  | filter (sieve : Sieve)
  /-- Print the keys with a separator. -/
  | fields (separator : String)

namespace Task

/-- The line of all keys. -/
def keysLine (keys : List String) (separator : String) : List UInt8 :=
  Utf8.encode (joinKeys keys separator ++ "\n").toList

/-- What a task does to an input and an output. The line of all keys is written at once, and an
output that is closed is in the way of it, though not of a run. -/
def execute (input : Source) (sink : Sink) : Task → Execution
  | .filter sieve => .ofRun (sieve.run input sink)
  | .fields separator =>
      match collectKeys input with
      | .ok keys =>
          let events := [keysEvent keys input.lines.length]
          match sink.write 0 with
          | none => ⟨events, keysLine keys separator, none⟩
          | some fault => ⟨events, [], some (.printing fault.reason)⟩
      | .error failure => ⟨[], [], some (.fields failure)⟩

end Task

namespace Command

/-- What making the task of a command reports. -/
def events (settings : Settings) : Command → List LogEvent
  | .filter request => request.events settings
  | .fields _ => []

/-- The task of a command. -/
def task (settings : Settings) : Command → Except Trouble Task
  | .filter request =>
      match request.sieve settings with
      | .ok sieve => .ok (.filter sieve)
      | .error failure => .error (.request failure)
  | .fields separator => .ok (.fields (separator.getD settings.separator))

end Command

namespace CommandLine

/-- The settings of a command line, given what paths lead to. Without a path they are the
defaults. -/
def settings (line : CommandLine) (file : String → FileContent) :
    Except SettingsFailure Settings :=
  match line.config with
  | none => .ok {}
  | some path => Settings.load path (file path)

/-- What loading the settings reports. -/
def settingsEvents (line : CommandLine) (settings : Settings) : List LogEvent :=
  match line.config with
  | none => []
  | some path =>
      [⟨.info, "jsonl_tools",
        "Config profile '" ++ settings.profileName ++ "' from " ++ path⟩]

/-- What making the task of a command line reports, and the task. -/
def prepare (line : CommandLine) (file : String → FileContent) :
    List LogEvent × Except Trouble Task :=
  match line.settings file with
  | .error failure => ([], .error (.settings failure))
  | .ok settings =>
      (line.settingsEvents settings ++ line.command.events settings,
        line.command.task settings)

/-- What a command line does to an input and an output. -/
def execute (line : CommandLine) (file : String → FileContent) (input : Source) (sink : Sink) :
    Execution :=
  match line.prepare file with
  | (events, .error trouble) => ⟨events, [], some trouble⟩
  | (events, .ok task) =>
      let execution := task.execute input sink
      { execution with events := events ++ execution.events }

end CommandLine

end RecordSieve
