import RecordSieve.Program
import RecordSieve.Sieve.Stage

/-!
# Main

The program at work on the standard streams. The stages of a run say which operation is next, and
here it is done.
-/

namespace RecordSieve.Program

/-- The variables of the environment that matter. -/
def variableNames : List String :=
  [CommandLine.configVariable, "RUST_LOG", "RUST_LOG_STYLE", "CLICOLOR_FORCE", "NO_COLOR"]

/-- The environment of the process. -/
def environment : IO Environment :=
  variableNames.filterMapM fun name => do
    pure ((← IO.getEnv name).map fun value => (name, value))

/-- The text of an error of the system. -/
def reason (error : IO.Error) : String :=
  let coded (code : UInt32) (details : String) :=
    details ++ " (os error " ++ NumberLayout.natText code.toNat ++ ")"
  match error with
  | .noFileOrDirectory .. => coded 2 "No such file or directory"
  | .permissionDenied _ code details => coded code details
  | .inappropriateType _ code details => coded code details
  | .invalidArgument _ code details => coded code details
  | .hardwareFault code details => coded code details
  | .resourceVanished code details => coded code details
  | .resourceExhausted _ code details => coded code details
  | error => error.toString

/-- What an action gives, or the text of its error. -/
def attempt {α : Type} (action : IO α) : IO (Except String α) := do
  try
    pure (.ok (← action))
  catch error => pure (.error (reason error))

/-- What a path leads to. -/
def fileContent (path : String) : IO FileContent :=
  attempt do pure (← IO.FS.readBinFile path).toList

/-- The bytes up to and with the next newline, or up to the end. -/
partial def readLine (input : IO.FS.Stream) (line : Array UInt8) : IO (List UInt8) := do
  let bytes ← input.read 1
  match bytes.toList with
  | [] => pure line.toList
  | b :: _ => if b = newline then pure (line.push b).toList else readLine input (line.push b)

/-- The bytes up to the end. -/
partial def readAll (input : IO.FS.Stream) (bytes : ByteArray) : IO (List UInt8) := do
  let more ← input.read 65536
  if more.isEmpty then pure bytes.toList else readAll input (bytes ++ more)

/-- Writes and flushes bytes. -/
def write (output : IO.FS.Stream) (bytes : List UInt8) : IO Unit := do
  output.write ⟨bytes.toArray⟩
  output.flush

/-- The fault of an output, if an operation on it fails. -/
def outputFault? (operation : IO Unit) : IO (Option OutputFault) := do
  try
    operation
    pure none
  catch
    | .resourceVanished .. => pure (some .closed)
    | error => pure (some (.failed (reason error)))

/-- Reads a line. -/
def read (input : IO.FS.Stream) : IO Operation := do
  match ← attempt (readLine input #[]) with
  | .error reason => pure (.readFailure reason)
  | .ok [] => pure .readEnd
  | .ok line => pure (.read line)

/-- The run of a sieve from a stage on, behind the latest operation. Its lines have been written
when it ends, and no earlier operation is kept. -/
partial def stream (sieve : Sieve) (input output : IO.FS.Stream) (stage : Stage)
    (latest : Option Operation) : IO Run := do
  let goOn (operation : IO Operation) : IO Run := do
    let operation ← operation
    stream sieve input output (sieve.advance stage operation) (some operation)
  match stage with
  | .reading _ => goOn (read input)
  | .writing line _ =>
      goOn do pure (.write line (← outputFault? (output.write ⟨line.toArray⟩)))
  | .flushing _ => goOn do pure (.flush (← outputFault? output.flush))
  | .ended result => pure ⟨latest.toList, result⟩

/-- The execution of a task. Its output has been written when it ends. -/
def perform (input output : IO.FS.Stream) : Task → IO Execution
  | .filter sieve => do
      pure (Execution.ofRun (← stream sieve input output Sieve.start none))
  | .fields separator => do
      let source : Source := match ← attempt (readAll input .empty) with
        | .ok bytes => .ofBytes bytes
        | .error reason => ⟨[], some reason⟩
      let execution := (Task.fields separator).execute source .reliable
      match ← outputFault? (write output execution.output) with
      | none => pure execution
      | some fault => pure { execution with trouble := some (.printing fault.reason) }

end RecordSieve.Program

open RecordSieve RecordSieve.Program in
/-- Runs the program on the arguments of the process. -/
def main (arguments : List String) : IO UInt32 := do
  let output ← IO.getStdout
  let errors ← IO.getStderr
  let environment ← environment
  let path := environment.get? CommandLine.configVariable
  match CommandLine.read arguments path with
  | .error stop =>
      let outcome := Outcome.ofStop stop (wording.arguments arguments path)
      write output outcome.output
      errors.putStr outcome.diagnostics
      pure outcome.status.toUInt32
  | .ok line =>
      let diagnostics := Diagnostics.ofCommandLine wording line environment
      errors.putStr diagnostics.opening
      let content ← match line.config with
        | some path => fileContent path
        | none => pure (.ok [])
      let (events, task) := line.prepare fun _ => content
      errors.putStr (diagnostics.log events)
      let execution ← match task with
        | .error trouble => pure ⟨[], [], some trouble⟩
        | .ok task => perform (← IO.getStdin) output task
      errors.putStr (diagnostics.log execution.events)
      errors.putStr (diagnostics.closing execution)
      pure execution.status.toUInt32
