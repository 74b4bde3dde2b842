import RecordSieve.Proofs.Diagnostics
import RecordSieve.Proofs.KeyAgreement

/-!
# Invocations

What an invocation leaves behind whose arguments are a command line. The settings and the sieve are
made before any input is read, so what is wrong with them outweighs the input, and then nothing is
output. A run keeps what it has written when it fails, and the keys are output all together or not
at all. Whatever goes wrong is reported once, at the end, and shows in the status.

## Main definitions

* `Leaves`: what an outcome consists of, given its output and what went wrong;
* `InvocationLaw`: what an invocation leaves behind, case by case.

## Main statements

* `CommandLine.execute_of_task`, `CommandLine.execute_of_trouble`: an execution is that of its task,
  if there is one;
* `leaves_runTo`: an invocation leaves behind what its execution does;
* `invocationLaw_runTo`: every invocation with an output that does not fail obeys the law.
-/

namespace RecordSieve

/-! ### Executions -/

namespace CommandLine

variable {line : CommandLine} {file : String → FileContent} {settings : Settings}

/-- A trouble in front of the task is all there is of an execution. -/
theorem execute_of_trouble {trouble : Trouble} (h : (line.prepare file).2 = .error trouble)
    (input : Source) (sink : Sink) :
    (line.execute file input sink).output = [] ∧
      (line.execute file input sink).trouble = some trouble := by
  unfold execute
  rcases hprepare : line.prepare file with ⟨events, result⟩
  rw [hprepare] at h
  obtain rfl : result = .error trouble := h
  exact ⟨rfl, rfl⟩

/-- An execution outputs what its task does, and fails as that does. -/
theorem execute_of_task {task : Task} (h : (line.prepare file).2 = .ok task) (input : Source)
    (sink : Sink) :
    (line.execute file input sink).output = (task.execute input sink).output ∧
      (line.execute file input sink).trouble = (task.execute input sink).trouble := by
  unfold execute
  rcases hprepare : line.prepare file with ⟨events, result⟩
  rw [hprepare] at h
  obtain rfl : result = .ok task := h
  exact ⟨rfl, rfl⟩

/-- Settings that cannot be loaded end the preparation. -/
theorem prepare_of_settings_error {failure : SettingsFailure}
    (h : line.settings file = .error failure) :
    (line.prepare file).2 = .error (.settings failure) := by
  rw [prepare, h]

/-- With settings, the task is what is left to prepare. -/
theorem prepare_of_settings (h : line.settings file = .ok settings) :
    (line.prepare file).2 = line.command.task settings := by
  rw [prepare, h]

end CommandLine

/-! ### Outcomes -/

/-- What an outcome consists of, given its output and what went wrong. -/
structure Leaves (wording : Wording) (environment : Environment) (outcome : Outcome)
    (output : List UInt8) (trouble : Option Trouble) : Prop where
  output_eq : outcome.output = output
  status_eq : outcome.status = if trouble.isSome then 1 else 0
  /-- The diagnostics are notes, each on lines of its own and none a report, and then the report of
  what went wrong, if anything did. No line of the notes looks like a report either, unless the
  environment asks for a filter on several lines or for one with a pattern that does not compile. -/
  reported : ∃ (notes : List String) (colored : Bool),
    outcome.diagnostics =
        String.join notes ++ (trouble.map (Trouble.report wording colored)).getD "" ∧
      (∀ note ∈ notes, beginsReport note.toList = false ∧ note.toList.getLast? = some '\n') ∧
      ((∀ text, environment.get? "RUST_LOG" = some text → LogFilter.OnOneLine text) →
        hasReport (String.join notes).toList = false)

section Invocation

variable {arguments : List String} {environment : Environment} {line : CommandLine}

/-- A command line that is understood is executed, and leaves what its execution leaves. -/
theorem Program.runTo_eq
    (h : CommandLine.read arguments (environment.get? CommandLine.configVariable) = .ok line)
    (wording : Wording) (sink : Sink) (file : String → FileContent) (input : Source) :
    runTo wording sink arguments environment file input =
      .ofExecution (line.execute file input sink) (.ofCommandLine wording line environment) := by
  simp only [runTo, h]

/-- An invocation leaves behind what its execution does. -/
theorem leaves_runTo
    (h : CommandLine.read arguments (environment.get? CommandLine.configVariable) = .ok line)
    (wording : Wording) (sink : Sink) (file : String → FileContent) (input : Source) :
    Leaves wording environment (Program.runTo wording sink arguments environment file input)
      (line.execute file input sink).output (line.execute file input sink).trouble := by
  rw [Program.runTo_eq h]
  refine ⟨rfl, rfl, _, _, Diagnostics.render_eq _ _, fun _ => Diagnostics.note_of_mem_notes, ?_⟩
  intro hvariable
  exact Diagnostics.hasReport_notes (Diagnostics.newline_notMem_of_mem_warnings hvariable)
    fun _ => CommandLine.ordinary_of_mem_events

/-- What an invocation leaves behind, case by case. -/
structure InvocationLaw (wording : Wording) (environment : Environment) (line : CommandLine)
    (file : String → FileContent) (input : Source) (outcome : Outcome) : Prop where
  /-- Settings that cannot be loaded outweigh everything. -/
  of_settings_error : ∀ failure, line.settings file = .error failure →
    Leaves wording environment outcome [] (some (.settings failure))
  /-- A sieve that cannot be made outweighs the input. -/
  of_sieve_error : ∀ settings request failure, line.settings file = .ok settings →
    line.command = .filter request → request.sieve settings = .error failure →
    Leaves wording environment outcome [] (some (.request failure))
  of_run : ∀ settings request sieve counts, line.settings file = .ok settings →
    line.command = .filter request → request.sieve settings = .ok sieve →
    (sieve.run input .reliable).result = .ok counts →
    Leaves wording environment outcome (sieve.run input .reliable).output none
  /-- What was written in front of a failure stays. -/
  of_run_error : ∀ settings request sieve failure, line.settings file = .ok settings →
    line.command = .filter request → request.sieve settings = .ok sieve →
    (sieve.run input .reliable).result = .error failure →
    Leaves wording environment outcome (sieve.run input .reliable).output
      (some (.filtering failure))
  /-- The keys are output in ascending order, with a separator between them and a newline. -/
  of_keys : ∀ settings separator keys, line.settings file = .ok settings →
    line.command = .fields separator → collectKeys input = .ok keys →
    keys.Pairwise (· < ·) ∧
      Leaves wording environment outcome
        (Utf8.encode
          (String.intercalate (separator.getD settings.separator) keys ++ "\n").toList) none
  of_keys_error : ∀ settings separator failure, line.settings file = .ok settings →
    line.command = .fields separator → collectKeys input = .error failure →
    Leaves wording environment outcome [] (some (.fields failure))

/-- Every invocation with an output that does not fail obeys the law, however faults of patterns
and of settings are worded. -/
theorem invocationLaw_runTo
    (h : CommandLine.read arguments (environment.get? CommandLine.configVariable) = .ok line)
    (wording : Wording) (file : String → FileContent) (input : Source) :
    InvocationLaw wording environment line file input
      (Program.runTo wording .reliable arguments environment file input) := by
  have hleaves := leaves_runTo h wording .reliable file input
  -- An execution that ends in front of its task, or does what the task does.
  have htrouble {trouble : Trouble} (hprepare : (line.prepare file).2 = .error trouble) :
      Leaves wording environment
        (Program.runTo wording .reliable arguments environment file input) [] (some trouble) := by
    obtain ⟨houtput, hend⟩ := CommandLine.execute_of_trouble hprepare input .reliable
    rwa [houtput, hend] at hleaves
  have htask {task : Task} {settings : Settings} (hsettings : line.settings file = .ok settings)
      (hcommand : line.command.task settings = .ok task) :
      Leaves wording environment (Program.runTo wording .reliable arguments environment file input)
        (task.execute input .reliable).output (task.execute input .reliable).trouble := by
    obtain ⟨houtput, hend⟩ := CommandLine.execute_of_task
      ((CommandLine.prepare_of_settings hsettings).trans hcommand) input .reliable
    rwa [houtput, hend] at hleaves
  have hfilter {settings : Settings} {request : Request} {sieve : Sieve}
      (hsettings : line.settings file = .ok settings) (hcommand : line.command = .filter request)
      (hsieve : request.sieve settings = .ok sieve) :
      let run := sieve.run input .reliable
      Leaves wording environment (Program.runTo wording .reliable arguments environment file input)
        run.output (Execution.ofRun run).trouble := by
    have hsieveTask : line.command.task settings = .ok (.filter sieve) := by
      rw [hcommand, Command.task, hsieve]
    exact htask hsettings hsieveTask
  constructor
  case of_settings_error =>
    intro failure hsettings
    exact htrouble (CommandLine.prepare_of_settings_error hsettings)
  case of_sieve_error =>
    intro settings request failure hsettings hcommand hsieve
    refine htrouble ((CommandLine.prepare_of_settings hsettings).trans ?_)
    rw [hcommand, Command.task, hsieve]
  case of_run =>
    intro settings request sieve counts hsettings hcommand hsieve hresult
    have hdone := hfilter hsettings hcommand hsieve
    simp only [Execution.ofRun, hresult] at hdone
    exact hdone
  case of_run_error =>
    intro settings request sieve failure hsettings hcommand hsieve hresult
    have hdone := hfilter hsettings hcommand hsieve
    simp only [Execution.ofRun, hresult] at hdone
    exact hdone
  case of_keys =>
    intro settings separator keys hsettings hcommand hkeys
    have hfields : line.command.task settings =
        .ok (.fields (separator.getD settings.separator)) := by rw [hcommand, Command.task]
    have hdone := htask hsettings hfields
    rw [Task.execute, hkeys] at hdone
    exact ⟨pairwise_of_collectKeys hkeys, hdone⟩
  case of_keys_error =>
    intro settings separator failure hsettings hcommand hkeys
    have hfields : line.command.task settings =
        .ok (.fields (separator.getD settings.separator)) := by rw [hcommand, Command.task]
    have hdone := htask hsettings hfields
    rwa [Task.execute, hkeys] at hdone

/-- The keys of any input, with commas between them and messages on the way. -/
theorem invocationLaw_runTo_keys :
    let arguments := ["-vv", "fields", "--sep", ","]
    let line : CommandLine := ⟨none, .auto, 2, false, .fields (some ",")⟩
    CommandLine.read arguments (Environment.get? [] CommandLine.configVariable) = .ok line ∧
      ∀ wording file input, InvocationLaw wording [] line file input
        (Program.runTo wording .reliable arguments [] file input) := by
  intro arguments line
  have hread : CommandLine.read arguments (Environment.get? [] CommandLine.configVariable) =
      .ok line := rfl
  exact ⟨hread, fun wording file input => invocationLaw_runTo hread wording file input⟩

end Invocation

end RecordSieve
