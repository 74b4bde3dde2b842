import RecordSieve.Proofs.Invocation

/-!
# Settings of Diagnostics

What is said about an execution depends on how often messages are asked for, on whether they are
wanted at all, on colors and on a filter in the environment. None of this touches the work: the same
bytes are output, the status is the same, and so is the report in the end, up to the color of its
first word. Without a filter in the environment a higher count shows the same messages and more.

## Main definitions

* `CommandLine.SameWork`: command lines that ask for the same work;
* `Environment.SameButFilter`: environments that differ at most in the filter they ask for;
* `SameButDiagnostics`: how two outcomes of the same work compare.

## Main statements

* `LogFilter.admits_ofVerbosity`: which events a count of flags lets through;
* `Diagnostics.messages_sublist`, `Diagnostics.messages_of_quiet`: a higher count shows the same
  messages and more, and none are shown to who wants none;
* `sameButDiagnostics_runTo`: the settings of diagnostics do not touch the work.
-/

namespace RecordSieve

/-! ### Counts of flags -/

/-- A higher count shows less important levels, up to the least important one. -/
theorem LogLevel.rank_ofVerbosity (verbosity : Nat) (quiet : Bool) :
    (ofVerbosity verbosity quiet).rank = if quiet then 1 else min verbosity 3 + 2 := by
  cases quiet with
  | true => rfl
  | false =>
    match verbosity with
    | 0 | 1 | 2 => rfl
    | n + 3 =>
      show 5 = min (n + 3) 3 + 2
      omega

namespace LogFilter

/-- A count of flags lets events through by their level alone. -/
theorem admits_ofVerbosity (verbosity : Nat) (quiet : Bool) (event : LogEvent) :
    (ofVerbosity verbosity quiet).admits event = true ↔
      event.level.rank ≤ if quiet then 1 else min verbosity 3 + 2 := by
  have hfilter : ofVerbosity verbosity quiet =
      ⟨[⟨none, some (LogLevel.ofVerbosity verbosity quiet)⟩], none⟩ := rfl
  rw [← LogLevel.rank_ofVerbosity, hfilter]
  simp [admits, LogThreshold.covers, LogThreshold.decisive, LogThreshold.shows]

/-- A higher count lets the same events through and more. -/
theorem admits_of_le {verbosity verbosity' : Nat} {quiet quiet' : Bool} {event : LogEvent}
    (hle : verbosity ≤ verbosity') (hquiet : quiet' = true → quiet = true)
    (h : (ofVerbosity verbosity quiet).admits event = true) :
    (ofVerbosity verbosity' quiet').admits event = true := by
  rw [admits_ofVerbosity] at h ⊢
  cases quiet' with
  | true =>
    rw [hquiet rfl] at h
    exact h
  | false =>
    refine Nat.le_trans h ?_
    cases quiet <;> simp only [Bool.false_eq_true, if_true, if_false] <;> omega

/-- Who wants no messages is shown none, since no event is an error. -/
theorem admits_of_quiet {event : LogEvent} (h : event.Ordinary) (verbosity : Nat) :
    (ofVerbosity verbosity true).admits event = false := by
  rw [← Bool.not_eq_true, admits_ofVerbosity, if_pos rfl, Nat.not_le]
  cases hlevel : event.level with
  | error => exact absurd hlevel h.level_ne
  | warn | info | debug | trace => decide

end LogFilter

/-! ### The same work -/

/-- Two command lines that ask for the same work, whatever they ask of the diagnostics. -/
structure CommandLine.SameWork (line line' : CommandLine) : Prop where
  config_eq : line.config = line'.config
  command_eq : line.command = line'.command

/-- Two environments that differ at most in the filter of the log that they ask for. -/
def Environment.SameButFilter (environment environment' : Environment) : Prop :=
  ∀ name, name ≠ "RUST_LOG" → environment.get? name = environment'.get? name

/-- Command lines that ask for the same work are executed alike. -/
theorem CommandLine.SameWork.execute_eq {line line' : CommandLine} (h : line.SameWork line')
    (file : String → FileContent) (input : Source) (sink : Sink) :
    line.execute file input sink = line'.execute file input sink := by
  obtain ⟨hconfig, hcommand⟩ := h
  simp only [execute, prepare, settings, settingsEvents, hconfig, hcommand]

/-- The colors of the log depend on other variables than its filter. -/
theorem Environment.SameButFilter.colorsLog_eq {environment environment' : Environment}
    (h : environment.SameButFilter environment') :
    environment.colorsLog = environment'.colorsLog := by
  unfold colorsLog forbidsColor forcesColor
  rw [h "RUST_LOG_STYLE" (by decide), h "NO_COLOR" (by decide), h "CLICOLOR_FORCE" (by decide)]

namespace Diagnostics

variable {wording : Wording} {line line' : CommandLine} {environment environment' : Environment}

/-- Without a filter in the environment the flags decide. -/
theorem filter_ofCommandLine (h : environment.get? "RUST_LOG" = none) :
    (ofCommandLine wording line environment).filter = .ofVerbosity line.verbosity line.quiet := by
  rw [ofCommandLine, h]

/-- Without a filter in the environment there is nothing to warn about. -/
theorem warnings_ofCommandLine (h : environment.get? "RUST_LOG" = none) :
    (ofCommandLine wording line environment).warnings = [] := by
  rw [ofCommandLine, h]

/-- A higher count shows the same messages and more. -/
theorem messages_sublist (henvironment : environment.SameButFilter environment')
    (h : environment.get? "RUST_LOG" = none) (h' : environment'.get? "RUST_LOG" = none)
    (hle : line.verbosity ≤ line'.verbosity) (hquiet : line'.quiet = true → line.quiet = true)
    (execution : Execution) :
    ((ofCommandLine wording line environment).messages execution).Sublist
      ((ofCommandLine wording line' environment').messages execution) := by
  have hcolored : (ofCommandLine wording line environment).logColored =
      (ofCommandLine wording line' environment').logColored := henvironment.colorsLog_eq
  unfold messages
  rw [filter_ofCommandLine h, filter_ofCommandLine h', hcolored]
  refine List.Sublist.map _ ?_
  -- The events of the lower count are among those of the higher one.
  have hfilter : execution.events.filter (LogFilter.ofVerbosity line.verbosity line.quiet).admits =
      (execution.events.filter (LogFilter.ofVerbosity line'.verbosity line'.quiet).admits).filter
        (LogFilter.ofVerbosity line.verbosity line.quiet).admits := by
    rw [List.filter_filter]
    refine List.filter_congr fun event _ => ?_
    rw [Bool.eq_iff_iff, Bool.and_eq_true]
    exact ⟨fun hadmits => ⟨hadmits, LogFilter.admits_of_le hle hquiet hadmits⟩, And.left⟩
  rw [hfilter]
  exact List.filter_sublist

/-- Who wants no messages is shown none. -/
theorem messages_of_quiet (h : environment.get? "RUST_LOG" = none) (hquiet : line.quiet = true)
    {execution : Execution} (hevents : ∀ event ∈ execution.events, event.Ordinary) :
    (ofCommandLine wording line environment).messages execution = [] := by
  rw [messages, filter_ofCommandLine h, hquiet, List.map_eq_nil_iff, List.filter_eq_nil_iff]
  intro event hevent
  rw [LogFilter.admits_of_quiet (hevents event hevent)]
  exact Bool.false_ne_true

end Diagnostics

/-! ### Outcomes of the same work -/

/-- How two outcomes of the same work compare. -/
structure SameButDiagnostics (wording : Wording) (environment environment' : Environment)
    (outcome outcome' : Outcome) : Prop where
  output_eq : outcome.output = outcome'.output
  status_eq : outcome.status = outcome'.status
  /-- Both end with a report of the same trouble, each with or without color, or neither does. -/
  reported : ∃ trouble, Leaves wording environment outcome outcome.output trouble ∧
    Leaves wording environment' outcome' outcome'.output trouble

/-- How the log messages of two outcomes of the same work compare, where flags alone select them.
Both outcomes end with the report of the same trouble, if there is any. -/
structure LogsByFlags (wording : Wording) (line line' : CommandLine)
    (messages messages' : List String) (trouble : Option Trouble) (outcome outcome' : Outcome) :
    Prop where
  /-- There are no other diagnostics than the messages and the report. -/
  diagnostics_eq : ∃ colored,
    outcome.diagnostics =
      String.join messages ++ (trouble.map (Trouble.report wording colored)).getD ""
  diagnostics_eq' : ∃ colored,
    outcome'.diagnostics =
      String.join messages' ++ (trouble.map (Trouble.report wording colored)).getD ""
  /-- A higher count shows the same messages in the same order, and others between them. -/
  sublist : line.verbosity ≤ line'.verbosity → (line'.quiet = true → line.quiet = true) →
    messages.Sublist messages'
  /-- Who wants no messages is shown none. -/
  eq_nil_of_quiet : line.quiet = true → messages = []
  eq_nil_of_quiet' : line'.quiet = true → messages' = []

section Invocations

variable {arguments arguments' : List String} {environment environment' : Environment}
  {line line' : CommandLine}

/-- Without a filter in the environment the diagnostics are log messages and the report. -/
theorem diagnostics_runTo
    (h : CommandLine.read arguments (environment.get? CommandLine.configVariable) = .ok line)
    (hvariable : environment.get? "RUST_LOG" = none) (wording : Wording) (sink : Sink)
    (file : String → FileContent) (input : Source) :
    let diagnostics := Diagnostics.ofCommandLine wording line environment
    let execution := line.execute file input sink
    (Program.runTo wording sink arguments environment file input).diagnostics =
      String.join (diagnostics.messages execution) ++
        (execution.trouble.map (Trouble.report wording diagnostics.reportColored)).getD "" := by
  intro diagnostics execution
  have hnotes : diagnostics.notes execution = diagnostics.messages execution := by
    rw [Diagnostics.notes, Diagnostics.warnings_ofCommandLine hvariable]
    rfl
  rw [Program.runTo_eq h, ← hnotes]
  exact Diagnostics.render_eq _ _

/-- The settings of diagnostics do not touch the work. Two invocations that ask for the same work,
in environments that differ at most in the filter of the log, leave the same output, the same status
and the same report. Where flags alone select the log messages, those of the lower count are among
those of the higher one. -/
theorem sameButDiagnostics_runTo
    (hread : CommandLine.read arguments (environment.get? CommandLine.configVariable) = .ok line)
    (hread' : CommandLine.read arguments' (environment'.get? CommandLine.configVariable) =
      .ok line')
    (hwork : line.SameWork line') (henvironment : environment.SameButFilter environment')
    (wording : Wording) (sink : Sink) (file : String → FileContent) (input : Source) :
    let outcome := Program.runTo wording sink arguments environment file input
    let outcome' := Program.runTo wording sink arguments' environment' file input
    let execution := line.execute file input sink
    SameButDiagnostics wording environment environment' outcome outcome' ∧
      (environment.get? "RUST_LOG" = none → environment'.get? "RUST_LOG" = none →
        LogsByFlags wording line line'
          ((Diagnostics.ofCommandLine wording line environment).messages execution)
          ((Diagnostics.ofCommandLine wording line' environment').messages execution)
          execution.trouble outcome outcome') := by
  intro outcome outcome' execution
  have hleaves := leaves_runTo hread wording sink file input
  have hleaves' := leaves_runTo hread' wording sink file input
  rw [← hwork.execute_eq] at hleaves'
  refine ⟨?_, fun hvariable hvariable' => ?_⟩
  · constructor
    case output_eq => exact hleaves.output_eq.trans hleaves'.output_eq.symm
    case status_eq => exact hleaves.status_eq.trans hleaves'.status_eq.symm
    case reported =>
      refine ⟨execution.trouble, ?_, ?_⟩
      · exact hleaves.output_eq ▸ hleaves
      · exact hleaves'.output_eq ▸ hleaves'
  · -- Without the variable the flags alone say which events of the one execution are shown.
    have hevents : ∀ event ∈ execution.events, event.Ordinary := fun _ =>
      CommandLine.ordinary_of_mem_events
    have hdiagnostics := diagnostics_runTo hread hvariable wording sink file input
    have hdiagnostics' := diagnostics_runTo hread' hvariable' wording sink file input
    rw [← hwork.execute_eq] at hdiagnostics'
    constructor
    case diagnostics_eq => exact ⟨_, hdiagnostics⟩
    case diagnostics_eq' => exact ⟨_, hdiagnostics'⟩
    case sublist =>
      intro hle hquiet
      exact Diagnostics.messages_sublist henvironment hvariable hvariable' hle hquiet execution
    case eq_nil_of_quiet =>
      exact fun hquiet => Diagnostics.messages_of_quiet hvariable hquiet hevents
    case eq_nil_of_quiet' =>
      exact fun hquiet => Diagnostics.messages_of_quiet hvariable' hquiet hevents

/-- A run without messages, and the same one with all of them, colors and a filter. -/
theorem sameButDiagnostics_runTo_sizes :
    let arguments := ["-q", "filter", "size >= 1Ki"]
    let arguments' := ["--color", "always", "filter", "-vvv", "size >= 1Ki"]
    let environment : Environment := [("NO_COLOR", "1")]
    let environment' : Environment := [("NO_COLOR", "1"), ("RUST_LOG", "jsonl_tools=debug")]
    let command : Command := .filter ⟨false, false, [], ["size >= 1Ki"]⟩
    let line : CommandLine := ⟨none, .auto, 0, true, command⟩
    let line' : CommandLine := ⟨none, .always, 3, false, command⟩
    CommandLine.read arguments (environment.get? CommandLine.configVariable) = .ok line ∧
      CommandLine.read arguments' (environment'.get? CommandLine.configVariable) = .ok line' ∧
      line.SameWork line' ∧ environment.SameButFilter environment' ∧
      ∀ wording sink file input,
        let outcome := Program.runTo wording sink arguments environment file input
        let outcome' := Program.runTo wording sink arguments' environment' file input
        SameButDiagnostics wording environment environment' outcome outcome' := by
  intro arguments arguments' environment environment' command line line'
  have hread : CommandLine.read arguments (environment.get? CommandLine.configVariable) =
      .ok line := rfl
  have hread' : CommandLine.read arguments' (environment'.get? CommandLine.configVariable) =
      .ok line' := rfl
  have hwork : line.SameWork line' := ⟨rfl, rfl⟩
  have henvironment : environment.SameButFilter environment' := by
    intro name hname
    have hfilter : (name == "RUST_LOG") = false := beq_false_of_ne hname
    simp [Environment.get?, environment, environment', List.lookup_cons, hfilter]
  refine ⟨hread, hread', hwork, henvironment, fun wording sink file input => ?_⟩
  exact (sameButDiagnostics_runTo hread hread' hwork henvironment wording sink file input).1

end Invocations

end RecordSieve
