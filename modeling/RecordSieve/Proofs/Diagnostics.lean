import RecordSieve.Program

/-!
# What Diagnostics Say

The diagnostics of an execution are warnings about the filter that the environment asks for, log
messages, and in the end a report if something went wrong. A report is told from what stands in
front of it: it begins with a word of its own on a line of its own. A log message begins with a
bracket, and its further lines are indented. A warning is one line, unless it passes on what is
said about a pattern that does not compile.

## Main definitions

* `beginsReport`, `hasReport`: whether a text, or a line of it, begins as a report does;
* `LogEvent.Ordinary`: an event as the program reports it;
* `LogFilter.OnOneLine`: a text for a filter that is warned about on single lines;
* `Diagnostics.messages`, `Diagnostics.notes`: the log messages about an execution, and all that
  stands in front of the report.

## Main statements

* `CommandLine.ordinary_of_mem_events`: every event of an execution is ordinary, and so no error;
* `LogEvent.hasReport_render_append`: a log message holds no report;
* `LogFilter.warnsOnLines_amend`: a filter on one line is warned about on single lines;
* `Diagnostics.render_eq`: the diagnostics are the notes, and the report if there is one;
* `Diagnostics.hasReport_notes`: the notes hold no report.
-/

namespace RecordSieve

/-! ### Reports -/

/-- Whether a text begins as a report does. -/
def beginsReport (text : List Char) : Bool :=
  [false, true].any fun colored => (reportWord colored).toList.isPrefixOf text

/-- Whether a line of a text behind its first one begins as a report does. -/
def hasReportBehind : List Char → Bool
  | [] => false
  | c :: rest => (c = '\n' && beginsReport rest) || hasReportBehind rest

/-- Whether a line of a text begins as a report does. -/
def hasReport (text : List Char) : Bool := beginsReport text || hasReportBehind text

/-- Behind a newline the next line is looked at. -/
theorem hasReportBehind_newline (rest : List Char) :
    hasReportBehind ('\n' :: rest) = hasReport rest := rfl

/-- A character that ends no line is passed over. -/
theorem hasReportBehind_cons {c : Char} (h : c ≠ '\n') (rest : List Char) :
    hasReportBehind (c :: rest) = hasReportBehind rest := by
  rw [hasReportBehind, decide_eq_false h, Bool.false_and, Bool.false_or]

/-- The rest of a line is passed over. -/
theorem hasReportBehind_append {line : List Char} (h : '\n' ∉ line) (rest : List Char) :
    hasReportBehind (line ++ rest) = hasReportBehind rest := by
  induction line with
  | nil => rfl
  | cons c line ih =>
    obtain ⟨hc, hline⟩ := List.ne_and_not_mem_of_not_mem_cons h
    rw [List.cons_append, hasReportBehind_cons (Ne.symm hc), ih hline]

/-! ### Log messages -/

/-- The parts of the program that report events. -/
def logTargets : List String :=
  ["jsonl_tools", "jsonl_tools::fields", "jsonl_tools::filter::stream"]

namespace LogEvent

/-- An event as the program reports it: no error, and from one of its parts. -/
structure Ordinary (event : LogEvent) : Prop where
  level_ne : event.level ≠ .error
  target_mem : event.target ∈ logTargets

/-- The further lines of a message are indented, so none of them begins as a report does. -/
theorem hasReportBehind_indented (message : String) (rest : List Char) :
    hasReportBehind ((indented message).toList ++ rest) = hasReportBehind rest := by
  unfold indented
  rw [String.toList_ofList]
  induction message.toList with
  | nil => rfl
  | cons c text ih =>
    rw [List.flatMap_cons, List.append_assoc]
    by_cases hc : c = '\n'
    -- Behind the newline stand blanks, with which no report begins.
    · subst hc
      have hindent (behind : List Char) :
          hasReportBehind ('\n' :: indent ++ behind) = hasReportBehind behind := rfl
      rw [if_pos rfl, hindent, ih]
    · rw [if_neg hc]
      exact (hasReportBehind_cons hc _).trans ih

/-- What stands in front of a message: the level and the target in brackets. -/
def heading (colored : Bool) (event : LogEvent) : List Char :=
  let dim (text : String) := if colored then colorText "90" text else text
  let name := event.level.paddedName
  (dim "[").toList ++ (if colored then colorText event.level.colorCode name else name).toList ++
    [' '] ++ event.target.toList ++ (dim "]").toList ++ [' ']

/-- A log event is its heading, its message with the lines behind the first indented, and a
newline. -/
theorem toList_render (colored : Bool) (event : LogEvent) :
    (event.render colored).toList =
      event.heading colored ++ (indented event.message).toList ++ ['\n'] := by
  simp only [render, heading, String.toList_append]
  rfl

/-- A log event ends with a newline. -/
theorem getLast?_render (colored : Bool) (event : LogEvent) :
    (event.render colored).toList.getLast? = some '\n' := by
  rw [toList_render, List.getLast?_concat]

/-- A log message begins with a bracket. -/
theorem beginsReport_render_append (colored : Bool) (event : LogEvent) (rest : List Char) :
    beginsReport ((event.render colored).toList ++ rest) = false := by
  rw [toList_render]
  cases colored
  · simp only [heading, List.append_assoc]
    rfl
  · simp only [heading, colorText, List.append_assoc]
    rfl

/-- The heading of an ordinary event is on one line. -/
theorem newline_notMem_heading (colored : Bool) {event : LogEvent} (h : event.Ordinary) :
    '\n' ∉ event.heading colored := by
  have hname (level : LogLevel) : '\n' ∉ (if colored then
      colorText level.colorCode level.paddedName else level.paddedName).toList := by
    cases level <;> cases colored <;> decide
  have hdim : '\n' ∉ (if colored then colorText "90" "[" else "[").toList ∧
      '\n' ∉ (if colored then colorText "90" "]" else "]").toList := by
    cases colored <;> decide
  have htarget : ∀ target ∈ logTargets, '\n' ∉ target.toList := by decide
  simp only [heading, List.mem_append, not_or]
  exact ⟨⟨⟨⟨⟨hdim.1, hname event.level⟩, by decide⟩, htarget _ h.target_mem⟩, hdim.2⟩, by decide⟩

/-- A log message holds no report. -/
theorem hasReport_render_append (colored : Bool) {event : LogEvent} (h : event.Ordinary)
    (rest : List Char) : hasReport ((event.render colored).toList ++ rest) = hasReport rest := by
  rw [hasReport, beginsReport_render_append, Bool.false_or, toList_render, List.append_assoc,
    List.append_assoc, hasReportBehind_append (newline_notMem_heading colored h),
    hasReportBehind_indented]
  exact hasReportBehind_newline rest

end LogEvent

/-! ### Events of an execution -/

section Events

variable {event : LogEvent}

/-- What building a sieve reports is ordinary. -/
theorem Command.ordinary_of_mem_events {settings : Settings} {command : Command}
    (h : event ∈ command.events settings) : event.Ordinary := by
  cases command with
  | fields separator => cases h
  | filter request =>
    simp only [events, Request.events] at h
    split at h
    · cases h
    · simp only [List.mem_append, List.mem_map, List.mem_singleton] at h
      obtain (⟨warning, -, rfl⟩ | rfl) | ⟨condition, -, rfl⟩ := h
      all_goals exact ⟨nofun, by simp [logTargets]⟩

/-- What loading the settings reports is ordinary. -/
theorem CommandLine.ordinary_of_mem_settingsEvents {settings : Settings} {line : CommandLine}
    (h : event ∈ line.settingsEvents settings) : event.Ordinary := by
  unfold settingsEvents at h
  split at h
  · cases h
  · obtain rfl := List.mem_singleton.1 h
    exact ⟨nofun, by simp [logTargets]⟩

/-- The events of a run are ordinary. -/
theorem Run.ordinary_of_mem_events {run : Run} (h : event ∈ run.events) : event.Ordinary := by
  unfold events at h
  split at h
  · cases h
  · simp only [List.mem_append, List.mem_singleton] at h
    rcases h with h | rfl
    · split at h
      · obtain rfl := List.mem_singleton.1 h
        exact ⟨nofun, by simp [logTargets]⟩
      · cases h
    · exact ⟨nofun, by simp [logTargets]⟩

/-- The events of a task are ordinary. -/
theorem Task.ordinary_of_mem_events {task : Task} {input : Source} {sink : Sink}
    (h : event ∈ (task.execute input sink).events) : event.Ordinary := by
  cases task with
  | filter sieve => exact Run.ordinary_of_mem_events h
  | fields separator =>
    simp only [execute] at h
    split at h
    · have hkeys (keys : List String) (records : Nat) : (keysEvent keys records).Ordinary :=
        ⟨nofun, by simp [keysEvent, logTargets]⟩
      split at h
      all_goals
        obtain rfl := List.mem_singleton.1 h
        exact hkeys _ _
    · cases h

/-- Every event of an execution is ordinary. -/
theorem CommandLine.ordinary_of_mem_events {line : CommandLine} {file : String → FileContent}
    {input : Source} {sink : Sink} (h : event ∈ (line.execute file input sink).events) :
    event.Ordinary := by
  have hprepare : ∀ event ∈ (line.prepare file).1, event.Ordinary := by
    intro event h
    unfold prepare at h
    split at h
    · cases h
    · exact (List.mem_append.1 h).elim ordinary_of_mem_settingsEvents
        Command.ordinary_of_mem_events
  unfold execute at h
  rcases hpair : line.prepare file with ⟨events, trouble | task⟩
  · rw [hpair] at h hprepare
    exact hprepare event h
  · rw [hpair] at h hprepare
    exact (List.mem_append.1 h).elim (hprepare event) Task.ordinary_of_mem_events

end Events

/-! ### Warnings about the filter -/

namespace LogThreshold

/-- The pieces of a text have no other characters than the text. -/
theorem mem_of_mem_pieces {separator c : Char} {text piece : List Char}
    (h : piece ∈ pieces separator text) (hc : c ∈ piece) : c ∈ text := by
  induction text generalizing piece with
  | nil =>
    rw [List.mem_singleton.1 h] at hc
    cases hc
  | cons d text ih =>
    unfold pieces at h
    split at h
    · rcases List.mem_cons.1 h with rfl | hpiece
      · cases hc
      · exact List.mem_cons_of_mem d (ih hpiece hc)
    · -- The character goes to the first piece of the others.
      split at h
      · rw [List.mem_singleton.1 h] at hc
        exact List.mem_cons.2 (.inl (List.mem_singleton.1 hc))
      · next first others hpieces =>
        rw [hpieces] at ih
        rcases List.mem_cons.1 h with rfl | hpiece
        · exact (List.mem_cons.1 hc).elim (fun heq => List.mem_cons.2 (.inl heq))
            fun hfirst => List.mem_cons_of_mem d (ih List.mem_cons_self hfirst)
        · exact List.mem_cons_of_mem d (ih (List.mem_cons_of_mem first hpiece) hc)

/-- A trimmed text has no other characters than the text. -/
theorem trim_subset (text : List Char) : trim text ⊆ text := by
  intro c hc
  unfold trim at hc
  rw [List.mem_reverse] at hc
  exact List.dropWhile_subset _ (List.mem_reverse.1 (List.dropWhile_subset _ hc))

/-- What is wrong with a threshold is part of its text. -/
theorem subset_of_ofText_eq_error {text wrong : List Char} (h : ofText text = .error wrong) :
    wrong ⊆ text := by
  unfold ofText at h
  split at h
  · split at h <;> cases h
  · next name level hpieces =>
    simp only at h
    split at h
    · cases h
    · split at h
      · cases h
      · cases h
        intro c hc
        have hlevel : level ∈ pieces '=' text := by simp [hpieces]
        exact mem_of_mem_pieces hlevel (trim_subset level hc)
  · cases h
    exact List.Subset.refl _

end LogThreshold

namespace LogFilter

open LogThreshold

/-- The warnings about a filter are single lines. -/
def WarnsOnLines (state : LogFilter × List String) : Prop :=
  ∀ warning ∈ state.2, '\n' ∉ warning.toList

/-- One directive on one line adds warnings on one line. -/
theorem WarnsOnLines.amendThreshold {state : LogFilter × List String} (h : WarnsOnLines state)
    {text : List Char} (htext : '\n' ∉ text) : WarnsOnLines (amendThreshold state text) := by
  unfold LogFilter.amendThreshold
  split
  · exact h
  · next trimmed htrimmed =>
    split
    · exact h
    · next wrong hwrong =>
      have hline : '\n' ∉ wrong := fun hmem =>
        htext (trim_subset text (subset_of_ofText_eq_error hwrong hmem))
      intro warning hwarning
      rcases List.mem_append.1 hwarning with hmem | hmem
      · exact h warning hmem
      · rw [List.mem_singleton.1 hmem]
        simp [String.toList_append, hline]

/-- A pattern that compiles is not warned about, so the wording of faults does not matter. -/
theorem WarnsOnLines.amendPattern {state : LogFilter × List String} (h : WarnsOnLines state)
    {pattern : List Char} (hpattern : (Regex.ofText? pattern).isSome) (wording : Wording) :
    WarnsOnLines (amendPattern wording state pattern) := by
  unfold LogFilter.amendPattern
  obtain ⟨regex, hregex⟩ := Option.isSome_iff_exists.1 hpattern
  rw [hregex]
  exact h

/-- Directives on one line each add warnings on one line. -/
theorem WarnsOnLines.foldl_amendThreshold {state : LogFilter × List String} (h : WarnsOnLines state)
    {texts : List (List Char)} (htexts : ∀ text ∈ texts, '\n' ∉ text) :
    WarnsOnLines (texts.foldl LogFilter.amendThreshold state) := by
  induction texts generalizing state with
  | nil => exact h
  | cons text texts ih =>
    obtain ⟨htext, htexts⟩ := List.forall_mem_cons.1 htexts
    exact ih (h.amendThreshold htext) htexts

/-- A text for a filter that is on one line, and whose pattern compiles if it has one. -/
structure OnOneLine (text : String) : Prop where
  newline_notMem : '\n' ∉ text.toList
  pattern_isSome : ∀ thresholds pattern, pieces '/' text.toList = [thresholds, pattern] →
    (Regex.ofText? pattern).isSome

/-- A filter that is written on one line is warned about on single lines, unless its pattern does
not compile. -/
theorem warnsOnLines_amend (wording : Wording) (filter : LogFilter) {text : String}
    (h : OnOneLine text) : WarnsOnLines (filter.amend wording text) := by
  have hstart : WarnsOnLines (filter, []) := List.forall_mem_nil _
  have hpieces {thresholds : List Char} (hmem : thresholds ∈ pieces '/' text.toList) :
      ∀ piece ∈ pieces ',' thresholds, '\n' ∉ piece := fun piece hpiece hnewline =>
    h.newline_notMem (mem_of_mem_pieces hmem (mem_of_mem_pieces hpiece hnewline))
  unfold amend
  split
  · next thresholds heq => exact hstart.foldl_amendThreshold (hpieces (by simp [heq]))
  · next thresholds pattern heq =>
    exact (hstart.foldl_amendThreshold (hpieces (by simp [heq]))).amendPattern
      (h.pattern_isSome thresholds pattern heq) wording
  · intro warning hwarning
    rw [List.mem_singleton.1 hwarning]
    simp [String.toList_append, h.newline_notMem]

end LogFilter

/-! ### Notes in front of a report -/

/-- The characters of a line with a warning. -/
theorem toList_warningLine (text : String) :
    (warningLine text).toList =
      "warning: ".toList ++ text.toList ++ ", ignoring it".toList ++ ['\n'] := by
  simp only [warningLine, String.toList_append, List.append_assoc]
  rfl

/-- A line with a warning does not begin as a report. -/
theorem beginsReport_warningLine_append (text : String) (rest : List Char) :
    beginsReport ((warningLine text).toList ++ rest) = false := by
  simp only [warningLine, String.toList_append, List.append_assoc]
  rfl

/-- A warning of one line holds no report. -/
theorem hasReport_warningLine_append {text : String} (h : '\n' ∉ text.toList) (rest : List Char) :
    hasReport ((warningLine text).toList ++ rest) = hasReport rest := by
  have hline : '\n' ∉ "warning: ".toList ++ text.toList ++ ", ignoring it".toList := by
    simp [h]
  rw [hasReport, beginsReport_warningLine_append, Bool.false_or, toList_warningLine,
    List.append_assoc, hasReportBehind_append hline]
  exact hasReportBehind_newline rest

namespace Diagnostics

variable {diagnostics : Diagnostics} {execution : Execution}

/-- The log messages about an execution. -/
def messages (diagnostics : Diagnostics) (execution : Execution) : List String :=
  (execution.events.filter diagnostics.filter.admits).map (·.render diagnostics.logColored)

/-- Everything that is said about an execution in front of the report. -/
def notes (diagnostics : Diagnostics) (execution : Execution) : List String :=
  diagnostics.warnings.map warningLine ++ diagnostics.messages execution

/-- The diagnostics are the notes with the report of the trouble behind them. -/
theorem render_eq (diagnostics : Diagnostics) (execution : Execution) :
    diagnostics.render execution = String.join (diagnostics.notes execution) ++
      (execution.trouble.map
        (Trouble.report diagnostics.wording diagnostics.reportColored)).getD "" := by
  have hclosing : diagnostics.closing execution =
      (execution.trouble.map
        (Trouble.report diagnostics.wording diagnostics.reportColored)).getD "" := by
    unfold closing
    cases execution.trouble with
    | none => rfl
    | some trouble => exact String.empty_append
  rw [render, notes, String.join_append, hclosing]
  rfl

/-- A note begins no report, and ends its line. -/
theorem note_of_mem_notes {note : String} (h : note ∈ diagnostics.notes execution) :
    beginsReport note.toList = false ∧ note.toList.getLast? = some '\n' := by
  rcases List.mem_append.1 h with hmem | hmem
  · obtain ⟨text, -, rfl⟩ := List.mem_map.1 hmem
    have hbegins := beginsReport_warningLine_append text []
    rw [List.append_nil] at hbegins
    rw [hbegins, toList_warningLine, List.getLast?_concat]
    exact ⟨rfl, rfl⟩
  · obtain ⟨event, -, rfl⟩ := List.mem_map.1 hmem
    have hbegins := event.beginsReport_render_append diagnostics.logColored []
    rw [List.append_nil] at hbegins
    exact ⟨hbegins, event.getLast?_render _⟩

/-- No line of the notes begins as a report does, if the warnings are single lines. -/
theorem hasReport_notes (hwarnings : ∀ warning ∈ diagnostics.warnings, '\n' ∉ warning.toList)
    (hevents : ∀ event ∈ execution.events, event.Ordinary) :
    hasReport (String.join (diagnostics.notes execution)).toList = false := by
  have hnote : ∀ note ∈ diagnostics.notes execution, ∀ rest,
      hasReport (note.toList ++ rest) = hasReport rest := by
    intro note hmem rest
    rcases List.mem_append.1 hmem with hmem | hmem
    · obtain ⟨text, htext, rfl⟩ := List.mem_map.1 hmem
      exact hasReport_warningLine_append (hwarnings text htext) rest
    · obtain ⟨event, hevent, rfl⟩ := List.mem_map.1 hmem
      exact LogEvent.hasReport_render_append _ (hevents event (List.mem_filter.1 hevent).1) rest
  rw [String.toList_join]
  -- Induction on the notes: none of them has a line that begins as a report.
  generalize diagnostics.notes execution = notes at hnote
  induction notes with
  | nil => rfl
  | cons note notes ih =>
    obtain ⟨hfirst, hothers⟩ := List.forall_mem_cons.1 hnote
    rw [List.flatMap_cons, hfirst, ih hothers]

/-- The filter of a command line is warned about on single lines if the environment writes it on
one, and with a pattern that compiles if with any. -/
theorem newline_notMem_of_mem_warnings {wording : Wording} {line : CommandLine}
    {environment : Environment}
    (h : ∀ text, environment.get? "RUST_LOG" = some text → LogFilter.OnOneLine text) :
    ∀ warning ∈ (ofCommandLine wording line environment).warnings, '\n' ∉ warning.toList := by
  unfold ofCommandLine
  rcases hvariable : environment.get? "RUST_LOG" with _ | text
  · exact List.forall_mem_nil _
  · exact LogFilter.warnsOnLines_amend wording _ (h text hvariable)

end Diagnostics

end RecordSieve
