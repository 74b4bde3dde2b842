import RecordSieve.CommandLine.Switch

/-!
# Reading Command Lines

The arguments are read from left to right, first those in front of the command and then those
behind it. A name with a value may have the value in the same argument or in the next one, which
then may not look like a name. Letters may share a hyphen. Behind `--` there are no names.

A name whose value is in the next argument takes effect only when something else is read, so a
fault of that value is found late: an unknown argument behind it is reported first, and so is
everything wrong behind the command.

What is given behind the command outweighs what is given in front of it, and both outweigh the
environment.

## Main definitions

* `CommandLine.read`: the command line that arguments write.
-/

namespace RecordSieve

/-- What has been read of one part of a command line. -/
structure Progress where
  given : Given := {}
  /-- A name that has not taken effect, and its value unless that comes next. -/
  pending : Option (Switch × Option String) := none

namespace Progress

/-- What has been given, with the pending name. -/
def settle (progress : Progress) : Except Stop Given :=
  match progress.pending with
  | none => .ok progress.given
  | some (switch, value) => progress.given.take switch value

/-- The progress with a name that takes effect at once. -/
def take (progress : Progress) (switch : Switch) (value : Option String) :
    Except Stop Progress := do
  let given ← progress.settle
  let given ← given.take switch value
  pure { given }

/-- The progress with a name whose value comes next. -/
def expect (progress : Progress) (switch : Switch) : Except Stop Progress := do
  let given ← progress.settle
  pure { given, pending := some (switch, none) }

/-- Whether the next argument is a value. -/
def awaits (progress : Progress) : Bool :=
  match progress.pending with
  | some (_, none) => true
  | _ => false

/-- An argument in a place without names. -/
def positional (level : Level) (progress : Progress) (text : String) : Except Stop Progress :=
  match level with
  | .filter => do
      let given ← progress.settle
      pure { given := { given with conditions := given.conditions ++ [text] } }
  | .fields => .error (.argumentUnknown text)
  | .top => .error (.commandUnknown text)

/-- An argument that is no name: the value of the name before it, or one of its own. -/
def word (level : Level) (progress : Progress) (text : String) : Except Stop Progress :=
  match progress.pending with
  | some (switch, none) => .ok { progress with pending := some (switch, some text) }
  | _ => progress.positional level text

/-- An argument behind two hyphens. -/
def long (level : Level) (progress : Progress) (body : List Char) : Except Stop Progress :=
  let name := String.ofList (body.takeWhile (· ≠ '='))
  match level.long? name, body.dropWhile (· ≠ '=') with
  | none, _ => .error (.argumentUnknown ("--" ++ name))
  | some switch, '=' :: value =>
      if switch.takesValue then progress.take switch (some (String.ofList value))
      else .error (.valueUnwanted switch.shown)
  | some switch, _ =>
      if switch.takesValue then progress.expect switch else progress.take switch none

/-- An argument behind one hyphen: letters of which the last one may have a value. -/
def letters (level : Level) (progress : Progress) : List Char → Except Stop Progress
  | [] => .ok progress
  | letter :: rest =>
      match level.short? letter with
      | none => .error (.argumentUnknown (String.ofList ['-', letter]))
      | some switch =>
          if switch.takesValue then
            match rest with
            | [] => progress.expect switch
            -- A sign of equality in front of the value is left out.
            | '=' :: value => progress.take switch (some (String.ofList value))
            | value => progress.take switch (some (String.ofList value))
          else do
            let progress ← progress.take switch none
            progress.letters level rest

/-- An argument other than `--` and the command. A hyphen alone is no name. -/
def argument (level : Level) (progress : Progress) (text : String) : Except Stop Progress :=
  match text.toList with
  | '-' :: '-' :: body => progress.long level body
  | '-' :: letter :: rest => progress.letters level (letter :: rest)
  | _ => progress.word level text

/-- The arguments behind a command. -/
def behind (level : Level) (progress : Progress) : List String → Except Stop Progress
  | [] => .ok progress
  | text :: rest =>
      if text = "--" then rest.foldlM (positional level) progress
      else do
        let progress ← progress.argument level text
        progress.behind level rest

end Progress

/-- The part of a command line that a command begins. -/
def Level.ofCommand? (name : String) : Option Level :=
  if name = "filter" then some .filter
  else if name = "fields" then some .fields
  else none

/-- The name of the command that prints the help. -/
def helpCommand : String := "help"

/-- The help on a command, which more names may select. -/
def helpOn : List String → Stop
  | [] => .helpRequested
  | [name] =>
      if (Level.ofCommand? name).isSome ∨ name = helpCommand then .helpRequested
      else .commandUnknown name
  | name :: next :: _ =>
      if (Level.ofCommand? name).isSome ∨ name = helpCommand then .commandUnknown next
      else .commandUnknown name

namespace Progress

/-- An argument behind `--` and in front of any command: the name of a command comes too late
there. -/
def late (text : String) : Stop :=
  if (Level.ofCommand? text).isSome ∨ text = helpCommand then .argumentUnknown text
  else .commandUnknown text

/-- The arguments in front of the command, and the command with those behind it. -/
def inFront (progress : Progress) :
    List String → Except Stop (Progress × Option (Level × List String))
  | [] => .ok (progress, none)
  | text :: rest =>
      if text = "--" then
        match rest with
        | [] => .ok (progress, none)
        | text :: _ => .error (late text)
      else
        -- A value that looks like a command is still a value.
        match if progress.awaits then none else Level.ofCommand? text with
        | some level => .ok (progress, some (level, rest))
        | none =>
            if !progress.awaits && text = helpCommand then .error (helpOn rest)
            else do
              let progress ← progress.argument .top text
              progress.inFront rest

end Progress

/-- The command of a part with what was given behind it. -/
def Command.ofGiven (level : Level) (given : Given) : Command :=
  match level with
  | .fields => .fields given.separator
  | _ => .filter ⟨given.reverse, given.useOr, given.presets, given.conditions⟩

namespace CommandLine

/-- The command line of what was given in front of the command and behind it. -/
def merge (outer inner : Given) (fallback : Option String) (level : Level) : CommandLine where
  config := inner.config <|> outer.config <|> fallback
  color := (inner.color <|> outer.color).getD .auto
  verbosity := if inner.verbosity = 0 then outer.verbosity else inner.verbosity
  quiet := inner.quiet || outer.quiet
  command := .ofGiven level inner

/-- The name of the variable that holds a path of settings. -/
def configVariable : String := "JSONL_TOOLS_CONFIG"

/-- The command line that arguments write, given the path of the settings that the
environment holds. -/
def read (arguments : List String) (fallback : Option String) : Except Stop CommandLine := do
  match ← Progress.inFront {} arguments with
  | (progress, none) =>
      let outer ← progress.settle
      outer.checkFallback fallback
      .error (if outer = {} ∧ fallback = none then .nothingGiven else .commandMissing)
  | (progress, some (level, rest)) =>
      let behind ← Progress.behind level {} rest
      let inner ← behind.settle
      inner.checkFallback fallback
      inner.checkConflict
      -- The name that is pending in front of the command takes effect last.
      let outer ← progress.settle
      outer.checkFallback fallback
      outer.checkConflict
      pure (merge outer inner fallback level)

end CommandLine

end RecordSieve
