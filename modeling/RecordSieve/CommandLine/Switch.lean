import RecordSieve.CommandLine.Basic

/-!
# Switches

The named arguments, the places where they may stand, and what they do to what has been given
so far.

## Main definitions

* `Switch`, `Level.switches`: the named arguments of each part of a command line;
* `Given`, `Given.take`: what has been given, and one more named argument.
-/

namespace RecordSieve

/-- A named argument. -/
inductive Switch where
  | config
  | color
  | verbose
  | quiet
  | help
  | version
  | reverse
  | useOr
  | preset
  | separator
deriving DecidableEq

namespace Switch

/-- The name behind two hyphens. -/
def long : Switch → String
  | config => "config"
  | color => "color"
  | verbose => "verbose"
  | quiet => "quiet"
  | help => "help"
  | version => "version"
  | reverse => "reverse"
  | useOr => "or"
  | preset => "preset"
  | separator => "sep"

/-- The letter behind one hyphen. -/
def short? : Switch → Option Char
  | config => some 'c'
  | verbose => some 'v'
  | quiet => some 'q'
  | help => some 'h'
  | version => some 'V'
  | reverse => some 'r'
  | preset => some 'p'
  | color | useOr | separator => none

/-- Whether a value belongs to the name. -/
def takesValue : Switch → Bool
  | config | color | preset | separator => true
  | verbose | quiet | help | version | reverse | useOr => false

/-- How messages show the name. -/
def shown (switch : Switch) : String := "--" ++ switch.long

end Switch

/-- A part of a command line: what stands in front of the command, and what stands behind each
command. -/
inductive Level where
  | top
  | filter
  | fields
deriving DecidableEq

namespace Level

/-- The named arguments of a part. -/
def switches : Level → List Switch
  | top => [.config, .color, .verbose, .quiet, .help, .version]
  | filter => [.config, .color, .verbose, .quiet, .help, .reverse, .useOr, .preset]
  | fields => [.config, .color, .verbose, .quiet, .help, .separator]

/-- The named argument with a long name. -/
def long? (level : Level) (name : String) : Option Switch :=
  level.switches.find? (·.long = name)

/-- The named argument with a letter. -/
def short? (level : Level) (letter : Char) : Option Switch :=
  level.switches.find? (·.short? = some letter)

end Level

/-- What has been given in one part of a command line. -/
structure Given where
  config : Option String := none
  color : Option ColorMode := none
  verbosity : Nat := 0
  quiet : Bool := false
  reverse : Bool := false
  useOr : Bool := false
  presets : List String := []
  separator : Option String := none
  conditions : List String := []
deriving DecidableEq

namespace Given

/-- The most that a count of flags reaches. -/
def maxVerbosity : Nat := 255

/-- What has been given with one more named argument, and its value if it has one. Only the
presets and the verbosity may be given again. -/
def take (given : Given) (switch : Switch) (value : Option String) : Except Stop Given :=
  let fresh (isFresh : Bool) (next : Given) : Except Stop Given :=
    if isFresh then .ok next else .error (.conflict switch.shown)
  match switch, value with
  | .verbose, _ => .ok { given with verbosity := min (given.verbosity + 1) maxVerbosity }
  | .quiet, _ => fresh (!given.quiet) { given with quiet := true }
  | .reverse, _ => fresh (!given.reverse) { given with reverse := true }
  | .useOr, _ => fresh (!given.useOr) { given with useOr := true }
  | .help, _ => .error .helpRequested
  | .version, _ => .error .versionRequested
  | .preset, some name => .ok { given with presets := given.presets ++ [name] }
  | .separator, some text =>
      fresh given.separator.isNone { given with separator := some text }
  | .config, some path => do
      -- A path that was given before is reported first, even if this one is empty.
      let next ← fresh given.config.isNone { given with config := some path }
      if path = "" then .error (.valueInvalid switch.shown) else .ok next
  | .color, some name => do
      let _ ← fresh given.color.isNone given
      match ColorMode.ofName? name with
      | some mode => .ok { given with color := some mode }
      | none => .error (.valueInvalid switch.shown)
  | .preset, none | .separator, none | .config, none | .color, none =>
      .error (.valueInvalid switch.shown)

/-- A path of settings from the environment counts where none is given, and may not be empty. -/
def checkFallback (given : Given) (fallback : Option String) : Except Stop Unit :=
  if given.config = none ∧ fallback = some "" then .error (.valueInvalid Switch.config.shown)
  else .ok ()

/-- Being quiet and being verbose exclude each other within one part. -/
def checkConflict (given : Given) : Except Stop Unit :=
  if given.quiet ∧ given.verbosity ≠ 0 then .error (.conflict Switch.quiet.shown) else .ok ()

end Given

end RecordSieve
