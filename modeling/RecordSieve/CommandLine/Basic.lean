import RecordSieve.Sieve.Request

/-!
# Command Lines

What a user can ask of the program, and what ends the reading of arguments before there is
anything to do.

## Main definitions

* `CommandLine`, `Command`: a complete command line;
* `Stop`: why there is none.
-/

namespace RecordSieve

/-- When the report of a failure is colored. -/
inductive ColorMode where
  /-- As the environment asks for. -/
  | auto
  | always
  | never
deriving DecidableEq

namespace ColorMode

/-- The modes, each once. -/
def all : List ColorMode := [auto, always, never]

/-- The name of a mode. -/
def name : ColorMode → String
  | auto => "auto"
  | always => "always"
  | never => "never"

/-- The mode that a name writes. -/
def ofName? (name : String) : Option ColorMode := all.find? (·.name = name)

end ColorMode

/-- What is to be done. -/
inductive Command where
  /-- Print the records that a sieve keeps. -/
  | filter (request : Request)
  /-- Print the keys of all records, with a separator other than that of the settings. -/
  | fields (separator : Option String)
deriving DecidableEq

/-- A complete command line. -/
structure CommandLine where
  /-- The path of the settings. -/
  config : Option String
  color : ColorMode
  /-- How much is logged. -/
  verbosity : Nat
  quiet : Bool
  command : Command
deriving DecidableEq

/-- What ends the reading of arguments before there is a complete command line. -/
inductive Stop where
  | helpRequested
  | versionRequested
  /-- There is no argument at all. -/
  | nothingGiven
  | commandMissing
  | commandUnknown (name : String)
  | argumentUnknown (argument : String)
  /-- An argument comes twice, or two arguments exclude each other. -/
  | conflict (argument : String)
  /-- The value of an argument is missing or not one of those it takes. -/
  | valueInvalid (argument : String)
  /-- A flag has a value. -/
  | valueUnwanted (argument : String)
deriving DecidableEq

namespace Stop

/-- The exit status that goes with a stop. -/
def status : Stop → Nat
  | helpRequested | versionRequested => 0
  | _ => 2

/-- A text for a stop. -/
def message : Stop → String
  | helpRequested | nothingGiven =>
      "Tools for shallow JSON objects read one per line from standard input\n\n" ++
        "Usage: jsonl-tools [OPTIONS] <COMMAND>\n\n" ++
        "Commands:\n" ++
        "  filter [-r] [--or] [-p <NAME>]... [CONDITIONS]...\n" ++
        "          Print the lines (not) matching the given conditions\n" ++
        "  fields [--sep <SEP>]\n" ++
        "          Print the sorted list of unique keys across all entries\n" ++
        "  help    Print this message\n\n" ++
        "Options:\n" ++
        "  -c, --config <CONFIG>  TOML config file with defaults and condition presets\n" ++
        "      --color <COLOR>    Colorize diagnostics: auto, always, never\n" ++
        "  -v, --verbose...       Increase log verbosity\n" ++
        "  -q, --quiet            Only report errors\n" ++
        "  -h, --help             Print help\n" ++
        "  -V, --version          Print version\n"
  | versionRequested => "jsonl-tools 0.1.0\n"
  | commandMissing => "error: a subcommand is required but none was given\n"
  | commandUnknown name => "error: unrecognized subcommand '" ++ name ++ "'\n"
  | argumentUnknown argument => "error: unexpected argument '" ++ argument ++ "' found\n"
  | conflict argument => "error: the argument '" ++ argument ++ "' cannot be used here\n"
  | valueInvalid argument => "error: a value is missing or invalid for '" ++ argument ++ "'\n"
  | valueUnwanted argument => "error: unexpected value for '" ++ argument ++ "'\n"

end Stop

end RecordSieve
