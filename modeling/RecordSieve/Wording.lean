/-!
# Wordings

What goes wrong inside a part that the program is built with is told in the words of that part. The
program passes these words on as they are, and nothing that it does depends on them.

## Main definitions

* `Wording`: how such parts word what is wrong with a text.
-/

namespace RecordSieve

/-- How the parts that the program is built with word what is wrong with a text. -/
structure Wording where
  /-- Why a pattern does not compile. -/
  pattern : List Char → String
  /-- Why the text of a file gives no settings. -/
  settings : List Char → String
  /-- What is said about arguments that are no command line, given the path of settings that the
  environment holds. -/
  arguments : List String → Option String → String

end RecordSieve
