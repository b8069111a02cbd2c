/-
# Commands

There are two commands: one detects the language of a file, of a directory of
files or of the standard input, the other lists the candidates.  A command line
that gives neither has a usage error; a command that fails has a command error.
-/

import Polyglot.Detection
import Polyglot.RuleFile.Load

namespace Polyglot

/-- What to detect, and where the answer goes. -/
structure DetectCommand where
  /-- The file or directory to detect; the standard input if there is none. -/
  input : Option String
  /-- The file for the answer; the standard output if there is none. -/
  output : Option String
  /-- The rule file; the built-in rules if there is none. -/
  rules : Option String
  /-- How to detect. -/
  options : DetectOptions
  /-- How many workers share the files of a directory, if given. -/
  workers : Option Nat
  /-- The size in bytes above which files of a directory are skipped, if
  given. -/
  maxFileSize : Option Nat
  deriving DecidableEq, Repr

/-- A command. -/
inductive Command
  /-- Detect a language. -/
  | detect (request : DetectCommand)
  /-- List the candidates of a rule file, or the built-in ones. -/
  | languages (rules : Option String)
  deriving DecidableEq, Repr

/-- Why a command line gives no command. -/
inductive UsageError
  /-- It asks for help. -/
  | helpRequested
  /-- It asks for the version. -/
  | versionRequested
  /-- It is empty. -/
  | nothingGiven
  /-- It begins with a word that names no command. -/
  | unknownCommand
  /-- It has an argument that the command does not take. -/
  | unknownArgument
  /-- An option has no value, or an empty path. -/
  | missingValue
  /-- The value of an option is no number. -/
  | invalidNumber
  /-- An option is given twice. -/
  | repeatedOption
  /-- An option that takes no value is given one. -/
  | unexpectedValue
  deriving DecidableEq, Repr

/-- Why a command fails. -/
inductive CommandError
  /-- The rule file cannot be loaded. -/
  | rules (path : String) (fault : LoadError)
  /-- The file for the answer cannot be created. -/
  | output (fault : PathError)
  /-- The input cannot be read. -/
  | input (path : String) (fault : PathError)
  /-- The answer for a directory cannot be written. -/
  | batch
  deriving DecidableEq, Repr

namespace CommandError

/-- The text of a failure. -/
def message : CommandError → String
  | rules path _ => "load rules from " ++ path
  | output _ => "create output file"
  | input path _ => "read " ++ path
  | batch => "batch detection failed"

end CommandError

end Polyglot
