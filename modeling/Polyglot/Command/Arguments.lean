/-
# Reading a command line

A command line is read from left to right, and the first fault decides.  The
value of an option may stand in the argument behind it; such a value is checked
when the next option is met, or at the end, so that an argument nobody knows is
reported first.  A double hyphen ends the options, and no command takes an
argument behind it.
-/

import Polyglot.Command.Basic
import Polyglot.Command.Number

namespace Polyglot

namespace Command

/-- An argument by its form. -/
inductive Argument
  /-- The double hyphen. -/
  | separator
  /-- A name behind two hyphens, with what stands behind an equals sign. -/
  | long (name : String) (value : Option String)
  /-- The first of the letters behind one hyphen. -/
  | short (letter : Char)
  /-- Anything else, a single hyphen included. -/
  | word (text : String)
  deriving DecidableEq, Repr

namespace Argument

/-- Cut a name from its value at the first equals sign. -/
def cutValue (text : List Char) : Argument :=
  match text.dropWhile (· != '=') with
  | _ :: value => .long (String.ofList (text.takeWhile (· != '='))) (some (String.ofList value))
  | [] => .long (String.ofList text) none

/-- The form of an argument. -/
def ofText (text : String) : Argument :=
  match text.toList with
  | ['-', '-'] => .separator
  | '-' :: '-' :: name => cutValue name
  | '-' :: letter :: _ => .short letter
  | _ => .word text

end Argument

/-- The options that take a value. -/
inductive Setting
  /-- The input. -/
  | input
  /-- The file for the answer. -/
  | output
  /-- The rule file. -/
  | rules
  /-- How many workers to use. -/
  | threads
  /-- The size above which files are skipped. -/
  | maxFileSize
  deriving DecidableEq, Repr

/-- The options that take no value. -/
inductive Switch
  /-- Report the scores of all candidates. -/
  | statistics
  /-- Do not thin out long snippets. -/
  | noHeuristic
  deriving DecidableEq, Repr

/-- What the name of an option stands for. -/
inductive Keyword
  /-- An option with a value. -/
  | setting (setting : Setting)
  /-- An option without one. -/
  | switch (switch : Switch)
  /-- A request for help. -/
  | help
  deriving DecidableEq, Repr

/-- The names of the commands. -/
inductive Verb
  /-- Detect a language. -/
  | detect
  /-- List the candidates. -/
  | languages
  deriving DecidableEq, Repr

namespace Verb

/-- The command that a word names. -/
def ofName? : String → Option Verb
  | "detect" => some detect
  | "languages" => some languages
  | _ => none

/-- The option of a command that a name stands for. -/
def keyword? : Verb → String → Option Keyword
  | _, "help" => some .help
  | _, "rules" => some (.setting .rules)
  | detect, "input" => some (.setting .input)
  | detect, "output" => some (.setting .output)
  | detect, "threads" => some (.setting .threads)
  | detect, "max-file-size" => some (.setting .maxFileSize)
  | detect, "statistics" => some (.switch .statistics)
  | detect, "no-heuristic" => some (.switch .noHeuristic)
  | _, _ => none

end Verb

/-- The options given so far. -/
structure Settings where
  /-- The input. -/
  input : Option String := none
  /-- The file for the answer. -/
  output : Option String := none
  /-- The rule file. -/
  rules : Option String := none
  /-- How many workers to use, as written. -/
  threads : Option String := none
  /-- The size above which files are skipped. -/
  maxFileSize : Option Nat := none
  /-- Whether to report scores. -/
  statistics : Bool := false
  /-- Whether not to thin out. -/
  noHeuristic : Bool := false
  deriving DecidableEq, Repr

namespace Settings

/-- The path that a value is, for an option that was not given before. -/
def path (given : Option String) (value : String) : Except UsageError (Option String) :=
  if given.isSome then .error .repeatedOption
  else if value.isEmpty then .error .missingValue
  else .ok (some value)

/-- The text that a value is, for an option that was not given before. -/
def text (given : Option String) (value : String) : Except UsageError (Option String) :=
  if given.isSome then .error .repeatedOption else .ok (some value)

/-- The number that a value is, for an option that was not given before. -/
def number (given : Option Nat) (value : String) : Except UsageError (Option Nat) :=
  if given.isSome then .error .repeatedOption
  else
    match number? value.toList with
    | some n => .ok (some n)
    | none => .error .invalidNumber

/-- Give an option its value. -/
def set (settings : Settings) (setting : Setting) (value : String) :
    Except UsageError Settings :=
  match setting with
  | .input => do
    let input ← path settings.input value
    .ok { settings with input := input }
  | .output => do
    let output ← path settings.output value
    .ok { settings with output := output }
  | .rules => do
    let rules ← path settings.rules value
    .ok { settings with rules := rules }
  | .threads => do
    let threads ← text settings.threads value
    .ok { settings with threads := threads }
  | .maxFileSize => do
    let maxFileSize ← number settings.maxFileSize value
    .ok { settings with maxFileSize := maxFileSize }

/-- Turn an option on. -/
def turnOn (settings : Settings) (switch : Switch) : Except UsageError Settings :=
  match switch with
  | .statistics =>
    if settings.statistics then .error .repeatedOption
    else .ok { settings with statistics := true }
  | .noHeuristic =>
    if settings.noHeuristic then .error .repeatedOption
    else .ok { settings with noHeuristic := true }

/-- The command that options make. -/
def command (settings : Settings) : Verb → Command
  | .detect =>
    .detect
      { input := settings.input
        output := settings.output
        rules := settings.rules
        options := ⟨!settings.noHeuristic, settings.statistics⟩
        workers := workers? (settings.threads.getD automatic).toList
        maxFileSize := settings.maxFileSize }
  | .languages => .languages settings.rules

end Settings

/-- An option whose value stands in an argument of its own: it is there, or still
to come. -/
abbrev Pending := Option (Setting × Option String)

/-- Give the pending option its value, which has to be there. -/
def settle (settings : Settings) (pending : Pending) : Except UsageError Settings :=
  match pending with
  | none => .ok settings
  | some (_, none) => .error .missingValue
  | some (setting, some value) => settings.set setting value

/-- Read the arguments behind the name of a command. -/
def readOptions (verb : Verb) (settings : Settings) (pending : Pending) :
    List String → Except UsageError Settings
  | [] => settle settings pending
  | argument :: rest =>
    match Argument.ofText argument with
    | .separator => if rest.isEmpty then settle settings pending else .error .unknownArgument
    | .short letter =>
      if letter = 'h' then do
        let _ ← settle settings pending
        .error .helpRequested
      else .error .unknownArgument
    | .word text =>
      match pending with
      | some (setting, none) => readOptions verb settings (some (setting, some text)) rest
      | _ => .error .unknownArgument
    | .long name value =>
      match verb.keyword? name, value with
      | none, _ => .error .unknownArgument
      | some (.setting setting), none => do
        let settings ← settle settings pending
        readOptions verb settings (some (setting, none)) rest
      | some (.setting setting), some value => do
        let settings ← settle settings pending
        let settings ← settings.set setting value
        readOptions verb settings none rest
      | some _, some _ => .error .unexpectedValue
      | some (.switch switch), none => do
        let settings ← settle settings pending
        let settings ← settings.turnOn switch
        readOptions verb settings none rest
      | some .help, none => do
        let _ ← settle settings pending
        .error .helpRequested

/-- The word that asks for help. -/
def helpWord : String := "help"

/-- What a request for help on some topics answers: at most one topic is known,
and it is the name of a command or the word itself. -/
def helpOn : List String → UsageError
  | [] => .helpRequested
  | [topic] =>
    if topic = helpWord || (Verb.ofName? topic).isSome then .helpRequested else .unknownCommand
  | _ => .unknownCommand

/-- What stands behind a double hyphen without a command. -/
def afterSeparator : List String → UsageError
  | [] => .nothingGiven
  | word :: _ =>
    if word = helpWord || (Verb.ofName? word).isSome then .unknownArgument else .unknownCommand

/-- Read a command line. -/
def ofArguments (arguments : List String) : Except UsageError Command :=
  match arguments with
  | [] => .error .nothingGiven
  | first :: rest =>
    match Argument.ofText first with
    | .separator => .error (afterSeparator rest)
    | .short 'h' => .error .helpRequested
    | .short 'V' => .error .versionRequested
    | .short _ => .error .unknownArgument
    | .long "help" none => .error .helpRequested
    | .long "version" none => .error .versionRequested
    | .long name (some _) =>
      .error (if name = "help" || name = "version" then .unexpectedValue else .unknownArgument)
    | .long _ none => .error .unknownArgument
    | .word word =>
      if word = helpWord then .error (helpOn rest)
      else
        match Verb.ofName? word with
        | none => .error .unknownCommand
        | some verb => do
          let settings ← readOptions verb {} none rest
          .ok (settings.command verb)

end Command

end Polyglot
