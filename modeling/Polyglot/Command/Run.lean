/-
# Running commands

A command runs on a workspace and the bytes of the standard input.  The rule
file is loaded first.  Then the file for the answer is created, or emptied if it
is there, and only then is the input read.  So the input is what the files hold
after that, and a file for the answer stays empty if the input cannot be read.

An answer is held back in a buffer, which is handed on when it is full and at the
end.  Here an answer is written when it is complete.  Only a longer answer for a
directory is partly in its file before all files are read, and this makes a
difference only if the file is below that directory.
-/

import Polyglot.Batch.Basic
import Polyglot.Builtin
import Polyglot.Command.Basic

namespace Polyglot

/-- What a command leaves behind. -/
structure Outcome where
  /-- The files. -/
  workspace : Workspace
  /-- What was written to the standard output. -/
  stdout : List Char
  /-- Why the command failed, if it did. -/
  failure : Option CommandError

namespace Command

/-- The registry of a rule file, or the built-in one. -/
def loadRegistry (w : Workspace) : Option String → Except CommandError Registry
  | none => .ok Registry.builtin
  | some path => (RuleFile.loadRegistry w (Path.ofText path)).mapError (.rules path)

/-- How a command runs a batch. -/
def batchOptions (request : DetectCommand) : BatchOptions :=
  ⟨request.options, request.maxFileSize, request.workers.getD 1⟩

/-- The text that a batch wrote. -/
def batchText : Writing → Except CommandError (List Char)
  | .ok writer => .ok writer.sink.text
  | .error _ => .error .batch

/-- The text for a directory. -/
def directoryText (w : Workspace) (root : Path) (request : DetectCommand)
    (registry : Registry) : Except CommandError (List Char) :=
  batchText (Batch.run w root (batchOptions request) registry (Sink.empty none))

/-- The text for the bytes of a snippet. -/
def snippetText (bytes : List UInt8) (request : DetectCommand) (registry : Registry) :
    List Char :=
  (Batch.detectBytes bytes request.options registry).write

/-- The text that answers a request. -/
def answerText (w : Workspace) (stdin : List UInt8) (request : DetectCommand)
    (registry : Registry) : Except CommandError (List Char) :=
  match request.input with
  | none => .ok (snippetText stdin request registry)
  | some input =>
    let path := Path.ofText input
    if (w.directory? path).isSome then directoryText w path request registry
    else
      match w.read path with
      | .error fault => .error (.input input fault)
      | .ok bytes => .ok (snippetText bytes request registry)

/-- The bytes of an answer that are held back before they are handed on. -/
def bufferSize : Nat := 8192

/-- What is written for an answer: one line, if the answer has no line break. -/
def asLine (text : List Char) : List Char := text ++ ['\n']

/-- Detect, and write the answer to the standard output. -/
def detectToStdout (w : Workspace) (stdin : List UInt8) (request : DetectCommand)
    (registry : Registry) : Outcome :=
  match answerText w stdin request registry with
  | .error fault => ⟨w, [], some fault⟩
  | .ok text => ⟨w, asLine text, none⟩

/-- Detect, and write the answer to a file when it is complete. -/
def detectToFile (w : Workspace) (stdin : List UInt8) (request : DetectCommand)
    (registry : Registry) (output : String) : Outcome :=
  match w.create (Path.ofText output) with
  | .error fault => ⟨w, [], some (.output fault)⟩
  | .ok (created, location) =>
    match answerText created stdin request registry with
    | .error fault => ⟨created, [], some fault⟩
    | .ok text => ⟨created.write location (Utf8.encode (asLine text)), [], none⟩

/-- The lines that list the candidates of a registry. -/
def listing (registry : Registry) : List Char :=
  registry.candidates.flatMap fun candidate =>
    candidate.name.toList ++ '\t' :: asLine (Nat.toDigits 10 candidate.rules.length)

/-- Run a command. -/
def run (command : Command) (w : Workspace) (stdin : List UInt8) : Outcome :=
  match command with
  | .detect request =>
    match loadRegistry w request.rules with
    | .error fault => ⟨w, [], some fault⟩
    | .ok registry =>
      match request.output with
      | none => detectToStdout w stdin request registry
      | some output => detectToFile w stdin request registry output
  | .languages rules =>
    match loadRegistry w rules with
    | .error fault => ⟨w, [], some fault⟩
    | .ok registry => ⟨w, listing registry, none⟩

end Command

end Polyglot
