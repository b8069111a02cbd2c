/-
# The command line program

The program reads its arguments and does to the files of the system, step by
step and in the same order, what a command does to a workspace.  What is read
and what is written is decided by the pure definitions; here are effects only.
-/

import Polyglot.Command.Arguments
import Polyglot.Command.Run

namespace Polyglot

namespace Program

/-- The fault of a path that a failure of the system stands for. -/
def faultOf : IO.Error → PathError
  | .inappropriateType .. => .isADirectory
  | .noSuchThing .. => .notADirectory
  | .resourceExhausted .. => .tooManyLinks
  | _ => .notFound

/-- Do something to a file, and name the command error if it fails. -/
def attempt {α : Type} (action : IO α) (failure : PathError → CommandError) :
    ExceptT CommandError IO α := do
  match ← action.toBaseIO with
  | .ok value => return value
  | .error fault => throw (failure (faultOf fault))

/-- The registry of a rule file, or the built-in one. -/
def loadRegistry : Option String → ExceptT CommandError IO Registry
  | none => return Registry.builtin
  | some path => do
    let content ← attempt (IO.FS.readBinFile path) fun fault => .rules path (.unreadable fault)
    match (RuleFile.ofBytes content.toList).bind RuleFile.build with
    | .ok registry => return registry
    | .error fault => throw (.rules path fault)

/-- The regular files among directory entries and below them, links left
alone.  What cannot be read is skipped. -/
partial def filesAmong (entries : List IO.FS.DirEntry) : IO (List FoundFile) := do
  match entries with
  | [] => return []
  | entry :: rest =>
    let name : Name := Utf8.encode entry.fileName.toList
    let found ←
      try
        match (← entry.path.symlinkMetadata).type with
        | .dir =>
          let below ← filesAmong (← entry.path.readDir).toList
          pure (below.map (FoundFile.below name))
        | .file =>
          let content ← IO.FS.readBinFile entry.path
          pure [⟨[name], content.toList⟩]
        | _ => pure []
      catch _ => pure []
    return found ++ (← filesAmong rest)

/-- The regular files below a directory, if a path leads to one. -/
def filesBelow? (path : String) : IO (Option (List FoundFile)) := do
  try
    let root ← IO.FS.realPath path
    if ← root.isDir then
      return some (← filesAmong (← root.readDir).toList)
    else return none
  catch _ => return none

/-- The text that answers a request. -/
def answerText (request : DetectCommand) (registry : Registry) :
    ExceptT CommandError IO (List Char) := do
  match request.input with
  | none =>
    let content ← (← IO.getStdin).readBinToEnd
    return Command.snippetText content.toList request registry
  | some path =>
    match ← filesBelow? path with
    | some files =>
      liftExcept (Command.batchText
        (Batch.writeFiles files (Command.batchOptions request) registry (Sink.empty none)))
    | none =>
      let content ← attempt (IO.FS.readBinFile path) (.input path)
      return Command.snippetText content.toList request registry
where
  /-- A pure answer or failure. -/
  liftExcept {α : Type} (answer : Except CommandError α) : ExceptT CommandError IO α :=
    ExceptT.mk (pure answer)

/-- Run a command. -/
def run : Command → ExceptT CommandError IO Unit
  | .detect request => do
    let registry ← loadRegistry request.rules
    match request.output with
    | none =>
      let text ← answerText request registry
      (← IO.getStdout).putStr (String.ofList (Command.asLine text))
    | some output =>
      let file ← attempt (IO.FS.Handle.mk output .write) .output
      let text ← answerText request registry
      file.putStr (String.ofList (Command.asLine text))
      file.flush
  | .languages rules => do
    let registry ← loadRegistry rules
    (← IO.getStdout).putStr (String.ofList (Command.listing registry))

/-- How the program is used. -/
def usage : String :=
  "usage: polyglot detect [--input PATH] [--output PATH] [--statistics] [--no-heuristic]\n" ++
  "                       [--rules PATH] [--threads COUNT] [--max-file-size BYTES]\n" ++
  "       polyglot languages [--rules PATH]"

/-- Answer a command line that gives no command. -/
def explain (fault : UsageError) : IO UInt32 := do
  match fault with
  | .helpRequested => IO.println usage; return 0
  | .versionRequested => IO.println "polyglot 0.1.0"; return 0
  | _ => IO.eprintln usage; return 2

/-- The program. -/
def start (arguments : List String) : IO UInt32 := do
  match Command.ofArguments arguments with
  | .error fault => explain fault
  | .ok command =>
    match ← (run command).run with
    | .ok _ => return 0
    | .error fault =>
      IO.eprintln ("Error: " ++ fault.message)
      return 1

end Program

end Polyglot

/-- Runs the program on its arguments. -/
def main (arguments : List String) : IO UInt32 := Polyglot.Program.start arguments
