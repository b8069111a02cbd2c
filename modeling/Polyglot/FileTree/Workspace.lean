/-
# Paths in a workspace

A workspace is a file tree with a current directory.  A path is resolved step by
step: a link on the way is replaced by its target, and only so many links are
followed.  Creating a file goes through a link at the end of the path too, even
through one that leads to nothing yet.
-/

import Polyglot.FileTree.Basic

namespace Polyglot

/-- A file tree and the location of the current directory in it. -/
structure Workspace where
  /-- The whole tree. -/
  tree : Node
  /-- The current directory. -/
  current : List Name

/-- Why a path cannot be used. -/
inductive PathError
  /-- Something on the path does not exist. -/
  | notFound
  /-- Something on the path is no directory but has to be one. -/
  | notADirectory
  /-- The path leads to a directory but must not. -/
  | isADirectory
  /-- The path leads through too many links. -/
  | tooManyLinks
  deriving DecidableEq, Repr

/-- Where a path leads. -/
inductive Resolved
  /-- To something that is there. -/
  | existing (location : List Name)
  /-- To a free name in a directory. -/
  | missing (directory : List Name) (name : Name)
  deriving DecidableEq, Repr

namespace Workspace

/-- How many links a path may lead through. -/
def linkLimit : Nat := 40

/-- What to do at a link: given where it stands, its target, the steps behind
it, and whether a slash stands behind those. -/
abbrev LinkHandler := List Name → Path → List Name → Bool → Except PathError Resolved

/-- Walk the steps of a path from a location.  Creating a file under a name with
a slash behind it is asking for a directory. -/
def walk (tree : Node) (creating : Bool) (onLink : LinkHandler) :
    List Name → Bool → List Name → Except PathError Resolved
  | [], trailing, location =>
    match tree.lookup location with
    | some (.directory _) => .ok (.existing location)
    | some _ => if trailing then .error .notADirectory else .ok (.existing location)
    | none => .error .notFound
  | step :: rest, trailing, location =>
    match tree.lookup location with
    | none => .error .notFound
    | some (.directory entries) =>
      if step = Path.here then walk tree creating onLink rest trailing location
      else if step = Path.above then walk tree creating onLink rest trailing location.dropLast
      else if creating && trailing && rest.isEmpty then .error .isADirectory
      else
        match entries.lookup step with
        | none =>
          if rest.isEmpty && !trailing then .ok (.missing location step)
          else .error .notFound
        | some (.link target) => onLink location target rest trailing
        | some _ => walk tree creating onLink rest trailing (location ++ [step])
    | some _ => .error .notADirectory

/-- Resolve the steps of a path from a location, following at most so many
links. -/
def resolveSteps (tree : Node) (creating : Bool) :
    Nat → List Name → Bool → List Name → Except PathError Resolved
  | 0 => walk tree creating fun _ _ _ _ => .error .tooManyLinks
  | links + 1 =>
    walk tree creating fun location target rest trailing =>
      if target.isEmpty then .error .notFound
      else
        resolveSteps tree creating links (target.steps ++ rest)
          (trailing || (rest.isEmpty && target.trailing))
          (if target.absolute then [] else location)

/-- Resolve a path. -/
def resolve (w : Workspace) (creating : Bool) (path : Path) : Except PathError Resolved :=
  if path.isEmpty then .error .notFound
  else
    resolveSteps w.tree creating linkLimit path.steps path.trailing
      (if path.absolute then [] else w.current)

/-- The node that a path leads to. -/
def find (w : Workspace) (path : Path) : Except PathError Node :=
  match w.resolve false path with
  | .error fault => .error fault
  | .ok (.missing _ _) => .error .notFound
  | .ok (.existing location) =>
    match w.tree.lookup location with
    | some node => .ok node
    | none => .error .notFound

/-- The content of a file. -/
def read (w : Workspace) (path : Path) : Except PathError (List UInt8) :=
  match w.find path with
  | .error fault => .error fault
  | .ok (.file content) => .ok content
  | .ok (.directory _) => .error .isADirectory
  | .ok (.link _) => .error .notFound

/-- The directory that a path leads to, if it leads to one. -/
def directory? (w : Workspace) (path : Path) : Option Node :=
  match w.find path with
  | .ok (.directory entries) => some (.directory entries)
  | _ => none

/-- Give the file at a location a content. -/
def write (w : Workspace) (location : List Name) (content : List UInt8) : Workspace :=
  { w with tree := w.tree.put location (.file content) }

/-- Create a file, or empty the one that is there; the answer has its location. -/
def create (w : Workspace) (path : Path) : Except PathError (Workspace × List Name) :=
  match w.resolve true path with
  | .error fault => .error fault
  | .ok (.missing directory name) =>
    .ok (w.write (directory ++ [name]) [], directory ++ [name])
  | .ok (.existing location) =>
    match w.tree.lookup location with
    | some (.directory _) => .error .isADirectory
    | _ => .ok (w.write location [], location)

/-- Make the directory of a path, where nothing is there yet. -/
def makeDirectory (w : Workspace) (path : Path) : Workspace :=
  match w.resolve false path with
  | .ok (.missing directory name) =>
    { w with tree := w.tree.put (directory ++ [name]) (.directory []) }
  | _ => w

/-- Make a directory and those above it. -/
def makeDirectories (w : Workspace) (path : Path) : Workspace :=
  (List.range path.steps.length).foldl
    (fun w count => w.makeDirectory ⟨path.absolute, path.steps.take (count + 1), false⟩) w

/-- Make a file with a content, and the directories above it. -/
def makeFile (w : Workspace) (path : Path) (content : List UInt8) : Workspace :=
  let w := w.makeDirectories path.parent
  match w.create path with
  | .ok (w, location) => w.write location content
  | .error _ => w

/-- Make a link, and the directories above it. -/
def makeLink (w : Workspace) (path target : Path) : Workspace :=
  let w := w.makeDirectories path.parent
  let directory :=
    if path.parent.isEmpty then .ok (.existing w.current) else w.resolve false path.parent
  match directory, path.steps.getLast? with
  | .ok (.existing location), some name =>
    { w with tree := w.tree.put (location ++ [name]) (.link target) }
  | _, _ => w

end Workspace

end Polyglot
