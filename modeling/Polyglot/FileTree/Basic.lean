/-
# File trees

A file tree is a directory of files, links and further directories.  Names are
byte strings.  Looking up a location follows names only: what links mean is a
matter of path resolution, in `Polyglot.FileTree.Workspace`.
-/

import Polyglot.Text.Utf8
import Polyglot.Unicode.Table

namespace Polyglot

/-- The name of a directory entry. -/
abbrev Name := List UInt8

/-- A path as it is written: names, dots and double dots with slashes between
them. -/
structure Path where
  /-- Whether the path begins at the root of the tree. -/
  absolute : Bool
  /-- What stands between the slashes, empty parts left out. -/
  steps : List Name
  /-- Whether a slash stands behind the last step. -/
  trailing : Bool
  deriving DecidableEq, Repr

namespace Path

/-- The byte between the steps of a path. -/
def slash : UInt8 := 0x2f

/-- The step that stays where it is. -/
def here : Name := [0x2e]

/-- The step to the directory above. -/
def above : Name := [0x2e, 0x2e]

/-- Read a path. -/
def ofBytes (bytes : List UInt8) : Path :=
  let steps := (Unicode.cutAt (· == slash) bytes).filter fun step => !step.isEmpty
  ⟨bytes.head? == some slash, steps, !steps.isEmpty && bytes.getLast? == some slash⟩

/-- Read a path that is written in a text. -/
def ofText (text : String) : Path := ofBytes (Utf8.encode text.toList)

/-- Whether a path is written with no character at all. -/
def isEmpty (path : Path) : Bool := !path.absolute && path.steps.isEmpty

/-- The path without its last step. -/
def parent (path : Path) : Path := ⟨path.absolute, path.steps.dropLast, false⟩

end Path

/-- A node of a file tree. -/
inductive Node
  /-- A regular file with its content. -/
  | file (content : List UInt8)
  /-- A symbolic link. -/
  | link (target : Path)
  /-- A directory with its entries. -/
  | directory (entries : List (Name × Node))

/-- A regular file below a directory: the names that lead to it, and its
content. -/
structure FoundFile where
  /-- The names from the directory down to the file. -/
  path : List Name
  /-- The content of the file. -/
  content : List UInt8
  deriving DecidableEq, Repr

namespace FoundFile

/-- The file as seen from a directory further up. -/
def below (name : Name) (file : FoundFile) : FoundFile := ⟨name :: file.path, file.content⟩

/-- The bytes of the path. -/
def pathBytes (file : FoundFile) : List UInt8 := [Path.slash].intercalate file.path

/-- The path as text. -/
def pathText (file : FoundFile) : String := String.ofList (Utf8.decodeLossy file.pathBytes)

end FoundFile

namespace Node

/-- Whether a node is a directory. -/
def isDirectory : Node → Bool
  | directory _ => true
  | _ => false

/-- The node at a location: a list of names from here down. -/
def lookup : Node → List Name → Option Node
  | node, [] => some node
  | directory entries, name :: rest =>
    match entries.lookup name with
    | some node => node.lookup rest
    | none => none
  | _, _ :: _ => none

/-- Replace the node under a name, or add it at the end. -/
def putEntry (name : Name) (node : Node) : List (Name × Node) → List (Name × Node)
  | [] => [(name, node)]
  | (other, old) :: rest =>
    if other = name then (name, node) :: rest else (other, old) :: putEntry name node rest

/-- Replace the node at a location, or add it to a directory that is there.
Elsewhere nothing changes. -/
def put : Node → List Name → Node → Node
  | _, [], node => node
  | directory entries, name :: rest, node =>
    match entries.lookup name, rest with
    | some old, rest => directory (putEntry name (old.put rest node) entries)
    | none, [] => directory (putEntry name node entries)
    | none, _ :: _ => directory entries
  | old, _ :: _, _ => old

mutual

/-- The regular files below a directory.  Links are neither followed nor
listed. -/
def files : Node → List FoundFile
  | directory entries => filesIn entries
  | file _ => []
  | link _ => []

/-- The regular files among directory entries and below them. -/
def filesIn : List (Name × Node) → List FoundFile
  | [] => []
  | (name, file content) :: rest => ⟨[name], content⟩ :: filesIn rest
  | (_, link _) :: rest => filesIn rest
  | (name, directory entries) :: rest =>
    (filesIn entries).map (FoundFile.below name) ++ filesIn rest

end

end Node

end Polyglot
