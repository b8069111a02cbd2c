/-
# Parts of paths

A path that is written with bytes is made longer by one name at a time.  Two
written paths are compared, and one is taken off the front of the other, part by
part: doubled slashes, a slash at the end and dots in the middle are no parts.
A double dot is one, since what is above a link is known to the file tree only.
-/

import Polyglot.FileTree.Basic

namespace Polyglot

namespace Path

/-- Write a name behind a path, with a slash between unless there is one or the
path is empty. -/
def addName (written : List UInt8) (name : Name) : List UInt8 :=
  match written.getLast? with
  | none => name
  | some last => if last = slash then written ++ name else written ++ slash :: name

/-- A part of a path. -/
inductive Part
  /-- The root of the tree. -/
  | root
  /-- The dot that a path begins with. -/
  | here
  /-- A double dot. -/
  | above
  /-- A name. -/
  | name (bytes : Name)
  deriving DecidableEq, Repr

namespace Part

/-- The part that a step of a path is, if it is one. -/
def ofStep? (step : Name) : Option Part :=
  if step = Path.here then none
  else if step = Path.above then some .above
  else some (.name step)

/-- What stands for a part between slashes. -/
def word : Part → Name
  | root => []
  | here => Path.here
  | above => Path.above
  | name bytes => bytes

/-- What a part is compared by: first what kind it is, then the bytes of a
name. -/
def key : Part → Name
  | root => [0]
  | here => [1]
  | above => [2]
  | name bytes => 3 :: bytes

end Part

/-- What a path begins with in front of its steps. -/
def front (path : Path) : List Part :=
  if path.absolute then [.root] else if path.steps.head? = some here then [.here] else []

/-- The parts of a path. -/
def parts (path : Path) : List Part := path.front ++ path.steps.filterMap Part.ofStep?

/-- What a path is compared by. -/
def keys (path : Path) : List Name := path.parts.map Part.key

/-- Write parts with slashes between them. -/
def writeParts : List Part → List UInt8
  | .root :: rest => slash :: [slash].intercalate (rest.map Part.word)
  | parts => [slash].intercalate (parts.map Part.word)

/-- What is left of a written path when another one is taken off its front, if
it begins with this. -/
def below? (root path : List UInt8) : Option (List UInt8) :=
  ((ofBytes root).parts.isPrefixOf? (ofBytes path).parts).map writeParts

end Path

end Polyglot
