/-
# Batches by full paths

A batch meets every file under its full path: the path of the directory, as it
is written, and behind it the names that lead to the file.  The files are put in
the order of these paths and read by them, and for the output the path of the
directory is taken off again.  A path that it cannot be taken off stays whole.

`Batch.run` does the same by the names below the directory alone.
-/

import Polyglot.Batch.Basic
import Polyglot.FileTree.Parts

namespace Polyglot

namespace Batch

/-- The full path of a file. -/
def fullPath (root : List UInt8) (file : FoundFile) : List UInt8 :=
  file.path.foldl Path.addName root

/-- Full paths in their order. -/
def sortPaths (paths : List (List UInt8)) : List (List UInt8) :=
  paths.mergeSort fun first second =>
    decide ((Path.ofBytes first).keys ≤ (Path.ofBytes second).keys)

/-- The text for a full path in the output. -/
def textBelow (root path : List UInt8) : String :=
  String.ofList (Utf8.decodeLossy ((Path.below? root path).getD path))

/-- The result for the file at a path.  A file that cannot be read is skipped. -/
def resultAt (w : Workspace) (options : BatchOptions) (registry : Registry)
    (path : List UInt8) : FileResult :=
  match w.read (Path.ofBytes path) with
  | .error _ => none
  | .ok content => fileResult options registry content

/-- The results for the files at full paths. -/
def resultsAt (w : Workspace) (root : List UInt8) (options : BatchOptions)
    (registry : Registry) (paths : List (List UInt8)) : List (String × FileResult) :=
  (sortPaths paths).map fun path => (textBelow root path, resultAt w options registry path)

/-- Run a batch by full paths on the directory that a written path leads to. -/
def runAt (w : Workspace) (root : List UInt8) (options : BatchOptions) (registry : Registry)
    (sink : Sink) : Writing :=
  let files :=
    match w.directory? (Path.ofBytes root) with
    | some directory => directory.files
    | none => []
  let results := resultsAt w root options registry (files.map (fullPath root))
  writeArray options.workers (inOrder results) results sink

end Batch

end Polyglot
