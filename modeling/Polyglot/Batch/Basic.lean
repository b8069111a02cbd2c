/-
# Batches

A batch detects the language of every regular file below a directory and writes
the results as a JSON array, in the order of the paths.  Files that are too
large or look binary are skipped.
-/

import Polyglot.Batch.Arrival
import Polyglot.FileTree.Workspace

namespace Polyglot

/-- How to run a batch. -/
structure BatchOptions where
  /-- How to detect. -/
  detect : DetectOptions
  /-- The size in bytes above which a file is skipped, if there is one. -/
  maxFileSize : Option Nat
  /-- How many workers share the files. -/
  workers : Nat
  deriving DecidableEq, Repr

namespace Batch

/-- The bytes that a text of ASCII characters consists of. -/
def isPrintable (b : UInt8) : Bool :=
  b == 0x09 || b == 0x0a || b == 0x0d || (0x20 ≤ b && b ≤ 0x7e)

/-- Whether bytes look like no text: they hold a zero byte, or they are no UTF-8
and less than a quarter of them are printable. -/
def isProbablyBinary (bytes : List UInt8) : Bool :=
  if bytes.isEmpty then false
  else if bytes.contains 0 then true
  else if Utf8.isValid bytes then false
  else decide (4 * bytes.countP isPrintable < bytes.length)

/-- Whether a file of this size is skipped. -/
def isTooLarge (limit : Option Nat) (size : Nat) : Bool :=
  match limit with
  | none => false
  | some limit => limit < size

/-- The detection in the bytes of a file. -/
def detectBytes (bytes : List UInt8) (options : DetectOptions) (registry : Registry) :
    Detection :=
  detect (Utf8.decodeLossy bytes) options registry

/-- The result for a file. -/
def fileResult (options : BatchOptions) (registry : Registry) (content : List UInt8) :
    FileResult :=
  if isTooLarge options.maxFileSize content.length then none
  else if isProbablyBinary content then none
  else some (detectBytes content options.detect registry)

/-- Files in the order of their paths, name by name and byte by byte. -/
def sortFiles (files : List FoundFile) : List FoundFile :=
  files.mergeSort fun first second => decide (first.path ≤ second.path)

/-- The results for files. -/
def results (options : BatchOptions) (registry : Registry) (files : List FoundFile) :
    List (String × FileResult) :=
  files.map fun file => (file.pathText, fileResult options registry file.content)

/-- The arrivals of workers that finish in the order of the files. -/
def inOrder (results : List (String × FileResult)) : List Arrival :=
  results.zipIdx.map fun entry => (entry.2, entry.1.2)

/-- Write results, by one worker in order or by several as they arrive. -/
def writeResults (workers : Nat) (arrivals : List Arrival)
    (results : List (String × FileResult)) (writer : ItemWriter) : Writing :=
  if 1 < workers && 1 < results.length then
    writer.writeArrivals (results.map (·.1)) arrivals
  else
    writer.writeAll results

/-- Write the array for results that arrive in an order. -/
def writeArray (workers : Nat) (arrivals : List Arrival)
    (results : List (String × FileResult)) (sink : Sink) : Writing := do
  let writer ← (ItemWriter.start sink).openArray
  let writer ← writeResults workers arrivals results writer
  writer.closeArray

/-- Write the array for the files below a directory.  Here the results arrive in
order; any other order gives the same text. -/
def writeFiles (files : List FoundFile) (options : BatchOptions) (registry : Registry)
    (sink : Sink) : Writing :=
  let results := results options registry (sortFiles files)
  writeArray options.workers (inOrder results) results sink

/-- Run a batch on the directory that a path leads to.  A path that leads to
none stands for one without files. -/
def run (w : Workspace) (root : Path) (options : BatchOptions) (registry : Registry)
    (sink : Sink) : Writing :=
  let files :=
    match w.directory? root with
    | some directory => directory.files
    | none => []
  writeFiles files options registry sink

end Batch

end Polyglot
