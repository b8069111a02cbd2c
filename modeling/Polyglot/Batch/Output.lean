/-
# The output of a batch

The results for the files of a batch are written as one JSON array, item by
item.  The sink that takes its bytes may have room for so many of them only.  The
bytes of a text are handed to it in pieces, which may end within a character; a
piece that does not fit fails, and nothing is handed over after it.
-/

import Polyglot.FileTree.Basic
import Polyglot.Json.Answer

namespace Polyglot

/-- A way to cut bytes into pieces. -/
structure Cutting where
  /-- The pieces of bytes. -/
  pieces : List UInt8 → List (List UInt8)
  /-- They make up the bytes. -/
  flatten_pieces : ∀ bytes, (pieces bytes).flatten = bytes

namespace Cutting

/-- All bytes of a text are one piece. -/
def whole : Cutting := ⟨fun bytes => [bytes], fun bytes => List.append_nil bytes⟩

end Cutting

/-- Takes what is written. -/
structure Sink where
  /-- The bytes there is room for, if there is a limit. -/
  room : Option Nat
  /-- How the bytes of a text are cut. -/
  cutting : Cutting
  /-- What was written, the last first. -/
  chunks : List (List UInt8)
  /-- How many bytes were written. -/
  used : Nat

namespace Sink

/-- A sink that nothing was written to, and that takes texts in pieces. -/
def cutBy (cutting : Cutting) (room : Option Nat) : Sink := ⟨room, cutting, [], 0⟩

/-- A sink that nothing was written to. -/
def empty (room : Option Nat) : Sink := cutBy .whole room

/-- Whether there is room for so many more bytes. -/
def fits (sink : Sink) (bytes : Nat) : Bool :=
  match sink.room with
  | none => true
  | some room => sink.used + bytes ≤ room

/-- The sink with one more chunk. -/
def push (sink : Sink) (chunk : List UInt8) : Sink :=
  { sink with chunks := chunk :: sink.chunks, used := sink.used + chunk.length }

/-- Hand over pieces up to the first that does not fit. -/
def handOver (sink : Sink) : List (List UInt8) → Except Sink Sink
  | [] => .ok sink
  | piece :: rest =>
    if sink.fits piece.length then (sink.push piece).handOver rest else .error sink

/-- Write a text. -/
def write (sink : Sink) (text : List Char) : Except Sink Sink :=
  sink.handOver (sink.cutting.pieces (Utf8.encode text))

/-- Everything written. -/
def bytes (sink : Sink) : List UInt8 := sink.chunks.reverse.flatten

/-- The text that was written; bytes that end within a character are none. -/
def text (sink : Sink) : List Char := (Utf8.decode? sink.bytes).getD []

end Sink

/-- How many files a batch has met. -/
structure BatchStats where
  /-- The regular files. -/
  seen : Nat
  /-- Those that something was detected in. -/
  detected : Nat
  /-- Those that were skipped. -/
  skipped : Nat
  deriving DecidableEq, Repr

/-- The result for a file: a detection, or nothing if the file was skipped. -/
abbrev FileResult := Option Detection

/-- Writes the items of a batch. -/
structure ItemWriter where
  /-- Where the text goes. -/
  sink : Sink
  /-- Whether no item was written yet. -/
  isFirst : Bool
  /-- The counts so far. -/
  stats : BatchStats

/-- What writing answers: the writer, or, if a write fails, the writer as it
stood then. -/
abbrev Writing := Except ItemWriter ItemWriter

namespace ItemWriter

/-- A writer before the first write. -/
def start (sink : Sink) : ItemWriter := ⟨sink, true, ⟨0, 0, 0⟩⟩

/-- Write a chunk. -/
def put (writer : ItemWriter) (chunk : List Char) : Writing :=
  match writer.sink.write chunk with
  | .ok sink => .ok { writer with sink := sink }
  | .error sink => .error { writer with sink := sink }

/-- Open the array. -/
def openArray (writer : ItemWriter) : Writing := writer.put ['[']

/-- Close the array. -/
def closeArray (writer : ItemWriter) : Writing := writer.put [']']

/-- Count a file that is skipped. -/
def skip (writer : ItemWriter) : ItemWriter :=
  { writer with
    stats :=
      { writer.stats with
        seen := writer.stats.seen + 1
        skipped := writer.stats.skipped + 1 } }

/-- Count a file that something was detected in. -/
def countDetected (writer : ItemWriter) : ItemWriter :=
  { writer with
    stats :=
      { writer.stats with
        seen := writer.stats.seen + 1
        detected := writer.stats.detected + 1 } }

/-- Write a comma unless the item is the first. -/
def separate (writer : ItemWriter) : Writing :=
  if writer.isFirst then .ok { writer with isFirst := false } else writer.put [',']

/-- Write the result for the file at a path. -/
def write (writer : ItemWriter) (path : String) (result : FileResult) : Writing :=
  match result with
  | none => .ok writer.skip
  | some detection => do
    let writer ← writer.countDetected.separate
    writer.put (FileItem.write ⟨path, detection⟩)

/-- Write the results for files one after the other. -/
def writeAll (writer : ItemWriter) (results : List (String × FileResult)) : Writing :=
  results.foldlM (fun writer result => writer.write result.1 result.2) writer

end ItemWriter

end Polyglot
