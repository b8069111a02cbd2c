/-
# Results that arrive in any order

When several workers share the files of a batch, their results arrive in any
order, each with the position of its file.  The receiver keeps what is early and
writes what is due, so that the items still appear in the order of the files.
-/

import Polyglot.Batch.Output

namespace Polyglot

/-- A result with the position of its file. -/
abbrev Arrival := Nat × FileResult

/-- Puts results back in order. -/
structure Receiver where
  /-- The position that is due. -/
  next : Nat
  /-- The results that came early, by position. -/
  early : List Arrival
  /-- Where the results are written. -/
  writer : ItemWriter

namespace Receiver

/-- A receiver before the first arrival. -/
def start (writer : ItemWriter) : Receiver := ⟨0, [], writer⟩

/-- Keep an arrival; a later one for the same position replaces it. -/
def keep (receiver : Receiver) (arrival : Arrival) : Receiver :=
  { receiver with
    early := arrival :: receiver.early.filter fun other => other.1 != arrival.1 }

/-- Write what is due, as long as it is there.  The first argument bounds the
steps. -/
def drain (paths : List String) : Nat → Receiver → Except ItemWriter Receiver
  | 0, receiver => .ok receiver
  | steps + 1, receiver =>
    match receiver.early.lookup receiver.next, paths[receiver.next]? with
    | some result, some path =>
      match receiver.writer.write path result with
      | .error failed => .error failed
      | .ok writer =>
        drain paths steps
          ⟨receiver.next + 1,
            receiver.early.filter fun other => other.1 != receiver.next, writer⟩
    | _, _ => .ok receiver

/-- Take in an arrival. -/
def receive (paths : List String) (receiver : Receiver) (arrival : Arrival) :
    Except ItemWriter Receiver :=
  let receiver := receiver.keep arrival
  receiver.drain paths receiver.early.length

/-- Take in arrivals one after the other. -/
def receiveAll (paths : List String) (receiver : Receiver) (arrivals : List Arrival) :
    Except ItemWriter Receiver :=
  arrivals.foldlM (receive paths) receiver

end Receiver

namespace ItemWriter

/-- Write the results for files in the order in which they arrive. -/
def writeArrivals (writer : ItemWriter) (paths : List String) (arrivals : List Arrival) :
    Writing :=
  (Receiver.receiveAll paths (Receiver.start writer) arrivals).map Receiver.writer

end ItemWriter

end Polyglot
