/-
# UTF-8

Bytes as text.  The decoder reads one byte at a time and keeps what a character
that has begun still needs.  A byte that cannot continue it ends the character
with a fault and is read again as a first byte, so every fault stands for the
longest beginning of a character that was there.
-/

namespace Polyglot

namespace Utf8

/-- A character that has begun: how many more bytes it needs, between which
bounds the next of them lies, and the bits read so far. -/
structure Pending where
  /-- The number of bytes still to come, less one. -/
  more : Nat
  /-- The least next byte. -/
  low : UInt8
  /-- The greatest next byte. -/
  high : UInt8
  /-- The number that the bytes read so far give. -/
  bits : Nat
  deriving DecidableEq, Repr

/-- What a byte is where a character may begin. -/
inductive Lead
  /-- A whole character. -/
  | whole (c : Char)
  /-- The beginning of a longer character. -/
  | begins (pending : Pending)
  /-- Neither. -/
  | fault
  deriving DecidableEq, Repr

/-- Read a byte where a character may begin.  The bounds on the second byte
leave out overlong forms, surrogates and numbers past the last character. -/
def lead (b : UInt8) : Lead :=
  let n := b.toNat
  if n < 0x80 then .whole (Char.ofNat n)
  else if n < 0xc2 then .fault
  else if n < 0xe0 then .begins ⟨0, 0x80, 0xbf, n - 0xc0⟩
  else if n = 0xe0 then .begins ⟨1, 0xa0, 0xbf, n - 0xe0⟩
  else if n = 0xed then .begins ⟨1, 0x80, 0x9f, n - 0xe0⟩
  else if n < 0xf0 then .begins ⟨1, 0x80, 0xbf, n - 0xe0⟩
  else if n = 0xf0 then .begins ⟨2, 0x90, 0xbf, n - 0xf0⟩
  else if n < 0xf4 then .begins ⟨2, 0x80, 0xbf, n - 0xf0⟩
  else if n = 0xf4 then .begins ⟨2, 0x80, 0x8f, n - 0xf0⟩
  else .fault

/-- The character that stands for a fault. -/
def replacement : Char := '\ufffd'

/-- Where a decoder stands. -/
structure State where
  /-- The characters so far, backwards. -/
  text : List Char
  /-- The character that has begun, if one has. -/
  pending : Option Pending
  /-- Whether there was no fault. -/
  sound : Bool
  deriving DecidableEq, Repr

/-- The state before the first byte. -/
def State.initial : State := ⟨[], none, true⟩

/-- Read a byte where a character may begin. -/
def State.first (state : State) (b : UInt8) : State :=
  match lead b with
  | .whole c => ⟨c :: state.text, none, state.sound⟩
  | .begins pending => ⟨state.text, some pending, state.sound⟩
  | .fault => ⟨replacement :: state.text, none, false⟩

/-- Read a byte. -/
def State.step (state : State) (b : UInt8) : State :=
  match state.pending with
  | none => state.first b
  | some pending =>
    if pending.low ≤ b && b ≤ pending.high then
      let bits := pending.bits * 64 + (b.toNat - 0x80)
      match pending.more with
      | 0 => ⟨Char.ofNat bits :: state.text, none, state.sound⟩
      | more + 1 => ⟨state.text, some ⟨more, 0x80, 0xbf, bits⟩, state.sound⟩
    else
      State.first ⟨replacement :: state.text, none, false⟩ b

/-- The state after the last byte. -/
def State.finish (state : State) : State :=
  match state.pending with
  | none => state
  | some _ => ⟨replacement :: state.text, none, false⟩

/-- Read bytes to the end. -/
def run (bytes : List UInt8) : State :=
  (bytes.foldl State.step State.initial).finish

/-- The text that bytes hold, with a replacement character for every fault. -/
def decodeLossy (bytes : List UInt8) : List Char := (run bytes).text.reverse

/-- Whether bytes hold a text without faults. -/
def isValid (bytes : List UInt8) : Bool := (run bytes).sound

/-- The text that bytes hold, if it is without faults. -/
def decode? (bytes : List UInt8) : Option (List Char) :=
  if isValid bytes then some (decodeLossy bytes) else none

/-- The bytes of a text. -/
def encode (text : List Char) : List UInt8 := text.flatMap String.utf8EncodeChar

end Utf8

end Polyglot
