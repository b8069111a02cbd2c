/-
# Finding a pattern in a text

A marking is a pattern with marks at the character sets whose character was
just read.  Reading one more character moves every mark on, so the text is read
once, in time proportional to its length, whatever the pattern.

A part of a pattern that holds no mark is kept as it is, in one idle leaf, and
a step does no work there unless a mark is about to enter it.
-/

import Polyglot.Pattern.Basic

namespace Polyglot

namespace Pattern

/-- Whether a pattern covers the empty text at a place. -/
def nullable (place : Place) : Pattern → Bool
  | empty => true
  | look l => l.holds place
  | set _ => false
  | seq p q => p.nullable place && q.nullable place
  | alt p q => p.nullable place || q.nullable place
  | opt _ => true
  | plus p => p.nullable place

end Pattern

/-- A pattern with marks at some of its character sets. -/
inductive Marking
  /-- A pattern without marks. -/
  | idle (p : Pattern)
  /-- A marked character set. -/
  | hit (s : CharSet)
  /-- One after the other. -/
  | seq (m n : Marking)
  /-- Either. -/
  | alt (m n : Marking)
  /-- The part or the empty text. -/
  | opt (m : Marking)
  /-- One or more times. -/
  | plus (m : Marking)

namespace Marking

/-- A sequence, idle if both parts are. -/
def joinSeq : Marking → Marking → Marking
  | idle p, idle q => idle (.seq p q)
  | m, n => seq m n

/-- A choice, idle if both parts are. -/
def joinAlt : Marking → Marking → Marking
  | idle p, idle q => idle (.alt p q)
  | m, n => alt m n

/-- An optional part, idle if the part is. -/
def joinOpt : Marking → Marking
  | idle p => idle (.opt p)
  | m => opt m

/-- A repetition, idle if the part is. -/
def joinPlus : Marking → Marking
  | idle p => idle (.plus p)
  | m => plus m

/-- Whether the underlying pattern covers the empty text at a place. -/
def nullable (place : Place) : Marking → Bool
  | idle p => p.nullable place
  | hit _ => false
  | seq m n => m.nullable place && n.nullable place
  | alt m n => m.nullable place || n.nullable place
  | opt _ => true
  | plus m => m.nullable place

/-- Whether some mark stands where the pattern may end. -/
def ends (place : Place) : Marking → Bool
  | idle _ => false
  | hit _ => true
  | seq m n => n.ends place || (m.ends place && n.nullable place)
  | alt m n => m.ends place || n.ends place
  | opt m => m.ends place
  | plus m => m.ends place

/-- Start a pattern at a place and read the character after it. -/
def enter (place : Place) (c : Char) : Pattern → Marking
  | .empty => idle .empty
  | .look l => idle (.look l)
  | .set s => if s.contains c.toNat then hit s else idle (.set s)
  | .seq p q =>
    joinSeq (enter place c p) (if p.nullable place then enter place c q else idle q)
  | .alt p q => joinAlt (enter place c p) (enter place c q)
  | .opt p => joinOpt (enter place c p)
  | .plus p => joinPlus (enter place c p)

/-- Read the character after a place.  Every mark moves on; `fresh` says
whether the pattern may also start at the place. -/
def advance (place : Place) (c : Char) : Bool → Marking → Marking
  | fresh, idle p => if fresh then enter place c p else idle p
  | fresh, hit s => if fresh && s.contains c.toNat then hit s else idle (.set s)
  | fresh, seq m n =>
    joinSeq (advance place c fresh m)
      (advance place c (m.ends place || (fresh && m.nullable place)) n)
  | fresh, alt m n => joinAlt (advance place c fresh m) (advance place c fresh n)
  | fresh, opt m => joinOpt (advance place c fresh m)
  | fresh, plus m => joinPlus (advance place c (fresh || m.ends place) m)

/-- Whether the pattern ends somewhere in the rest of a text, started before it
as the marks say or anywhere in it. -/
def search (m : Marking) (before : Option Char) : List Char → Bool
  | [] => m.ends ⟨before, none⟩ || m.nullable ⟨before, none⟩
  | c :: rest =>
    let place : Place := ⟨before, some c⟩
    m.ends place || m.nullable place || search (m.advance place c true) (some c) rest

end Marking

/-- Whether a pattern occurs somewhere in a text. -/
def Pattern.occursIn (p : Pattern) (text : List Char) : Bool :=
  (Marking.idle p).search none text

end Polyglot
