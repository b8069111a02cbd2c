/-
# Patterns

A pattern is a regular expression over characters, with assertions about the
place between two characters.  Counted repetitions are written out, so that
there are only seven forms.

`Pattern.Spans` says which stretches of a text a pattern covers; the functions
that decide it are in other modules.
-/

import Polyglot.Pattern.CharSet

namespace Polyglot

/-- A place in a text: the characters on its two sides, where there are any. -/
structure Place where
  /-- The character before the place. -/
  before : Option Char
  /-- The character after the place. -/
  after : Option Char
  deriving DecidableEq, Repr

/-- Which edges of words an assertion asks for. -/
inductive WordEdge
  /-- One side is a word character and the other is not. -/
  | boundary
  /-- Both sides are word characters, or neither is. -/
  | inside
  /-- A word starts here. -/
  | start
  /-- A word ends here. -/
  | finish
  /-- No word character before. -/
  | startHalf
  /-- No word character after. -/
  | finishHalf
  deriving DecidableEq, Repr

/-- An assertion about a place. -/
inductive Look
  /-- The beginning of the text. -/
  | textStart
  /-- The end of the text. -/
  | textEnd
  /-- The beginning of a line; lines end in a line feed. -/
  | lineStart
  /-- The end of a line; lines end in a line feed. -/
  | lineEnd
  /-- The beginning of a line; a carriage return also ends a line, and together
  with a line feed after it makes one line break. -/
  | crlfStart
  /-- The end of a line, with the line breaks of `crlfStart`. -/
  | crlfEnd
  /-- An edge of words, whose characters are ASCII only or any. -/
  | word (edge : WordEdge) (asciiOnly : Bool)
  deriving DecidableEq, Repr

namespace WordEdge

/-- Whether an edge lies between two sides that are, or are not, word
characters. -/
def holds : WordEdge → Bool → Bool → Bool
  | boundary, before, after => before != after
  | inside, before, after => before == after
  | start, before, after => !before && after
  | finish, before, after => before && !after
  | startHalf, before, _ => !before
  | finishHalf, _, after => !after

end WordEdge

namespace Look

/-- Whether a side of a place is a word character. -/
def isWordSide (asciiOnly : Bool) (side : Option Char) : Bool :=
  match side with
  | none => false
  | some c => if asciiOnly then Unicode.isAsciiWord c.toNat else Unicode.isWord c.toNat

/-- Whether an assertion is true at a place. -/
def holds (look : Look) (place : Place) : Bool :=
  match look with
  | textStart => place.before.isNone
  | textEnd => place.after.isNone
  | lineStart => place.before.isNone || place.before == some '\n'
  | lineEnd => place.after.isNone || place.after == some '\n'
  | crlfStart =>
    place.before.isNone || place.before == some '\n' ||
      (place.before == some '\r' && place.after != some '\n')
  | crlfEnd =>
    place.after.isNone || place.after == some '\r' ||
      (place.after == some '\n' && place.before != some '\r')
  | word edge asciiOnly =>
    edge.holds (isWordSide asciiOnly place.before) (isWordSide asciiOnly place.after)

end Look

/-- A regular expression with assertions. -/
inductive Pattern
  /-- The empty text. -/
  | empty
  /-- The empty text, where an assertion holds. -/
  | look (l : Look)
  /-- One character of a set. -/
  | set (s : CharSet)
  /-- One pattern after the other. -/
  | seq (p q : Pattern)
  /-- Either pattern. -/
  | alt (p q : Pattern)
  /-- The pattern or the empty text. -/
  | opt (p : Pattern)
  /-- The pattern one or more times. -/
  | plus (p : Pattern)

namespace Pattern

/-- The place between two parts of a text, the first given backwards. -/
def placeBetween (before after : List Char) : Place :=
  ⟨before.head?, after.head?⟩

/-- `Spans p before middle after` says that `p` covers `middle` in a text that
has `before` in front of it, given backwards, and `after` behind it. -/
inductive Spans : Pattern → List Char → List Char → List Char → Prop
  | empty {before after : List Char} : Spans .empty before [] after
  | look {l : Look} {before after : List Char} :
      l.holds (placeBetween before after) = true → Spans (.look l) before [] after
  | set {s : CharSet} {c : Char} {before after : List Char} :
      s.contains c.toNat = true → Spans (.set s) before [c] after
  | seq {p q : Pattern} {before first second after : List Char} :
      Spans p before first (second ++ after) →
      Spans q (first.reverse ++ before) second after →
      Spans (.seq p q) before (first ++ second) after
  | altLeft {p q : Pattern} {before middle after : List Char} :
      Spans p before middle after → Spans (.alt p q) before middle after
  | altRight {p q : Pattern} {before middle after : List Char} :
      Spans q before middle after → Spans (.alt p q) before middle after
  | optNone {p : Pattern} {before after : List Char} : Spans (.opt p) before [] after
  | optSome {p : Pattern} {before middle after : List Char} :
      Spans p before middle after → Spans (.opt p) before middle after
  | plusOnce {p : Pattern} {before middle after : List Char} :
      Spans p before middle after → Spans (.plus p) before middle after
  | plusMore {p : Pattern} {before first second after : List Char} :
      Spans p before first (second ++ after) →
      Spans (.plus p) (first.reverse ++ before) second after →
      Spans (.plus p) before (first ++ second) after

/-- A pattern occurs in a text when it covers some stretch of it. -/
def Occurs (p : Pattern) (text : List Char) : Prop :=
  ∃ before middle after, text = before.reverse ++ (middle ++ after) ∧
    Spans p before middle after

/-- Zero or more times. -/
def star (p : Pattern) : Pattern := .opt (.plus p)

/-- At least `low` times, and at most `high` times where that is given. -/
def repeated (p : Pattern) (low : Nat) (high : Option Nat) : Pattern :=
  match low, high with
  | 0, none => star p
  | 0, some 1 => .opt p
  | low + 1, none => Nat.repeat (.seq p) low (.plus p)
  | low, some high =>
    Nat.repeat (.seq p) low (Nat.repeat (fun rest => .opt (.seq p rest)) (high - low) .empty)

/-- One pattern after the other, for a list. -/
def sequence : List Pattern → Pattern
  | [] => .empty
  | [p] => p
  | p :: rest => .seq p (sequence rest)

/-- Any one of a list of patterns; of none, the empty text. -/
def choice : List Pattern → Pattern
  | [] => .empty
  | [p] => p
  | p :: rest => .alt p (choice rest)

end Pattern

end Polyglot
