/-
# Lines of a snippet

A snippet is read line by line.  This module cuts a text into its lines, says
which lines count as the top of a snippet, and thins out long snippets.

A line ends at a carriage return or a line feed, and a run of such characters
is one break whatever its spelling, so blank lines between two lines vanish.
-/

namespace Polyglot

namespace Lines

/-- A line is the list of its characters. -/
abbrev Line := List Char

/-- Carriage return and line feed break lines. -/
def isBreak (c : Char) : Bool := c == '\r' || c == '\n'

/-- Put a character in front of the first line. -/
def pushFront (c : Char) : List Line → List Line
  | [] => [[c]]
  | line :: rest => (c :: line) :: rest

/-- One character seen from the right: a break opens a new line unless the
character after it is a break too.  The flag says whether it is. -/
def prepend (c : Char) (state : List Line × Bool) : List Line × Bool :=
  if isBreak c then
    (if state.2 then state.1 else [] :: state.1, true)
  else
    (pushFront c state.1, false)

/-- The lines of a text.  A run of line breaks is one separator; a text that
begins or ends with one has an empty first or last line. -/
def normalize (text : List Char) : List Line :=
  (text.foldr prepend ([[]], false)).1

/-- In a snippet of at most this many lines every line is near the top. -/
def smallSnippet : Nat := 10

/-- Whether a position lies in the first tenth of a snippet; in a small
snippet every position does. -/
def isNearTop (index total : Nat) : Bool :=
  total ≤ smallSnippet || index * 10 < total

/-- Ten times a word, held at the greatest word where it would not fit. -/
def tenfoldSaturating (n : UInt64) : UInt64 :=
  if n.toNat * 10 < UInt64.size then n * 10 else UInt64.ofNat (UInt64.size - 1)

/-- `isNearTop` in the arithmetic of 64-bit words. -/
def isNearTopWord (index total : UInt64) : Bool :=
  total.toNat ≤ smallSnippet || tenfoldSaturating index < total

/-- Snippets of more lines than this are thinned out. -/
def subsampleThreshold : Nat := 500

/-- The distance between the lines that thinning keeps: the total over the
threshold, rounded up. -/
def stride (total : Nat) : Nat :=
  (total + (subsampleThreshold - 1)) / subsampleThreshold

/-- Whether thinning a snippet of `total` lines keeps the line at `index`. -/
def isKept (total index : Nat) : Bool :=
  isNearTop index total || index % stride total == 0

/-- Thin out a long list of lines: the lines near the top stay, and of the
others those at multiples of the stride.  Without the heuristic, and for short
lists, every line stays. -/
def subsample {α : Type} (lines : List α) (heuristic : Bool) : List α :=
  let total := lines.length
  if heuristic && subsampleThreshold < total then
    (lines.zipIdx.filter fun entry => isKept total entry.2).map (·.1)
  else
    lines

end Lines

end Polyglot
