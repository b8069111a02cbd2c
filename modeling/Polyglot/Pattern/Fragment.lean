/-
# Fragments of a written pattern

A fragment is a pattern together with what is remembered about its text: how
deeply it nests and how large an automaton it stands for.  Both are bounded, and
a pattern past either bound is refused.
-/

import Polyglot.Pattern.Basic

namespace Polyglot

/-- A pattern with the bookkeeping of the text that wrote it. -/
structure Fragment where
  /-- The pattern written. -/
  pattern : Pattern
  /-- How deeply groups, repetitions, sequences, choices and brackets nest. -/
  height : Nat
  /-- The estimated size of the automaton, in bytes. -/
  cost : Nat
  /-- Whether the fragment covers no character at all. -/
  isZeroWidth : Bool
  /-- Whether a repetition may follow. -/
  isRepeatable : Bool

namespace Fragment

/-- The deepest nesting that is accepted. -/
def heightLimit : Nat := 250

/-- The largest automaton that is accepted, in bytes. -/
def costLimit : Nat := 10 * 1024 * 1024

/-- The size of one state of an automaton, in bytes. -/
def stateCost : Nat := 32

/-- The empty text. -/
def empty : Fragment := ⟨.empty, 0, stateCost, true, true⟩

/-- A change of flags: it covers nothing and cannot be repeated. -/
def directive : Fragment := ⟨.empty, 0, stateCost, true, false⟩

/-- An assertion. -/
def ofLook (l : Look) : Fragment := ⟨.look l, 0, stateCost, true, true⟩

/-- A character set, written with brackets nested `height` deep. -/
def ofSet (s : CharSet) (height : Nat) : Fragment := ⟨.set s, height, s.cost, false, true⟩

/-- A group. -/
def grouped (f : Fragment) : Fragment :=
  ⟨f.pattern, f.height + 1, f.cost + 2 * stateCost, f.isZeroWidth, true⟩

/-- The greatest height among fragments. -/
def maxHeight (fs : List Fragment) : Nat :=
  fs.foldl (fun height f => max height f.height) 0

/-- The costs of fragments together. -/
def totalCost (fs : List Fragment) : Nat :=
  fs.foldl (fun cost f => cost + f.cost) 0

/-- Fragments one after the other. -/
def sequence (fs : List Fragment) : Fragment :=
  match fs with
  | [] => empty
  | [f] => f
  | _ =>
    ⟨.sequence (fs.map pattern), maxHeight fs + 1, totalCost fs,
      fs.all isZeroWidth, true⟩

/-- A choice between fragments. -/
def choice (fs : List Fragment) : Fragment :=
  match fs with
  | [] => empty
  | [f] => f
  | _ =>
    ⟨.choice (fs.map pattern), maxHeight fs + 1, totalCost fs + stateCost * fs.length,
      fs.all isZeroWidth, true⟩

/-- A repeated fragment.  Repeating what covers no character is repeating it at
most once.  A repetition whose cost passes the limit is not written out, since
it is refused unless an outer repetition drops it. -/
def repeated (f : Fragment) (low : Nat) (high : Option Nat) : Fragment :=
  let low := if f.isZeroWidth then min low 1 else low
  let high := if f.isZeroWidth then some (min (high.getD 1) 1) else high
  if high == some 0 then
    ⟨.empty, f.height + 1, stateCost, true, true⟩
  else if low == 1 && high == some 1 then
    { f with height := f.height + 1, isRepeatable := true }
  else
    let copies :=
      match high with
      | none => max low 1
      | some high => high
    let cost := copies * f.cost + (copies - low + 1) * stateCost
    let pattern := if cost ≤ costLimit then f.pattern.repeated low high else .empty
    ⟨pattern, f.height + 1, cost, f.isZeroWidth, true⟩

/-- The pattern of a whole text, unless it passes a limit. -/
def accept? (f : Fragment) : Option Pattern :=
  if f.height ≤ heightLimit && f.cost ≤ costLimit then some f.pattern else none

end Fragment

end Polyglot
