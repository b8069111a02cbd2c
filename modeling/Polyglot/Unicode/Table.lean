/-
# Tables over code points

The character data of this library is kept as text: rows separated by white
space, code points in hexadecimal.  This module reads such a text and looks
code points up in what it holds.

Two forms occur.  A set is a list of ranges, `41-5a` or a lone `aa`, in
ascending order.  A partition is a list of runs, `41:Lu`: every code point from
the one given up to the next run has the value named.
-/

namespace Polyglot

namespace Unicode

/-- The parts of a list between the elements that satisfy a test. -/
def cutAt {α : Type} (isCut : α → Bool) (items : List α) : List (List α) :=
  let step (item : α) (parts : List (List α)) : List (List α) :=
    match isCut item, parts with
    | true, _ => [] :: parts
    | false, [] => [[item]]
    | false, part :: rest => (item :: part) :: rest
  items.foldr step [[]]

/-- The rows of a table text, each cut into its fields. -/
def rows (separator : Char) (text : String) : List (List (List Char)) :=
  let words := (cutAt (fun c => c == ' ' || c == '\n') text.toList).filter
    fun word => !word.isEmpty
  words.map (cutAt (· == separator))

/-- The value of a hexadecimal digit. -/
def hexDigit? (c : Char) : Option Nat :=
  if '0' ≤ c ∧ c ≤ '9' then some (c.toNat - '0'.toNat)
  else if 'a' ≤ c ∧ c ≤ 'f' then some (c.toNat - 'a'.toNat + 10)
  else if 'A' ≤ c ∧ c ≤ 'F' then some (c.toNat - 'A'.toNat + 10)
  else none

/-- The number that hexadecimal digits write; other characters count as zero. -/
def hexNumber (digits : List Char) : Nat :=
  digits.foldl (fun n c => 16 * n + (hexDigit? c).getD 0) 0

/-- Binary search between two positions of an ascending table: the least
position whose entry exceeds `n`.  The first argument bounds the steps. -/
def searchAbove (table : Array Nat) (n : Nat) : Nat → Nat → Nat → Nat
  | 0, low, _ => low
  | steps + 1, low, high =>
    if low < high then
      let middle := (low + high) / 2
      if table.getD middle 0 ≤ n then searchAbove table n steps (middle + 1) high
      else searchAbove table n steps low middle
    else low

/-- How many entries of an ascending table are at most `n`. -/
def rank (table : Array Nat) (n : Nat) : Nat :=
  searchAbove table n (table.size + 1) 0 table.size

/-- A set of code points, given by the ascending positions at which membership
changes. -/
structure CodePointSet where
  /-- Each range contributes its first member and the first non-member after it. -/
  boundaries : Array Nat

namespace CodePointSet

/-- Read the text of a set. -/
def ofText (text : String) : CodePointSet :=
  let ends (fields : List (List Char)) : List Nat :=
    match fields with
    | [low] => [hexNumber low, hexNumber low + 1]
    | low :: high :: _ => [hexNumber low, hexNumber high + 1]
    | [] => []
  ⟨((rows '-' text).flatMap ends).toArray⟩

/-- A code point is a member after an odd number of boundaries. -/
def contains (set : CodePointSet) (n : Nat) : Bool :=
  rank set.boundaries n % 2 == 1

end CodePointSet

/-- A partition of the code points into runs that share a value. -/
structure Runs (α : Type) where
  /-- The first code point of each run, ascending. -/
  starts : Array Nat
  /-- The value of each run. -/
  values : Array α

namespace Runs

variable {α : Type}

/-- Read the text of a partition, given the meaning of its labels. -/
def ofText (meaning : String → α) (text : String) : Runs α :=
  let entry? (fields : List (List Char)) : Option (Nat × α) :=
    match fields with
    | [start, label] => some (hexNumber start, meaning (String.ofList label))
    | _ => none
  let entries := (rows ':' text).filterMap entry?
  ⟨(entries.map (·.1)).toArray, (entries.map (·.2)).toArray⟩

/-- The value of the run that holds a code point. -/
def get? (runs : Runs α) (n : Nat) : Option α :=
  match rank runs.starts n with
  | 0 => none
  | position + 1 => runs.values[position]?

end Runs

end Unicode

end Polyglot
