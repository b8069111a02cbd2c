/-
# Character sets

The sets of characters that a pattern can name, as expressions over a few
primitive sets.  A set is never expanded: membership is decided from the
expression, so that the complement or the case closure of a large class needs no
table of its own.  How large a set is, is estimated by the ranges that it holds.
-/

import Polyglot.Unicode.Age
import Polyglot.Unicode.Folding
import Polyglot.Unicode.Script
import Polyglot.Unicode.Segmentation
import Polyglot.Unicode.Word

namespace Polyglot

open Unicode

/-- A set of code points. -/
inductive CharSet
  /-- No code point. -/
  | empty
  /-- The code points from the first to the second, both included. -/
  | range (low high : Nat)
  /-- White space. -/
  | space
  /-- Decimal digits. -/
  | digit
  /-- Word characters. -/
  | word
  /-- The code points of some general categories. -/
  | categories (members : List Category)
  /-- The code points with a binary property. -/
  | property (p : Property)
  /-- The code points of a script. -/
  | script (code : String)
  /-- The code points used with a script. -/
  | scriptExtensions (code : String)
  /-- The code points assigned in a version, given by its place. -/
  | assignedIn (version : Nat)
  /-- The code points of a class of text segmentation. -/
  | segment (members : NearCategories)
  /-- The code points outside a set. -/
  | compl (s : CharSet)
  /-- The code points of either set. -/
  | union (s t : CharSet)
  /-- The code points of both sets. -/
  | inter (s t : CharSet)
  /-- The code points of the first set that are not in the second. -/
  | diff (s t : CharSet)
  /-- The code points of exactly one of the sets. -/
  | symmDiff (s t : CharSet)
  /-- The code points that differ at most in case from a member. -/
  | caseClosure (s : CharSet)
  /-- The same for the ASCII letters alone. -/
  | asciiCaseClosure (s : CharSet)

namespace CharSet

/-- Whether a code point belongs to a set. -/
def contains : CharSet → Nat → Bool
  | empty, _ => false
  | range low high, n => low ≤ n && n ≤ high
  | space, n => isSpace n
  | digit, n => isDigit n
  | word, n => isWord n
  | categories members, n => members.contains (Category.of n)
  | property p, n => p.members.contains n
  | script code, n => Script.of n == code
  | scriptExtensions code, n => (Script.extensionsOf n).contains code
  | assignedIn version, n => Age.isAssignedIn version n
  | segment members, n => members.contains n
  | compl s, n => !s.contains n
  | union s t, n => s.contains n || t.contains n
  | inter s t, n => s.contains n && t.contains n
  | diff s t, n => s.contains n && !t.contains n
  | symmDiff s t, n => s.contains n != t.contains n
  | caseClosure s, n => s.contains n || (Folding.variants n).any s.contains
  | asciiCaseClosure s, n => s.contains n || (isAsciiLetter n && s.contains (n ^^^ 0x20))

/-- The set of one character. -/
def single (c : Char) : CharSet := .range c.toNat c.toNat

/-- The union of a list of sets. -/
def unions : List CharSet → CharSet
  | [] => .empty
  | [s] => s
  | s :: rest => .union s (unions rest)

/-- The ASCII characters. -/
def ascii : CharSet := .range 0 0x7f

/-- Every code point. -/
def all : CharSet := .range 0 0x10ffff

/-- Names of sets are compared in lower case, without spaces, hyphens and
underscores, without characters outside ASCII, and without a leading `is`.  The
name `isc` keeps its beginning, since it would otherwise mean a category. -/
def plainName (name : List Char) : String :=
  let hasIs :=
    match name with
    | first :: second :: _ => (first == 'i' || first == 'I') && (second == 's' || second == 'S')
    | _ => false
  let body := if hasIs then name.drop 2 else name
  let plain := (body.filter fun c =>
    isAscii c.toNat && !(c == ' ' || c == '_' || c == '-')).map Char.toLower
  if hasIs && plain == ['c'] then "isc" else String.ofList plain

/-- The set of a general category, or of one of the three names that stand
beside the categories. -/
def ofCategoryName? (name : String) : Option CharSet :=
  match name with
  | "any" => some all
  | "assigned" => some (.compl (.categories [.cn]))
  | "ascii" => some ascii
  | _ => (Category.ofName? name).map .categories

/-- The set that a lone name stands for: a binary property, a category, or a
script. The names of three other properties are those of categories. -/
def ofName? (name : List Char) : Option CharSet :=
  let plain := plainName name
  let property? : Option CharSet :=
    if plain == "cf" || plain == "sc" || plain == "lc" then none
    else (Property.ofName? plain).map .property
  match property? with
  | some set => some set
  | none =>
    match ofCategoryName? plain with
    | some set => some set
    | none => (Script.ofName? plain).map .script

/-- The set of code points whose property has a value, both given by name. -/
def ofNameAndValue? (name value : List Char) : Option CharSet :=
  let plain := plainName value
  match plainName name with
  | "generalcategory" | "gc" => ofCategoryName? plain
  | "script" | "sc" => (Script.ofName? plain).map .script
  | "scriptextensions" | "scx" => (Script.ofName? plain).map .scriptExtensions
  | "age" => (Age.ofName? plain).map .assignedIn
  | "graphemeclusterbreak" | "gcb" =>
    (Segmentation.find? Segmentation.graphemeClasses plain).map .segment
  | "wordbreak" | "wb" => (Segmentation.find? Segmentation.wordClasses plain).map .segment
  | "sentencebreak" | "sb" =>
    (Segmentation.find? Segmentation.sentenceClasses plain).map .segment
  | _ => none

/-- The code points, in no order, at which membership in a set may change: between two of them
that follow each other it is constant. -/
def changes : CharSet → List Nat
  | empty => []
  | range low high => [low, high + 1]
  | space => (Property.members .whiteSpace).changes
  | digit => Category.runs.starts.toList
  | word => (Property.members .alphabetic).changes ++ (Property.members .joinControl).changes
  | categories _ => Category.runs.starts.toList
  | property p => p.members.changes
  | script _ => Script.runs.starts.toList
  | scriptExtensions _ => Script.runs.starts.toList ++ Script.extensionRuns.starts.toList
  | assignedIn _ => Age.runs.starts.toList
  | segment members => members.changes
  | compl s => s.changes
  | union s t => s.changes ++ t.changes
  | inter s t => s.changes ++ t.changes
  | diff s t => s.changes ++ t.changes
  | symmDiff s t => s.changes ++ t.changes
  | caseClosure s => s.changes ++ Folding.members.toList.flatMap fun n => [n, n + 1]
  | asciiCaseClosure s => s.changes ++ List.range' 0x41 27 ++ List.range' 0x61 27

/-- How many ranges begin at ascending code points, given whether what stands before them is a
member. -/
def countRanges (isMember : Nat → Bool) : Bool → List Nat → Nat
  | _, [] => 0
  | wasMember, n :: rest =>
    if isMember n && !wasMember then countRanges isMember true rest + 1
    else countRanges isMember (isMember n) rest

/-- How many ranges of consecutive code points a set consists of. -/
def rangeCount (s : CharSet) : Nat :=
  countRanges s.contains false (s.changes.mergeSort fun first second => decide (first ≤ second))

/-- An estimate, in bytes, of the automaton that reads one of so many ranges. -/
def rangesCost (count : Nat) : Nat := 64 + 80 * count

/-- An estimate, in bytes, of the automaton that reads one member of a set.  Sets from the tables,
and what remains when a set is cut by another, are charged by the ranges they consist of.  The
classes named by one letter have the number of their ranges here, so that a pattern made of them
is weighed without reading the tables. -/
def cost : CharSet → Nat
  | empty => 32
  | range low high =>
    if high < 0x80 then 32
    else if high < 0x800 then 96
    else if low == high then 128
    else if high < 0x10000 then 512
    else 1024
  | space => rangesCost 10
  | digit => rangesCost 72
  | word => rangesCost 802
  | compl s => s.cost + 1024
  | union s t => s.cost + t.cost
  | caseClosure s => 2 * s.cost
  | asciiCaseClosure s => s.cost
  | s => rangesCost s.rangeCount

end CharSet

end Polyglot
