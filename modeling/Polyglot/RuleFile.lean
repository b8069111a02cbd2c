/-
# Rule files

A rule file is a TOML document whose key `rules` lists entries.  An entry names
a language, gives a pattern under one of two keys, and points; an entry without
a pattern is skipped.  The rules are grouped by language, in the order in which
the languages first appear.

One entry of the wrong shape makes the whole file unreadable, even if it would
be skipped.
-/

import Polyglot.Rule
import Polyglot.Toml.Parser

namespace Polyglot

/-- An entry of a rule file. -/
structure RuleEntry where
  /-- The name of the language. -/
  language : String
  /-- The pattern, under its usual key. -/
  pattern : Option String
  /-- The pattern, under its other key. -/
  regex : Option String
  /-- The points. -/
  points : Int32
  /-- Whether the rule counts near the top only. -/
  nearTop : Bool
  deriving DecidableEq, Repr

namespace RuleEntry

/-- A text. -/
def text? : Toml → Option String
  | .string text => some text
  | _ => none

/-- A truth value. -/
def bool? : Toml → Option Bool
  | .boolean b => some b
  | _ => none

/-- Points: an integer of 32 bits. -/
def points? : Toml → Option Int32
  | .integer n => if -0x80000000 ≤ n ∧ n < 0x80000000 then some (Int32.ofInt n) else none
  | _ => none

/-- A value that may be missing, but has to be of its kind if it is there. -/
def optional? {α : Type} (read : Toml → Option α) : Option Toml → Option (Option α)
  | none => some none
  | some v => (read v).map some

/-- The entry that a table gives.  Other keys are ignored. -/
def ofTable? (entries : List (String × Toml)) : Option RuleEntry := do
  let language ← (Toml.find? entries "language").bind text?
  let pattern ← optional? text? (Toml.find? entries "pattern")
  let regex ← optional? text? (Toml.find? entries "regex")
  let points ← (Toml.find? entries "points").bind points?
  let nearTop ← optional? bool? (Toml.find? entries "near_top")
  some ⟨language, pattern, regex, points, nearTop.getD false⟩

/-- The entry that a value gives: a table, or an array of the same values in
order, of which the last may be missing. -/
def ofToml? : Toml → Option RuleEntry
  | .table entries => ofTable? entries
  | .array (language :: pattern :: regex :: points :: rest) => do
    let language ← text? language
    let pattern ← text? pattern
    let regex ← text? regex
    let points ← points? points
    let nearTop ← optional? bool? rest.head?
    some ⟨language, some pattern, some regex, points, nearTop.getD false⟩
  | _ => none

/-- The rule of an entry, unless it has no pattern.  The usual key goes before
the other one. -/
def rule? (entry : RuleEntry) : Option RuleSpec :=
  (entry.pattern.or entry.regex).map fun pattern => ⟨pattern, entry.points, entry.nearTop⟩

end RuleEntry

namespace RuleFile

/-- The entries of a document. -/
def entriesOf? (document : List (String × Toml)) : Option (List RuleEntry) :=
  match Toml.find? document "rules" with
  | none => some []
  | some (.array items) => items.mapM RuleEntry.ofToml?
  | some _ => none

/-- The entries of a rule file. -/
def entries? (text : List Char) : Option (List RuleEntry) :=
  (Toml.ofText? text).bind entriesOf?

/-- Add a rule to the group of its language, which is new at the end if there is
none yet. -/
def insertRule (language : String) (rule : RuleSpec) : List LanguageRules → List LanguageRules
  | [] => [⟨language, [rule]⟩]
  | group :: rest =>
    if group.language = language then { group with rules := group.rules ++ [rule] } :: rest
    else group :: insertRule language rule rest

/-- Add the rule of an entry, if it has one. -/
def insertEntry (groups : List LanguageRules) (entry : RuleEntry) : List LanguageRules :=
  match entry.rule? with
  | some rule => insertRule entry.language rule groups
  | none => groups

/-- The rules of entries, grouped by language. -/
def group (entries : List RuleEntry) : List LanguageRules :=
  entries.foldl insertEntry []

/-- The grouped rules of a rule file. -/
def ofText? (text : List Char) : Option (List LanguageRules) :=
  (entries? text).map group

end RuleFile

end Polyglot
