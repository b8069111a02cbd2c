/-
# Reading a written pattern

The text of a pattern is a choice of sequences of repeated atoms.  Flags set
inside a group hold to its end, through all later alternatives.

`Pattern.ofText?` is the reader; it answers nothing for a text that is no
pattern, or that nests too deeply or stands for too large an automaton.
-/

import Polyglot.Pattern.Bracket
import Polyglot.Pattern.Fragment

namespace Polyglot

namespace Pattern

/-- What a reader carries along. -/
structure Reader where
  /-- The text not read yet. -/
  rest : List Char
  /-- The flags in force. -/
  flags : Flags
  /-- The names of groups so far. -/
  names : List (List Char)

/-- Set one flag. The flag for greed changes nothing that a pattern covers. -/
def Flags.set (flags : Flags) (letter : Char) (value : Bool) : Flags :=
  match letter with
  | 'i' => { flags with ignoreCase := value }
  | 'm' => { flags with multiLine := value }
  | 's' => { flags with dotAll := value }
  | 'R' => { flags with crlf := value }
  | 'u' => { flags with unicode := value }
  | 'x' => { flags with extended := value }
  | _ => flags

/-- The letters of flags. -/
def isFlagLetter (c : Char) : Bool := ['i', 'm', 's', 'U', 'u', 'R', 'x'].contains c

/-- Flags as they are written, up to a colon or a closing parenthesis. -/
structure FlagList where
  /-- The letters so far, backwards. -/
  letters : List Char
  /-- The flags after them. -/
  flags : Flags
  /-- Whether a hyphen has been read. -/
  negated : Bool
  /-- Whether the last character was that hyphen. -/
  dangling : Bool

/-- Read flags.  No letter may stand twice, and the one hyphen, which turns off
what follows it, needs something to follow. -/
def flagList? (state : FlagList) : List Char → Option (FlagList × Char × List Char)
  | [] => none
  | c :: rest =>
    if c == ':' || c == ')' then
      if state.dangling then none else some (state, c, rest)
    else if c == '-' then
      if state.negated then none
      else flagList? { state with negated := true, dangling := true } rest
    else if isFlagLetter c && !state.letters.contains c then
      flagList?
        { state with
          letters := c :: state.letters
          flags := state.flags.set c (!state.negated)
          dangling := false }
        rest
    else
      none

/-- The characters of a group name; the first is no digit, dot or bracket. -/
def isNameChar (first : Bool) (c : Char) : Bool :=
  if first then c == '_' || Unicode.isAlphabetic c.toNat
  else
    c == '_' || c == '.' || c == '[' || c == ']' ||
      Unicode.isAlphabetic c.toNat || Unicode.isNumeric c.toNat

/-- Read the name of a group up to its closing angle bracket. -/
def groupName? (reader : Reader) : Option Reader :=
  match reader.rest.span (· != '>') with
  | (first :: more, '>' :: rest) =>
    if isNameChar true first && more.all (isNameChar false) &&
        !reader.names.contains (first :: more) then
      some { reader with rest := rest, names := (first :: more) :: reader.names }
    else
      none
  | _ => none

/-- What an opening parenthesis begins. -/
inductive Opening
  /-- Flags for the rest of the group around. -/
  | directive (reader : Reader)
  /-- A group. -/
  | group (reader : Reader)

/-- Read what follows an opening parenthesis.  There are no assertions about
the text around. -/
def opening? (reader : Reader) : Option Opening :=
  match skipBlanks reader.flags reader.rest with
  | '?' :: '=' :: _ => none
  | '?' :: '!' :: _ => none
  | '?' :: '<' :: '=' :: _ => none
  | '?' :: '<' :: '!' :: _ => none
  | '?' :: 'P' :: '<' :: rest => (groupName? { reader with rest := rest }).map .group
  | '?' :: '<' :: rest => (groupName? { reader with rest := rest }).map .group
  | '?' :: rest =>
    match flagList? ⟨[], reader.flags, false, false⟩ rest with
    | some (state, ')', rest) =>
      if state.letters.isEmpty then none
      else some (.directive { reader with rest := rest, flags := state.flags })
    | some (state, _, rest) =>
      some (.group { reader with rest := rest, flags := state.flags })
    | none => none
  | rest => some (.group { reader with rest := rest })

/-- Read the digits of a count, with the blanks around them. -/
def digits : Flags → Nat → List Char → List Char → List Char × List Char
  | _, 0, read, text => (read.reverse, text)
  | flags, steps + 1, read, text =>
    match text with
    | c :: rest =>
      if Unicode.isAsciiDigit c.toNat then digits flags steps (c :: read) (skipBlanks flags rest)
      else (read.reverse, text)
    | [] => (read.reverse, [])

/-- The greatest count. -/
def countLimit : Nat := 4294967295

/-- Read a count, if there are digits; it must not pass the limit. -/
def count? (flags : Flags) (text : List Char) : Option (Nat × List Char) :=
  let (read, rest) := digits flags text.length [] (text.dropWhile isBlank)
  let n := read.foldl (fun n c => 10 * n + (c.toNat - '0'.toNat)) 0
  if read.isEmpty || countLimit < n then none
  else some (n, skipBlanks flags (rest.dropWhile isBlank))

/-- Read the counts of a repetition, after the opening brace. -/
def counts? (flags : Flags) (text : List Char) : Option (Nat × Option Nat × List Char) := do
  let (low, rest) ← count? flags (skipBlanks flags text)
  match rest with
  | '\x7d' :: rest => some (low, some low, rest)
  | ',' :: rest =>
    match skipBlanks flags rest with
    | '\x7d' :: rest => some (low, none, rest)
    | rest =>
      let (high, rest) ← count? flags rest
      match rest with
      | '\x7d' :: rest => if low ≤ high then some (low, some high, rest) else none
      | _ => none
  | _ => none

/-- A question mark behind a repetition asks for few repetitions, which changes
nothing that a pattern covers. -/
def dropLazy (text : List Char) : List Char :=
  match text with
  | '?' :: rest => rest
  | _ => text

/-- A character that stands for itself. -/
def literal (flags : Flags) (c : Char) : Fragment :=
  let set :=
    if !flags.ignoreCase then CharSet.single c
    else if flags.unicode then
      if (Unicode.Folding.variants c.toNat).isEmpty then .single c
      else .caseClosure (.single c)
    else .asciiCaseClosure (.single c)
  .ofSet set 0

/-- The dot.  It needs the `u` flag, since it matches any character. -/
def dot? (flags : Flags) : Option Fragment :=
  if !flags.unicode then none
  else if flags.dotAll then some (.ofSet .all 0)
  else if flags.crlf then
    some (.ofSet (.compl (.union (.single '\n') (.single '\r'))) 0)
  else some (.ofSet (.compl (.single '\n')) 0)

/-- The caret. -/
def caret (flags : Flags) : Look :=
  if !flags.multiLine then .textStart else if flags.crlf then .crlfStart else .lineStart

/-- The dollar. -/
def dollar (flags : Flags) : Look :=
  if !flags.multiLine then .textEnd else if flags.crlf then .crlfEnd else .lineEnd

/-- Read one atom that is neither a group nor an operator. -/
def atom? (flags : Flags) (text : List Char) : Option (Fragment × List Char) := do
  match text with
  | [] => none
  | '[' :: rest =>
    let (part, rest) ← class? flags rest
    some (.ofSet part.set part.height, rest)
  | '.' :: rest =>
    let f ← dot? flags
    some (f, rest)
  | '^' :: rest => some (.ofLook (caret flags), rest)
  | '$' :: rest => some (.ofLook (dollar flags), rest)
  | '\\' :: rest =>
    let (e, rest) ← escape? flags rest
    match e with
    | .literal c => some (literal flags c, rest)
    | .set s => some (.ofSet s 0, rest)
    | .look l => some (.ofLook l, rest)
  | c :: rest => some (literal flags c, rest)

/-- Repeat the fragment read last. -/
def repeatLast? (items : List Fragment) (low : Nat) (high : Option Nat) :
    Option (List Fragment) :=
  match items with
  | [] => none
  | f :: before => if f.isRepeatable then some (f.repeated low high :: before) else none

/-- Close the sequence read last and the choice it belongs to.  Both lists are
backwards. -/
def closeChoice (branches : List Fragment) (items : List Fragment) : Fragment :=
  .choice ((Fragment.sequence items.reverse :: branches).reverse)

/-- Read a choice up to the end of the text or an unmatched closing
parenthesis.  `branches` are the alternatives before the current one and `items`
the fragments of that one, both backwards.  The first argument bounds the
steps. -/
def choice? : Nat → Reader → List Fragment → List Fragment → Option (Fragment × Reader)
  | 0, _, _, _ => none
  | steps + 1, reader, branches, items =>
    let text := skipBlanks reader.flags reader.rest
    let reader := { reader with rest := text }
    let goOn (rest : List Char) (items : List Fragment) : Option (Fragment × Reader) :=
      choice? steps { reader with rest := rest } branches items
    let again (rest : List Char) (low : Nat) (high : Option Nat) :
        Option (Fragment × Reader) :=
      match repeatLast? items low high with
      | some items => goOn (dropLazy rest) items
      | none => none
    match text with
    | [] => some (closeChoice branches items, reader)
    | ')' :: _ => some (closeChoice branches items, reader)
    | '|' :: rest =>
      choice? steps { reader with rest := rest }
        (Fragment.sequence items.reverse :: branches) []
    | '(' :: rest =>
      match opening? { reader with rest := rest } with
      | none => none
      | some (.directive inner) => choice? steps inner branches (.directive :: items)
      | some (.group inner) =>
        match choice? steps inner [] [] with
        | some (f, after) =>
          match after.rest with
          | ')' :: rest =>
            choice? steps { after with rest := rest, flags := reader.flags } branches
              (f.grouped :: items)
          | _ => none
        | none => none
    | '?' :: rest => again rest 0 (some 1)
    | '*' :: rest => again rest 0 none
    | '+' :: rest => again rest 1 none
    | '\x7b' :: rest =>
      match counts? reader.flags rest with
      | some (low, high, rest) => again (skipBlanks reader.flags rest) low high
      | none => none
    | text =>
      match atom? reader.flags text with
      | some (f, rest) => goOn rest (f :: items)
      | none => none

/-- Read a pattern. -/
def ofText? (text : List Char) : Option Pattern :=
  match choice? (text.length + 1) ⟨text, {}, []⟩ [] [] with
  | some (f, reader) => if reader.rest.isEmpty then f.accept? else none
  | none => none

end Pattern

end Polyglot
