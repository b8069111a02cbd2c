/-
# Flags, spacing and escapes in a written pattern

The small pieces of pattern syntax that are the same inside and outside
brackets: the flags in force, the blanks that the `x` flag lets a pattern
contain, and what follows a backslash.

Readers take the rest of the text and answer what they read with what is left,
or nothing if the text is no pattern.
-/

import Polyglot.Pattern.Basic

namespace Polyglot

namespace Pattern

/-- The flags that change how a pattern reads. -/
structure Flags where
  /-- `i`: letters match either case. -/
  ignoreCase : Bool := false
  /-- `m`: `^` and `$` also match at line breaks. -/
  multiLine : Bool := false
  /-- `s`: `.` also matches a line feed. -/
  dotAll : Bool := false
  /-- `R`: a carriage return is part of a line break. -/
  crlf : Bool := false
  /-- `u`: classes are those of all characters, not of ASCII only. -/
  unicode : Bool := true
  /-- `x`: blanks and comments in the pattern are skipped. -/
  extended : Bool := false
  deriving DecidableEq, Repr

/-- White space in a pattern. -/
def isBlank (c : Char) : Bool := Unicode.isSpace c.toNat

/-- Drop blanks and comments.  The flag says whether a comment is open; one
ends at a line feed. -/
def dropBlanks : Bool → List Char → List Char
  | _, [] => []
  | true, c :: rest => dropBlanks (c != '\n') rest
  | false, c :: rest =>
    if isBlank c then dropBlanks false rest
    else if c == '#' then dropBlanks true rest
    else c :: rest

/-- Drop what the `x` flag lets a pattern contain. -/
def skipBlanks (flags : Flags) (text : List Char) : List Char :=
  if flags.extended then dropBlanks false text else text

/-- Whether a backslash makes a character stand for itself: it is ASCII, and
neither a letter nor a digit nor an angle bracket. -/
def isEscapable (c : Char) : Bool :=
  Unicode.isAscii c.toNat && !Unicode.isAsciiLetter c.toNat &&
    !Unicode.isAsciiDigit c.toNat && c != '<' && c != '>'

/-- What an escape stands for. -/
inductive Escape
  /-- A character. -/
  | literal (c : Char)
  /-- A set of characters. -/
  | set (s : CharSet)
  /-- An assertion. -/
  | look (l : Look)

/-- The character with a given number, where there is one. -/
def charOfNat? (n : Nat) : Option Char :=
  if n.isValidChar then some (Char.ofNat n) else none

/-- A set under the flags: closed under case if case is ignored, then
complemented if it is negated.  Without the `u` flag no set may hold characters
outside ASCII, so it cannot be negated. -/
def closeSet? (flags : Flags) (negated : Bool) (s : CharSet) : Option CharSet :=
  let closed :=
    if !flags.ignoreCase then s
    else if flags.unicode then .caseClosure s
    else .asciiCaseClosure s
  if !negated then some closed
  else if flags.unicode then some (.compl closed)
  else none

/-- The classes of one letter. They do not depend on case. -/
def letterClass? (flags : Flags) (letter : Char) : Option CharSet :=
  let negate (s : CharSet) : Option CharSet :=
    if flags.unicode then some (.compl s) else none
  let restrict (s : CharSet) : CharSet :=
    if flags.unicode then s else .inter .ascii s
  match letter with
  | 'd' => some (restrict .digit)
  | 's' => some (restrict .space)
  | 'w' => some (restrict .word)
  | 'D' => negate .digit
  | 'S' => negate .space
  | 'W' => negate .word
  | _ => none

/-- Read digits up to a closing brace; the text begins after the opening one. -/
def hexInBraces : Flags → Nat → List Char → List Char → Option (List Char × List Char)
  | _, 0, _, _ => none
  | flags, steps + 1, digits, text =>
    match skipBlanks flags text with
    | [] => none
    | '\x7d' :: rest => some (digits.reverse, rest)
    | c :: rest =>
      if (Unicode.hexDigit? c).isSome then hexInBraces flags steps (c :: digits) rest
      else none

/-- Read a fixed number of hexadecimal digits. -/
def hexDigits (flags : Flags) : Nat → List Char → List Char → Option (List Char × List Char)
  | 0, digits, text => some (digits.reverse, text)
  | count + 1, digits, text =>
    match skipBlanks flags text with
    | [] => none
    | c :: rest =>
      if (Unicode.hexDigit? c).isSome then hexDigits flags count (c :: digits) rest
      else none

/-- A character given by its number in hexadecimal: in braces, or with as many
digits as the letter asks for.  Two digits give a byte, which without the `u`
flag has to be ASCII. -/
def hexEscape? (flags : Flags) (letter : Char) (text : List Char) :
    Option (Char × List Char) := do
  match skipBlanks flags text with
  | '\x7b' :: rest =>
    let (digits, rest) ← hexInBraces flags (rest.length + 1) [] rest
    if digits.isEmpty then none
    let c ← charOfNat? (Unicode.hexNumber digits)
    some (c, rest)
  | rest =>
    let count := if letter == 'x' then 2 else if letter == 'u' then 4 else 8
    let (digits, rest) ← hexDigits flags count [] rest
    let c ← charOfNat? (Unicode.hexNumber digits)
    if letter == 'x' && !flags.unicode && !Unicode.isAscii c.toNat then none
    some (c, rest)

/-- Read a name up to a closing brace; the text begins after the opening one. -/
def nameInBraces : Flags → Nat → List Char → List Char → Option (List Char × List Char)
  | _, 0, _, _ => none
  | flags, steps + 1, name, text =>
    match skipBlanks flags text with
    | [] => none
    | '\x7d' :: rest => some (name.reverse, rest)
    | c :: rest => nameInBraces flags steps (c :: name) rest

/-- Cut a text at the first place where `mark` stands. -/
def cutAtFirst? (mark : List Char) : List Char → Option (List Char × List Char)
  | [] => none
  | c :: rest =>
    if mark.isPrefixOf (c :: rest) then some ([], (c :: rest).drop mark.length)
    else (cutAtFirst? mark rest).map fun cut => (c :: cut.1, cut.2)

/-- A named set, and whether its own operator negates it. -/
def namedSet? (name : List Char) : Option (Bool × CharSet) :=
  match cutAtFirst? ['!', '='] name with
  | some (property, value) =>
    (CharSet.ofNameAndValue? property value).map fun s => (true, s)
  | none =>
    match cutAtFirst? [':'] name with
    | some (property, value) =>
      (CharSet.ofNameAndValue? property value).map fun s => (false, s)
    | none =>
      match cutAtFirst? ['='] name with
      | some (property, value) =>
        (CharSet.ofNameAndValue? property value).map fun s => (false, s)
      | none => (CharSet.ofName? name).map fun s => (false, s)

/-- A set given by the name of a character property, in braces unless the name
is one letter. -/
def propertyEscape? (flags : Flags) (negated : Bool) (text : List Char) :
    Option (CharSet × List Char) := do
  if !flags.unicode then none
  match skipBlanks flags text with
  | [] => none
  | '\\' :: _ => none
  | '\x7b' :: rest =>
    let (name, rest) ← nameInBraces flags (rest.length + 1) [] rest
    let (differs, s) ← namedSet? name
    let s ← closeSet? flags (negated != differs) s
    some (s, rest)
  | c :: rest =>
    let s ← CharSet.ofName? [c]
    let s ← closeSet? flags negated s
    some (s, rest)

/-- The characters of the names of word assertions. -/
def isEdgeNameChar (c : Char) : Bool :=
  Unicode.isAsciiLetter c.toNat || c == '-'

/-- Read the name of a word assertion up to its closing brace. -/
def edgeName (flags : Flags) : Nat → List Char → List Char → Option (List Char × List Char)
  | 0, _, _ => none
  | steps + 1, name, text =>
    match skipBlanks flags text with
    | '\x7d' :: rest => some (name.reverse, rest)
    | c :: rest => if isEdgeNameChar c then edgeName flags steps (c :: name) rest else none
    | [] => none

/-- What follows the letter `b`: a name in braces makes it a special assertion.
Braces that hold no name are a repetition, and left alone. -/
def boundary? (flags : Flags) (text : List Char) : Option (WordEdge × List Char) := do
  match text with
  | '\x7b' :: rest =>
    match skipBlanks flags rest with
    | [] => none
    | c :: more =>
      if !isEdgeNameChar c then some (.boundary, text)
      else
        let (name, rest) ← edgeName flags (more.length + 2) [] (c :: more)
        match String.ofList name with
        | "start" => some (.start, rest)
        | "end" => some (.finish, rest)
        | "start-half" => some (.startHalf, rest)
        | "end-half" => some (.finishHalf, rest)
        | _ => none
  | _ => some (.boundary, text)

/-- Read what follows a backslash. -/
def escape? (flags : Flags) (text : List Char) : Option (Escape × List Char) := do
  let edge (e : WordEdge) : Escape := .look (.word e (!flags.unicode))
  match text with
  | [] => none
  | c :: rest =>
    if isEscapable c then some (.literal c, rest)
    else
      match c with
      | 'x' | 'u' | 'U' =>
        let (c, rest) ← hexEscape? flags c rest
        some (.literal c, rest)
      | 'p' =>
        let (s, rest) ← propertyEscape? flags false rest
        some (.set s, rest)
      | 'P' =>
        let (s, rest) ← propertyEscape? flags true rest
        some (.set s, rest)
      | 'a' => some (.literal '\x07', rest)
      | 'f' => some (.literal '\x0c', rest)
      | 't' => some (.literal '\t', rest)
      | 'n' => some (.literal '\n', rest)
      | 'r' => some (.literal '\r', rest)
      | 'v' => some (.literal '\x0b', rest)
      | 'A' => some (.look .textStart, rest)
      | 'z' => some (.look .textEnd, rest)
      | 'b' =>
        let (e, rest) ← boundary? flags rest
        some (edge e, rest)
      | 'B' => some (edge .inside, rest)
      | '<' => some (edge .start, rest)
      | '>' => some (edge .finish, rest)
      | _ =>
        let s ← letterClass? flags c
        some (.set s, rest)

end Pattern

end Polyglot
