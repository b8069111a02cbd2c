/-
# Reading JSON

The reader accepts the JSON grammar and nothing else.  Every reader takes the
rest of a text and answers what it read with what is left, or nothing if the
text is not of the form.  The first argument of the recursive ones bounds their
steps; a bound above the length of the text is never reached.
-/

import Polyglot.Json.Basic

namespace Polyglot

namespace Json

/-- The white space between the tokens of a JSON text. -/
def isSpace (c : Char) : Bool := c == ' ' || c == '\n' || c == '\t' || c == '\r'

/-- Drop white space. -/
def skipSpace (text : List Char) : List Char := text.dropWhile isSpace

/-- Whether a character is a decimal digit. -/
def isDigit (c : Char) : Bool := '0' ≤ c && c ≤ '9'

/-- The value of a hexadecimal digit. -/
def hexValue? (c : Char) : Option Nat :=
  if isDigit c then some (c.toNat - '0'.toNat)
  else if 'a' ≤ c && c ≤ 'f' then some (c.toNat - 'a'.toNat + 10)
  else if 'A' ≤ c && c ≤ 'F' then some (c.toNat - 'A'.toNat + 10)
  else none

/-- The number that four hexadecimal digits write. -/
def hexNumber? (a b c d : Char) : Option Nat := do
  let a ← hexValue? a
  let b ← hexValue? b
  let c ← hexValue? c
  let d ← hexValue? d
  some (((a * 16 + b) * 16 + c) * 16 + d)

/-- Whether a number is the first half of a surrogate pair. -/
def isHighSurrogate (n : Nat) : Bool := 0xd800 ≤ n && n ≤ 0xdbff

/-- Whether a number is the second half of a surrogate pair. -/
def isLowSurrogate (n : Nat) : Bool := 0xdc00 ≤ n && n ≤ 0xdfff

/-- Put a 16-bit number in front of the units after it.  A first half joins the
second half behind it into one character. -/
def prependNumber (n : Nat) (units : List JsonUnit) : List JsonUnit :=
  if isHighSurrogate n then
    match units with
    | .surrogate low :: rest =>
      if isLowSurrogate low then
        .char (Char.ofNat (0x10000 + (n - 0xd800) * 0x400 + (low - 0xdc00))) :: rest
      else .surrogate n :: units
    | _ => .surrogate n :: units
  else if isLowSurrogate n then .surrogate n :: units
  else .char (Char.ofNat n) :: units

/-- The character that a letter after a backslash stands for. -/
def letterEscape? (c : Char) : Option Char :=
  match c with
  | '"' => some '"'
  | '\\' => some '\\'
  | '/' => some '/'
  | 'b' => some '\x08'
  | 'f' => some '\x0c'
  | 'n' => some '\n'
  | 'r' => some '\r'
  | 't' => some '\t'
  | _ => none

/-- Read a string, after its opening quote. -/
def string? : List Char → Option (List JsonUnit × List Char)
  | [] => none
  | '"' :: rest => some ([], rest)
  | '\\' :: 'u' :: a :: b :: c :: d :: rest =>
    match hexNumber? a b c d with
    | none => none
    | some n => (string? rest).map fun read => (prependNumber n read.1, read.2)
  | '\\' :: c :: rest =>
    match letterEscape? c with
    | none => none
    | some c => (string? rest).map fun read => (.char c :: read.1, read.2)
  | c :: rest =>
    if c.toNat < 0x20 || c == '\\' then none
    else (string? rest).map fun read => (.char c :: read.1, read.2)

/-- Read digits, of which there must be one. -/
def digits? (text : List Char) : Option (List Char × List Char) :=
  match text.span isDigit with
  | ([], _) => none
  | (digits, rest) => some (digits, rest)

/-- Read the whole part of a number: no zero stands in front of other digits. -/
def wholePart? (text : List Char) : Option (List Char × List Char) :=
  match text with
  | '0' :: c :: rest => if isDigit c then none else some (['0'], c :: rest)
  | _ => digits? text

/-- Read a fraction, if there is one. -/
def fraction? (text : List Char) : Option (List Char × List Char) :=
  match text with
  | '.' :: rest => (digits? rest).map fun read => ('.' :: read.1, read.2)
  | _ => some ([], text)

/-- Read an exponent, if there is one. -/
def exponent? (text : List Char) : Option (List Char × List Char) :=
  match text with
  | c :: rest =>
    if c == 'e' || c == 'E' then
      match rest with
      | sign :: more =>
        if sign == '+' || sign == '-' then
          (digits? more).map fun read => (c :: sign :: read.1, read.2)
        else
          (digits? rest).map fun read => (c :: read.1, read.2)
      | [] => none
    else some ([], text)
  | [] => some ([], text)

/-- Read a number. -/
def number? (text : List Char) : Option (List Char × List Char) := do
  let (sign, text) :=
    match text with
    | '-' :: rest => (['-'], rest)
    | _ => ([], text)
  let (whole, text) ← wholePart? text
  let (fraction, text) ← fraction? text
  let (exponent, text) ← exponent? text
  some (sign ++ whole ++ fraction ++ exponent, text)

mutual

/-- Read a value, with white space before it. -/
def value? : Nat → List Char → Option (Json × List Char)
  | 0, _ => none
  | steps + 1, text =>
    match skipSpace text with
    | 'n' :: 'u' :: 'l' :: 'l' :: rest => some (.null, rest)
    | 't' :: 'r' :: 'u' :: 'e' :: rest => some (.bool true, rest)
    | 'f' :: 'a' :: 'l' :: 's' :: 'e' :: rest => some (.bool false, rest)
    | '"' :: rest => (string? rest).map fun read => (.string read.1, read.2)
    | '[' :: rest =>
      match skipSpace rest with
      | ']' :: rest => some (.array [], rest)
      | _ => (items? steps rest).map fun read => (.array read.1, read.2)
    | '\x7b' :: rest =>
      match skipSpace rest with
      | '\x7d' :: rest => some (.object [], rest)
      | _ => (members? steps rest).map fun read => (.object read.1, read.2)
    | text => (number? text).map fun read => (.number read.1, read.2)

/-- Read the items of an array and its closing bracket. -/
def items? : Nat → List Char → Option (List Json × List Char)
  | 0, _ => none
  | steps + 1, text =>
    match value? steps text with
    | none => none
    | some (item, rest) =>
      match skipSpace rest with
      | ']' :: rest => some ([item], rest)
      | ',' :: rest => (items? steps rest).map fun read => (item :: read.1, read.2)
      | _ => none

/-- Read the members of an object and its closing brace. -/
def members? : Nat → List Char → Option (List (List JsonUnit × Json) × List Char)
  | 0, _ => none
  | steps + 1, text =>
    match skipSpace text with
    | '"' :: rest =>
      match string? rest with
      | none => none
      | some (name, rest) =>
        match skipSpace rest with
        | ':' :: rest =>
          match value? steps rest with
          | none => none
          | some (value, rest) =>
            match skipSpace rest with
            | '\x7d' :: rest => some ([(name, value)], rest)
            | ',' :: rest =>
              (members? steps rest).map fun read => ((name, value) :: read.1, read.2)
            | _ => none
        | _ => none
    | _ => none

end

/-- Read a whole text. -/
def ofText? (text : List Char) : Option Json :=
  match value? (text.length + 1) text with
  | some (value, rest) => if (skipSpace rest).isEmpty then some value else none
  | none => none

end Json

end Polyglot
