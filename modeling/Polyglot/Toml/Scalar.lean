/-
# Strings, numbers and dates in TOML

Readers for the values that are no containers.  Every reader takes the rest of a
text and answers what it read with what is left, or nothing if the text is not
of the form.  Where a first argument is called `steps`, it bounds the steps; a
bound above the length of the text is never reached.
-/

import Polyglot.Toml.Basic
import Polyglot.Unicode.Table

namespace Polyglot

namespace Toml

/-- Blanks within a line. -/
def isBlank (c : Char) : Bool := c == ' ' || c == '\t'

/-- Drop blanks within a line. -/
def skipBlanks (text : List Char) : List Char := text.dropWhile isBlank

/-- The characters that strings and comments may hold as they are: no control
characters but the tab. -/
def isPrintable (c : Char) : Bool := c == '\t' || (0x20 ≤ c.toNat && c.toNat != 0x7f)

/-- Read a line break: a line feed, perhaps with a carriage return before it. -/
def lineBreak? : List Char → Option (List Char)
  | '\n' :: rest => some rest
  | '\r' :: '\n' :: rest => some rest
  | _ => none

/-- Drop blanks and line breaks. -/
def skipLines : List Char → List Char
  | '\r' :: '\n' :: rest => skipLines rest
  | c :: rest => if isBlank c || c == '\n' then skipLines rest else c :: rest
  | [] => []

/-- Whether a character is a decimal digit. -/
def isDigit (c : Char) : Bool := '0' ≤ c && c ≤ '9'

/-- Read exactly so many hexadecimal digits. -/
def hexDigits? : Nat → List Char → Option (List Char × List Char)
  | 0, text => some ([], text)
  | count + 1, c :: rest =>
    if (Unicode.hexDigit? c).isSome then
      (hexDigits? count rest).map fun read => (c :: read.1, read.2)
    else none
  | _ + 1, [] => none

/-- Read a character given by its number in so many hexadecimal digits. -/
def numberedChar? (count : Nat) (text : List Char) : Option (Char × List Char) :=
  match hexDigits? count text with
  | none => none
  | some (digits, rest) =>
    let n := Unicode.hexNumber digits
    if n.isValidChar then some (Char.ofNat n, rest) else none

/-- Read what follows a backslash. -/
def escape? : List Char → Option (Char × List Char)
  | 'b' :: rest => some ('\x08', rest)
  | 't' :: rest => some ('\t', rest)
  | 'n' :: rest => some ('\n', rest)
  | 'f' :: rest => some ('\x0c', rest)
  | 'r' :: rest => some ('\r', rest)
  | '"' :: rest => some ('"', rest)
  | '\\' :: rest => some ('\\', rest)
  | 'u' :: rest => numberedChar? 4 rest
  | 'U' :: rest => numberedChar? 8 rest
  | _ => none

/-- Put a character in front of what was read. -/
def prepend (c : Char) (read : List Char × List Char) : List Char × List Char :=
  (c :: read.1, read.2)

/-- Read a string in double quotes, after the opening one. -/
def basicString? : Nat → List Char → Option (List Char × List Char)
  | 0, _ => none
  | steps + 1, text =>
    match text with
    | [] => none
    | '"' :: rest => some ([], rest)
    | '\\' :: rest =>
      match escape? rest with
      | none => none
      | some (c, rest) => (basicString? steps rest).map (prepend c)
    | c :: rest =>
      if isPrintable c then (basicString? steps rest).map (prepend c) else none

/-- Read a string in single quotes, after the opening one. -/
def literalString? : List Char → Option (List Char × List Char)
  | [] => none
  | c :: rest =>
    if c == '\'' then some ([], rest)
    else if isPrintable c then (literalString? rest).map (prepend c)
    else none

/-- What closes a string in three quotes may follow up to two quotes that belong
to it; the text begins after three. -/
def closingQuotes (quote : Char) (text : List Char) : List Char × List Char :=
  match text with
  | a :: b :: rest =>
    if a == quote && b == quote then ([quote, quote], rest)
    else if a == quote then ([quote], b :: rest)
    else ([], text)
  | [a] => if a == quote then ([quote], []) else ([], text)
  | [] => ([], [])

/-- A backslash at the end of a line drops the break and the blanks after it.
The text begins after the backslash. -/
def continuedLine? (text : List Char) : Option (List Char) :=
  (lineBreak? (skipBlanks text)).map skipLines

/-- Read a string in three double quotes, after the opening ones. -/
def longBasicString? : Nat → List Char → Option (List Char × List Char)
  | 0, _ => none
  | steps + 1, text =>
    match text with
    | [] => none
    | '"' :: '"' :: '"' :: rest => some (closingQuotes '"' rest)
    | '\\' :: rest =>
      match continuedLine? rest with
      | some rest => longBasicString? steps rest
      | none =>
        match escape? rest with
        | none => none
        | some (c, rest) => (longBasicString? steps rest).map (prepend c)
    | '\r' :: '\n' :: rest => (longBasicString? steps rest).map (prepend '\n')
    | c :: rest =>
      if c == '\n' || isPrintable c then (longBasicString? steps rest).map (prepend c)
      else none

/-- Read a string in three single quotes, after the opening ones. -/
def longLiteralString? : List Char → Option (List Char × List Char)
  | [] => none
  | '\'' :: '\'' :: '\'' :: rest => some (closingQuotes '\'' rest)
  | '\r' :: '\n' :: rest => (longLiteralString? rest).map (prepend '\n')
  | c :: rest =>
    if c == '\n' || isPrintable c then (longLiteralString? rest).map (prepend c) else none

/-- A line break right after the opening quotes is dropped. -/
def dropFirstBreak (text : List Char) : List Char := (lineBreak? text).getD text

/-- Read a string of any form. -/
def string? (text : List Char) : Option (List Char × List Char) :=
  match text with
  | '"' :: '"' :: '"' :: rest => longBasicString? (rest.length + 1) (dropFirstBreak rest)
  | '"' :: rest => basicString? (rest.length + 1) rest
  | '\'' :: '\'' :: '\'' :: rest => longLiteralString? (dropFirstBreak rest)
  | '\'' :: rest => literalString? rest
  | _ => none

/-- Read digits of a kind, single underscores allowed between them; there must
be one digit, and an underscore must stand between two.  The flag says whether
the last character was a digit. -/
def digitRun? (isKind : Char → Bool) : Bool → List Char → Option (List Char × List Char)
  | afterDigit, [] => if afterDigit then some ([], []) else none
  | afterDigit, c :: rest =>
    if isKind c then (digitRun? isKind true rest).map (prepend c)
    else if c == '_' && afterDigit then digitRun? isKind false rest
    else if afterDigit then some ([], c :: rest)
    else none

/-- The number that digits write. -/
def numberOf (base : Nat) (digits : List Char) : Nat :=
  digits.foldl (fun n c => base * n + (Unicode.hexDigit? c).getD 0) 0

/-- A sign, if there is one; the flag says whether it is a minus. -/
def sign (text : List Char) : Bool × List Char :=
  match text with
  | '+' :: rest => (false, rest)
  | '-' :: rest => (true, rest)
  | _ => (false, text)

/-- Read a decimal whole number without sign: a zero stands alone. -/
def decimal? (text : List Char) : Option (List Char × List Char) :=
  match text with
  | '0' :: rest => some (['0'], rest)
  | _ => digitRun? isDigit false text

/-- An integer, if 64 bits hold it. -/
def bounded? (n : Int) : Option Toml :=
  if -0x8000000000000000 ≤ n ∧ n < 0x8000000000000000 then some (.integer n) else none

/-- Read an integer in another base, after its mark. -/
def basedInteger? (base : Nat) (text : List Char) : Option (Toml × List Char) := do
  let isKind (c : Char) : Bool :=
    match Unicode.hexDigit? c with
    | some n => n < base
    | none => false
  let (digits, rest) ← digitRun? isKind false text
  let value ← bounded? (numberOf base digits)
  some (value, rest)

/-- Read an integer. -/
def integer? (text : List Char) : Option (Toml × List Char) :=
  match text with
  | '0' :: 'x' :: rest => basedInteger? 16 rest
  | '0' :: 'o' :: rest => basedInteger? 8 rest
  | '0' :: 'b' :: rest => basedInteger? 2 rest
  | _ => do
    let (negative, rest) := sign text
    let (digits, rest) ← decimal? rest
    let n : Int := numberOf 10 digits
    let value ← bounded? (if negative then -n else n)
    some (value, rest)

/-- Read a fraction, if there is one. -/
def fraction? (text : List Char) : Option (List Char × List Char) :=
  match text with
  | '.' :: rest => digitRun? isDigit false rest
  | _ => some ([], text)

/-- Read an exponent, if there is one. -/
def exponent? (text : List Char) : Option (Option Int × List Char) :=
  match text with
  | c :: rest =>
    if c == 'e' || c == 'E' then do
      let (negative, rest) := sign rest
      let (digits, rest) ← digitRun? isDigit false rest
      let n : Int := numberOf 10 digits
      some (some (if negative then -n else n), rest)
    else some (none, text)
  | [] => some (none, [])

/-- Whether a decimal number is so large that its nearest double is infinite:
it reaches the middle between the greatest double and the next power of two. -/
def overflows (digits : Nat) (exponent : Int) : Bool :=
  let bound := Nat.pow 2 1024 - Nat.pow 2 970
  let size : Int := (Nat.toDigits 10 digits).length + exponent
  if digits = 0 || size < 300 then false
  else if 310 < size then true
  else if 0 ≤ exponent then bound ≤ digits * Nat.pow 10 exponent.toNat
  else bound * Nat.pow 10 (-exponent).toNat ≤ digits

/-- What was read between a text and its rest. -/
def consumed (text rest : List Char) : List Char := text.take (text.length - rest.length)

/-- Read a float: a number with a fraction or an exponent or both.  A positive
one must not be infinite. -/
def decimalFloat? (text : List Char) : Option (Toml × List Char) := do
  let (negative, rest) := sign text
  let (whole, afterWhole) ← decimal? rest
  let (places, rest) ← fraction? afterWhole
  let (exponent, rest) ← exponent? rest
  if places.isEmpty && exponent.isNone then none
  if !negative &&
      overflows (numberOf 10 (whole ++ places)) (exponent.getD 0 - places.length) then none
  some (.float (consumed text rest), rest)

/-- Read one of the two special floats. -/
def specialFloat? (text : List Char) : Option (Toml × List Char) :=
  match (sign text).2 with
  | 'i' :: 'n' :: 'f' :: rest => some (.float (consumed text rest), rest)
  | 'n' :: 'a' :: 'n' :: rest => some (.float (consumed text rest), rest)
  | _ => none

/-- Read so many decimal digits. -/
def fixedDigits? : Nat → List Char → Option (List Char × List Char)
  | 0, text => some ([], text)
  | count + 1, c :: rest =>
    if isDigit c then (fixedDigits? count rest).map (prepend c) else none
  | _ + 1, [] => none

/-- Read a number of so many digits, between bounds. -/
def field? (count low high : Nat) (text : List Char) : Option (Nat × List Char) := do
  let (digits, rest) ← fixedDigits? count text
  let n := numberOf 10 digits
  if low ≤ n && n ≤ high then some (n, rest) else none

/-- Read one given character. -/
def expect? (c : Char) (text : List Char) : Option (List Char) :=
  match text with
  | first :: rest => if first == c then some rest else none
  | [] => none

/-- The number of days in a month. -/
def daysIn (year month : Nat) : Nat :=
  if month = 2 then
    if year % 4 = 0 && (year % 100 != 0 || year % 400 = 0) then 29 else 28
  else if [4, 6, 9, 11].contains month then 30
  else 31

/-- Read a date of the calendar. -/
def date? (text : List Char) : Option (List Char) := do
  let (year, rest) ← field? 4 0 9999 text
  let rest ← expect? '-' rest
  let (month, rest) ← field? 2 1 12 rest
  let rest ← expect? '-' rest
  let (_, rest) ← field? 2 1 (daysIn year month) rest
  some rest

/-- Read the fraction of a second, if there is one. -/
def secondFraction (text : List Char) : List Char :=
  match text with
  | '.' :: c :: rest => if isDigit c then rest.dropWhile isDigit else text
  | _ => text

/-- Read a time of day; a minute may have a leap second. -/
def time? (text : List Char) : Option (List Char) := do
  let (_, rest) ← field? 2 0 23 text
  let rest ← expect? ':' rest
  let (_, rest) ← field? 2 0 59 rest
  let rest ← expect? ':' rest
  let (_, rest) ← field? 2 0 60 rest
  some (secondFraction rest)

/-- Read an offset from universal time. -/
def offset? (text : List Char) : Option (List Char) :=
  match text with
  | [] => none
  | c :: rest =>
    if c == 'Z' || c == 'z' then some rest
    else if c == '+' || c == '-' then do
      let (_, rest) ← field? 2 0 23 rest
      let rest ← expect? ':' rest
      let (_, rest) ← field? 2 0 59 rest
      some rest
    else none

/-- Read the time behind a date, and its offset, if there is one. -/
def timeAfterDate (text : List Char) : List Char :=
  match text with
  | c :: rest =>
    if c == 'T' || c == 't' || c == ' ' then
      match time? rest with
      | some rest => (offset? rest).getD rest
      | none => text
    else text
  | [] => []

/-- Read a date, a time, or both. -/
def datetime? (text : List Char) : Option (Toml × List Char) :=
  match date? text with
  | some rest =>
    let rest := timeAfterDate rest
    some (.datetime (consumed text rest), rest)
  | none => (time? text).map fun rest => (.datetime (consumed text rest), rest)

/-- Read a number or a date. -/
def numeric? (text : List Char) : Option (Toml × List Char) :=
  (datetime? text).orElse fun _ =>
    (decimalFloat? text).orElse fun _ =>
      (specialFloat? text).orElse fun _ => integer? text

/-- Read a truth value. -/
def boolean? : List Char → Option (Toml × List Char)
  | 't' :: 'r' :: 'u' :: 'e' :: rest => some (.boolean true, rest)
  | 'f' :: 'a' :: 'l' :: 's' :: 'e' :: rest => some (.boolean false, rest)
  | _ => none

end Toml

end Polyglot
