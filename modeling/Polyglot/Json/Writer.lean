/-
# Writing JSON

Values are written without white space.  Quotes, backslashes and control
characters are escaped, the common ones by a letter; every other character is
written as it is.
-/

import Polyglot.Json.Basic

namespace Polyglot

namespace Json

/-- A hexadecimal digit in lower case. -/
def lowerHexDigit (n : Nat) : Char :=
  if n < 10 then Char.ofNat ('0'.toNat + n) else Char.ofNat ('a'.toNat + (n - 10))

/-- The escape that gives a unit by its number, in four digits. -/
def numericEscape (n : Nat) : List Char :=
  ['\\', 'u', lowerHexDigit (n / 4096 % 16), lowerHexDigit (n / 256 % 16),
    lowerHexDigit (n / 16 % 16), lowerHexDigit (n % 16)]

/-- A character inside a string. -/
def writeChar (c : Char) : List Char :=
  if c = '"' then ['\\', '"']
  else if c = '\\' then ['\\', '\\']
  else if c = '\x08' then ['\\', 'b']
  else if c = '\x0c' then ['\\', 'f']
  else if c = '\n' then ['\\', 'n']
  else if c = '\r' then ['\\', 'r']
  else if c = '\t' then ['\\', 't']
  else if c.toNat < 0x20 then numericEscape c.toNat
  else [c]

/-- A unit inside a string. -/
def writeUnit : JsonUnit → List Char
  | .char c => writeChar c
  | .surrogate code => numericEscape code

/-- A string with its quotes. -/
def writeString (units : List JsonUnit) : List Char :=
  '"' :: (units.flatMap writeUnit ++ ['"'])

mutual

/-- A value in compact form. -/
def write : Json → List Char
  | .null => ['n', 'u', 'l', 'l']
  | .bool true => ['t', 'r', 'u', 'e']
  | .bool false => ['f', 'a', 'l', 's', 'e']
  | .number literal => literal
  | .string units => writeString units
  | .array items => '[' :: (writeItems items ++ [']'])
  | .object members => '\x7b' :: (writeMembers members ++ ['\x7d'])

/-- The items of an array, with commas between them. -/
def writeItems : List Json → List Char
  | [] => []
  | [item] => write item
  | item :: rest => write item ++ ',' :: writeItems rest

/-- The members of an object, with commas between them. -/
def writeMembers : List (List JsonUnit × Json) → List Char
  | [] => []
  | [(name, value)] => writeString name ++ ':' :: write value
  | (name, value) :: rest =>
    writeString name ++ ':' :: (write value ++ ',' :: writeMembers rest)

end

end Json

end Polyglot
