/-
# Numbers on the command line

A number on the command line has 64 bits.  It is written in decimal digits, with
one plus sign before them at most.
-/

namespace Polyglot

namespace Command

/-- The number that decimal digits write. -/
def numberOf (digits : List Char) : Nat :=
  digits.foldl (fun n c => 10 * n + (c.toNat - '0'.toNat)) 0

/-- The digits of a number, without the plus sign before them. -/
def unsignedPart : List Char → List Char
  | '+' :: digits => digits
  | digits => digits

/-- Read a number of 64 bits. -/
def number? (text : List Char) : Option Nat :=
  let digits := unsignedPart text
  if digits.isEmpty then none
  else if digits.all Char.isDigit && decide (numberOf digits < 0x10000000000000000) then
    some (numberOf digits)
  else none

/-- The word that leaves the number of workers open. -/
def automatic : String := "auto"

/-- Whether a text is the word that leaves the number of workers open, in upper
or lower case. -/
def isAutomatic (text : List Char) : Bool := text.map Char.toLower == automatic.toList

/-- Read how many workers to use.  Zero and what is no number leave it open
too. -/
def workers? (text : List Char) : Option Nat :=
  if isAutomatic text then none
  else
    match number? text with
    | some 0 => none
    | count => count

end Command

end Polyglot
