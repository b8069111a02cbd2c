/-
# Spaces, digits and word characters

The classes that patterns name by one letter.  ASCII is decided by comparison;
the tables answer for all other code points, and agree with it.
-/

import Polyglot.Unicode.Property

namespace Polyglot

namespace Unicode

/-- The code points below 0x80. -/
def isAscii (n : Nat) : Bool := n < 0x80

/-- The ASCII digits. -/
def isAsciiDigit (n : Nat) : Bool := 0x30 ≤ n && n ≤ 0x39

/-- The ASCII letters. -/
def isAsciiLetter (n : Nat) : Bool :=
  (0x41 ≤ n && n ≤ 0x5a) || (0x61 ≤ n && n ≤ 0x7a)

/-- The ASCII letters, digits and the underscore. -/
def isAsciiWord (n : Nat) : Bool :=
  isAsciiLetter n || isAsciiDigit n || n == 0x5f

/-- The ASCII characters that are white space. -/
def isAsciiSpace (n : Nat) : Bool := (0x09 ≤ n && n ≤ 0x0d) || n == 0x20

/-- White space. -/
def isSpace (n : Nat) : Bool :=
  if isAscii n then isAsciiSpace n else (Property.members .whiteSpace).contains n

/-- Decimal digits. -/
def isDigit (n : Nat) : Bool :=
  if isAscii n then isAsciiDigit n else Category.of n == .nd

/-- Alphabetic characters. -/
def isAlphabetic (n : Nat) : Bool :=
  if isAscii n then isAsciiLetter n else (Property.members .alphabetic).contains n

/-- Characters that write numbers. -/
def isNumeric (n : Nat) : Bool :=
  if isAscii n then isAsciiDigit n else [Category.nd, .nl, .no].contains (Category.of n)

/-- Word characters: alphabetic ones, marks, decimal digits, connector
punctuation and the two join controls. -/
def isWord (n : Nat) : Bool :=
  if isAscii n then isAsciiWord n
  else
    [Category.mn, .mc, .me, .nd, .pc].contains (Category.of n) ||
      (Property.members .alphabetic).contains n ||
      (Property.members .joinControl).contains n

end Unicode

end Polyglot
