/-
# JSON values

The values that the program writes and reads.  A string is a sequence of
characters and of lone surrogates, since an escape in a JSON text can name half
of a surrogate pair; only a string without them is a text.  A number is kept as
it is written, because nothing is computed with the numbers that are read.
-/

namespace Polyglot

/-- An element of a JSON string. -/
inductive JsonUnit
  /-- A character. -/
  | char (c : Char)
  /-- A surrogate without its other half. -/
  | surrogate (code : Nat)
  deriving DecidableEq, Repr

/-- A JSON value. -/
inductive Json
  /-- The null value. -/
  | null
  /-- A truth value. -/
  | bool (b : Bool)
  /-- A number, as it is written. -/
  | number (literal : List Char)
  /-- A string. -/
  | string (units : List JsonUnit)
  /-- An array. -/
  | array (items : List Json)
  /-- An object: its members in order, names possibly repeated. -/
  | object (members : List (List JsonUnit × Json))

namespace Json

/-- The units of a text. -/
def unitsOf (text : String) : List JsonUnit := text.toList.map .char

/-- A text as a value. -/
def ofText (text : String) : Json := .string (unitsOf text)

/-- The decimal writing of an integer. -/
def integerLiteral (n : Int) : List Char :=
  match n with
  | .ofNat n => Nat.toDigits 10 n
  | .negSucc n => '-' :: Nat.toDigits 10 (n + 1)

/-- An integer as a value. -/
def ofInt (n : Int) : Json := .number (integerLiteral n)

/-- The character of a unit, unless it is a lone surrogate. -/
def unitChar? : JsonUnit → Option Char
  | .char c => some c
  | .surrogate _ => none

/-- The text of a string, unless it holds a lone surrogate. -/
def textOf? (units : List JsonUnit) : Option String :=
  (units.mapM unitChar?).map String.ofList

end Json

end Polyglot
