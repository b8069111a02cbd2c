/-
# TOML values

The values that a TOML document holds.  Floats and dates are kept as they are
written, since nothing is computed with them.
-/

namespace Polyglot

/-- A TOML value. -/
inductive Toml
  /-- A text. -/
  | string (text : String)
  /-- An integer of 64 bits. -/
  | integer (n : Int)
  /-- A number with a fraction or an exponent, or a special one. -/
  | float (literal : List Char)
  /-- A truth value. -/
  | boolean (b : Bool)
  /-- A date, a time, or both. -/
  | datetime (literal : List Char)
  /-- An array. -/
  | array (items : List Toml)
  /-- A table: its keys with their values. -/
  | table (entries : List (String × Toml))

namespace Toml

/-- The value of a key among entries. -/
def find? (entries : List (String × Toml)) (key : String) : Option Toml :=
  entries.lookup key

end Toml

end Polyglot
