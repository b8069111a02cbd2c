/-
# Building a TOML document

A document grows statement by statement.  While it does, a table remembers how
it came about: by a header of its own, or only because a longer key passed
through it, in a header or in a dotted key.  The rules on what may be defined
again are stated on that.
-/

import Polyglot.Toml.Basic

namespace Polyglot

namespace Toml

/-- How a table came about. -/
inductive Origin
  /-- A header named it, or it is the whole document or an inline table. -/
  | named
  /-- A longer header passed through it. -/
  | implied
  /-- A dotted key passed through it. -/
  | dotted
  deriving DecidableEq, Repr

/-- What stands under a key while a document grows. -/
inductive Item
  /-- A finished value. -/
  | value (v : Toml)
  /-- A table that may still grow. -/
  | table (origin : Origin) (entries : List (String × Item))
  /-- An array of tables, of which the last may still grow. -/
  | tables (elements : List (List (String × Item)))

/-- A table that grows: how it came about, and its entries. -/
structure Table where
  /-- How it came about. -/
  origin : Origin
  /-- Its entries. -/
  entries : List (String × Item)

namespace Table

/-- The table before any statement. -/
def empty : Table := ⟨.named, []⟩

/-- Replace the item under a key, or add it at the end. -/
def put (entries : List (String × Item)) (key : String) (item : Item) :
    List (String × Item) :=
  match entries with
  | [] => [(key, item)]
  | (k, old) :: rest => if k = key then (k, item) :: rest else (k, old) :: put rest key item

/-- Change the table at the end of a path.  Missing tables on the way come
about with the origin given; an array of tables stands for its last element.  A
dotted key does not reach into a table that a header named. -/
def update? (origin : Origin) (change : Table → Option Table) :
    List String → Table → Option Table
  | [], outer => change outer
  | key :: path, outer =>
    match outer.entries.lookup key with
    | none => do
      let inner ← update? origin change path ⟨origin, []⟩
      some { outer with
        entries := put outer.entries key (.table inner.origin inner.entries) }
    | some (.value _) => none
    | some (.table found entries) =>
      if origin == .dotted && found == .named then none
      else do
        let inner ← update? origin change path ⟨found, entries⟩
        some { outer with
          entries := put outer.entries key (.table inner.origin inner.entries) }
    | some (.tables elements) =>
      match elements.getLast? with
      | none => none
      | some last => do
        let inner ← update? origin change path ⟨.named, last⟩
        some { outer with
          entries :=
            put outer.entries key (.tables (elements.dropLast ++ [inner.entries])) }

/-- Give a key of a table a value.  The key must be new; behind a dotted path the
table must have come about by dotted keys, and without a path it must not. -/
def define? (path : List String) (key : String) (value : Toml) (outer : Table) :
    Option Table :=
  update? .dotted
    (fun target =>
      if (target.origin == .dotted) == path.isEmpty then none
      else if (target.entries.lookup key).isSome then none
      else some { target with entries := target.entries ++ [(key, .value value)] })
    path outer

/-- Begin the table that a header names.  It must be new, or known only because
longer headers passed through it. -/
def begin? (key : String) (parent : Table) : Option Table :=
  match parent.entries.lookup key with
  | none => some { parent with entries := parent.entries ++ [(key, .table .named [])] }
  | some (.table .implied entries) =>
    some { parent with entries := put parent.entries key (.table .named entries) }
  | some _ => none

/-- Begin one more element of the array of tables that a header names. -/
def beginElement? (key : String) (parent : Table) : Option Table :=
  match parent.entries.lookup key with
  | none => some { parent with entries := parent.entries ++ [(key, .tables [[]])] }
  | some (.tables elements) =>
    some { parent with entries := put parent.entries key (.tables (elements ++ [[]])) }
  | some _ => none

/-- Change the table that the last header named.  Its path leads through tables
of any origin. -/
def within? (header : List String) (change : Table → Option Table) (document : Table) :
    Option Table :=
  update? .implied change header document

end Table

mutual

/-- The value of an item. -/
def Item.finish : Item → Toml
  | .value v => v
  | .table _ entries => .table (Item.finishEntries entries)
  | .tables elements => .array (Item.finishElements elements)

/-- The values of entries. -/
def Item.finishEntries : List (String × Item) → List (String × Toml)
  | [] => []
  | (key, item) :: rest => (key, item.finish) :: Item.finishEntries rest

/-- The values of the elements of an array of tables. -/
def Item.finishElements : List (List (String × Item)) → List Toml
  | [] => []
  | entries :: rest => .table (Item.finishEntries entries) :: Item.finishElements rest

end

/-- The entries of a finished table. -/
def Table.finish (grown : Table) : List (String × Toml) := Item.finishEntries grown.entries

/-- An inline table: its keys must not collide, by the rules for dotted keys. -/
def inlineTable? (pairs : List (List String × String × Toml)) : Option Toml :=
  (pairs.foldlM (fun grown pair => Table.define? pair.1 pair.2.1 pair.2.2 grown)
    Table.empty).map fun grown => .table grown.finish

end Toml

end Polyglot
