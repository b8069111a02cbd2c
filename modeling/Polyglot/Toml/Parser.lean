/-
# Reading TOML

A document is a list of statements, one a line: a key with a value, or a header
that names a table.  `Toml.ofText?` answers the entries of the whole document,
or nothing if the text is none.
-/

import Polyglot.Toml.Scalar
import Polyglot.Toml.Tree

namespace Polyglot

namespace Toml

/-- The deepest nesting, less one, that arrays, inline tables and dotted keys may
have. -/
def depthLimit : Nat := 80

/-- The characters of keys without quotes. -/
def isBareKeyChar (c : Char) : Bool :=
  ('a' ≤ c && c ≤ 'z') || ('A' ≤ c && c ≤ 'Z') || isDigit c || c == '_' || c == '-'

/-- Read one part of a key. -/
def simpleKey? (text : List Char) : Option (List Char × List Char) :=
  match text with
  | '"' :: rest => basicString? (rest.length + 1) rest
  | '\'' :: rest => literalString? rest
  | _ =>
    match text.span isBareKeyChar with
    | ([], _) => none
    | (key, rest) => some (key, rest)

/-- Read a key: parts with dots between them, and blanks around each. -/
def keyParts? : Nat → List Char → Option (List String × List Char)
  | 0, _ => none
  | steps + 1, text =>
    match simpleKey? (skipBlanks text) with
    | none => none
    | some (part, rest) =>
      match skipBlanks rest with
      | '.' :: rest =>
        (keyParts? steps rest).map fun read => (String.ofList part :: read.1, read.2)
      | rest => some ([String.ofList part], rest)

/-- Read a key: the path before its last part, and that part. -/
def key? (text : List Char) : Option (List String × String × List Char) :=
  match keyParts? (text.length + 1) text with
  | none => none
  | some (parts, rest) =>
    if depthLimit ≤ parts.length then none
    else parts.getLast?.map fun last => (parts.dropLast, last, rest)

/-- Drop a comment; the text begins after its sign. -/
def skipComment (text : List Char) : List Char := text.dropWhile isPrintable

/-- Drop blanks, line breaks and comments between the items of an array.  A
comment has to end with a line break. -/
def skipGap? : Nat → List Char → Option (List Char)
  | 0, _ => none
  | steps + 1, text =>
    match skipBlanks text with
    | '#' :: rest =>
      match lineBreak? (skipComment rest) with
      | some rest => skipGap? steps rest
      | none => none
    | rest =>
      match lineBreak? rest with
      | some rest => skipGap? steps rest
      | none => some rest

mutual

/-- Read a value that stands inside `depth` others. -/
def value? : Nat → Nat → List Char → Option (Toml × List Char)
  | 0, _, _ => none
  | steps + 1, depth, text =>
    match text with
    | [] => none
    | '[' :: rest =>
      if depthLimit ≤ depth + 1 then none
      else (items? steps (depth + 1) rest).map fun read => (.array read.1, read.2)
    | '\x7b' :: rest =>
      if depthLimit ≤ depth + 1 then none
      else
        match skipBlanks rest with
        | '\x7d' :: rest => some (.table [], rest)
        | _ =>
          match pairs? steps (depth + 1) rest with
          | none => none
          | some (pairs, rest) => (inlineTable? pairs).map fun v => (v, rest)
    | c :: _ =>
      if c == '"' || c == '\'' then
        (string? text).map fun read => (.string (String.ofList read.1), read.2)
      else if c == 't' || c == 'f' then boolean? text
      else numeric? text

/-- Read the items of an array and its closing bracket.  A comma may stand
before the bracket. -/
def items? : Nat → Nat → List Char → Option (List Toml × List Char)
  | 0, _, _ => none
  | steps + 1, depth, text =>
    match skipGap? (text.length + 1) text with
    | none => none
    | some (']' :: rest) => some ([], rest)
    | some rest =>
      match value? steps depth rest with
      | none => none
      | some (item, rest) =>
        match skipGap? (rest.length + 1) rest with
        | some (']' :: rest) => some ([item], rest)
        | some (',' :: rest) =>
          (items? steps depth rest).map fun read => (item :: read.1, read.2)
        | _ => none

/-- Read the pairs of an inline table and its closing brace, all on one line. -/
def pairs? : Nat → Nat → List Char →
    Option (List (List String × String × Toml) × List Char)
  | 0, _, _ => none
  | steps + 1, depth, text =>
    match key? text with
    | some (path, key, '=' :: rest) =>
      match value? steps depth (skipBlanks rest) with
      | none => none
      | some (value, rest) =>
        match skipBlanks rest with
        | '\x7d' :: rest => some ([(path, key, value)], rest)
        | ',' :: rest =>
          (pairs? steps depth rest).map fun read => ((path, key, value) :: read.1, read.2)
        | _ => none
    | _ => none

end

/-- A statement. -/
inductive Statement
  /-- A key with a value. -/
  | define (path : List String) (key : String) (value : Toml)
  /-- A header that names a table. -/
  | table (path : List String) (key : String)
  /-- A header that adds a table to an array. -/
  | element (path : List String) (key : String)

/-- Read the end of a line, or of the text. -/
def lineEnd? (text : List Char) : Option (List Char) :=
  let rest :=
    match skipBlanks text with
    | '#' :: rest => skipComment rest
    | rest => rest
  if rest.isEmpty then some [] else lineBreak? rest

/-- Read a statement, without the end of its line. -/
def statement? (text : List Char) : Option (Statement × List Char) :=
  match text with
  | '[' :: '[' :: rest =>
    match key? rest with
    | some (path, key, ']' :: ']' :: rest) => some (.element path key, rest)
    | _ => none
  | '[' :: rest =>
    match key? rest with
    | some (path, key, ']' :: rest) => some (.table path key, rest)
    | _ => none
  | _ =>
    match key? text with
    | some (path, key, '=' :: rest) =>
      (value? (rest.length + 1) 0 (skipBlanks rest)).map fun read =>
        (.define path key read.1, read.2)
    | _ => none

/-- A document that grows: its tables, and the path of the last header. -/
structure Growing where
  /-- The tables so far. -/
  document : Table
  /-- The table that keys without a header of their own belong to. -/
  header : List String

/-- Take in a statement. -/
def Growing.add? (state : Growing) : Statement → Option Growing
  | .define path key value =>
    (Table.within? state.header (Table.define? path key value) state.document).map
      fun document => { state with document := document }
  | .table path key =>
    (Table.within? path (Table.begin? key) state.document).map
      fun document => ⟨document, path ++ [key]⟩
  | .element path key =>
    (Table.within? path (Table.beginElement? key) state.document).map
      fun document => ⟨document, path ++ [key]⟩

/-- Read statements to the end of the text. -/
def statements? : Nat → Growing → List Char → Option Growing
  | 0, _, _ => none
  | steps + 1, state, text =>
    match skipBlanks text with
    | [] => some state
    | rest =>
      match lineEnd? rest with
      | some rest => statements? steps state rest
      | none =>
        match statement? rest with
        | none => none
        | some (statement, rest) =>
          match state.add? statement, lineEnd? rest with
          | some state, some rest => statements? steps state rest
          | _, _ => none

/-- A mark of the byte order in front of a text is dropped. -/
def dropByteOrderMark (text : List Char) : List Char :=
  match text with
  | '\ufeff' :: rest => rest
  | _ => text

/-- The entries of a document. -/
def ofText? (text : List Char) : Option (List (String × Toml)) :=
  (statements? (text.length + 1) ⟨Table.empty, []⟩ (dropByteOrderMark text)).map
    fun state => state.document.finish

end Toml

end Polyglot
