/-
# Bracketed classes in a written pattern

A class in brackets is a union of characters, ranges, named sets and further
brackets.  Unions are joined by the operators `&&`, `--` and `~~`, which all bind
equally and to the left.
-/

import Polyglot.Pattern.Escape

namespace Polyglot

namespace Pattern

/-- A set written inside brackets, with the depth at which brackets, unions and
operators nest in its text. -/
structure ClassPart where
  /-- The set. -/
  set : CharSet
  /-- The nesting. -/
  height : Nat

/-- How two unions are combined. -/
inductive ClassOp
  /-- What both hold. -/
  | inter
  /-- What the first holds and the second does not. -/
  | diff
  /-- What exactly one holds. -/
  | symmDiff
  deriving DecidableEq, Repr

namespace ClassPart

/-- One set without structure. -/
def leaf (s : CharSet) : ClassPart := ⟨s, 0⟩

/-- The union of the parts between two operators. -/
def union (parts : List ClassPart) : ClassPart :=
  match parts with
  | [] => leaf .empty
  | [part] => part
  | _ =>
    ⟨.unions (parts.map set), parts.foldl (fun height part => max height part.height) 0 + 1⟩

/-- The set as it enters an operation. -/
def operand (flags : Flags) (part : ClassPart) : CharSet :=
  if !flags.ignoreCase then part.set
  else if flags.unicode then .caseClosure part.set
  else .asciiCaseClosure part.set

/-- Combine the union read last with what stands to the left of it. -/
def combine (flags : Flags) (left : Option (ClassOp × ClassPart)) (right : ClassPart) :
    ClassPart :=
  match left with
  | none => right
  | some (op, left) =>
    let s := left.operand flags
    let t := right.operand flags
    let set : CharSet :=
      match op with
      | .inter => .inter s t
      | .diff => .diff s t
      | .symmDiff => .symmDiff s t
    ⟨set, max left.height right.height + 1⟩

/-- Close a bracket around a part. -/
def close? (flags : Flags) (negated : Bool) (part : ClassPart) : Option ClassPart :=
  (closeSet? flags negated part.set).map fun s => ⟨s, part.height + 1⟩

end ClassPart

/-- The ASCII classes with names between colons. -/
def asciiClass? (name : String) : Option CharSet :=
  let letters : CharSet := .union (.range 0x41 0x5a) (.range 0x61 0x7a)
  let digits : CharSet := .range 0x30 0x39
  match name with
  | "alnum" => some (.union letters digits)
  | "alpha" => some letters
  | "ascii" => some .ascii
  | "blank" => some (.union (.single '\t') (.single ' '))
  | "cntrl" => some (.union (.range 0 0x1f) (.single '\x7f'))
  | "digit" => some digits
  | "graph" => some (.range 0x21 0x7e)
  | "lower" => some (.range 0x61 0x7a)
  | "print" => some (.range 0x20 0x7e)
  | "punct" =>
    some (.unions [.range 0x21 0x2f, .range 0x3a 0x40, .range 0x5b 0x60, .range 0x7b 0x7e])
  | "space" => some (.union (.range 0x09 0x0d) (.single ' '))
  | "upper" => some (.range 0x41 0x5a)
  | "word" => some (.unions [letters, digits, .single '_'])
  | "xdigit" => some (.unions [digits, .range 0x41 0x46, .range 0x61 0x66])
  | _ => none

/-- Read a class named between colons; the text begins after its bracket.
Anything else is left for the reader of brackets. -/
def colonClass? (text : List Char) : Option (Bool × CharSet × List Char) :=
  match text with
  | ':' :: rest =>
    let negated := rest.head? == some '^'
    let body := if negated then rest.drop 1 else rest
    match body.span (· != ':') with
    | (name, ':' :: ']' :: rest) =>
      (asciiClass? (String.ofList name)).map fun s => (negated, s, rest)
    | _ => none
  | _ => none

/-- One thing inside brackets, before it is known whether it begins a range. -/
inductive ClassAtom
  /-- A character, which may begin or end a range. -/
  | char (c : Char)
  /-- A set. -/
  | set (s : CharSet)

/-- Read one character or escape.  Assertions have no place in brackets. -/
def classAtom? (flags : Flags) (text : List Char) : Option (ClassAtom × List Char) :=
  match text with
  | [] => none
  | '\\' :: rest =>
    match escape? flags rest with
    | some (.literal c, rest) => some (.char c, rest)
    | some (.set s, rest) => some (.set s, rest)
    | some (.look _, _) => none
    | none => none
  | c :: rest => some (.char c, rest)

/-- Without the `u` flag a class holds ASCII only. -/
def isClassChar (flags : Flags) (c : Char) : Bool :=
  flags.unicode || Unicode.isAscii c.toNat

/-- The character after a hyphen, looking past blanks, and past the sign of a
comment, if the flags let a pattern contain them. -/
def afterHyphen? (flags : Flags) (rest : List Char) : Option Char :=
  if flags.extended then
    match rest.dropWhile isBlank with
    | '#' :: more =>
      match more.dropWhile isBlank with
      | [] => rest.head?
      | c :: _ => some c
    | [] => rest.head?
    | c :: _ => some c
  else
    rest.head?

/-- Read a range, or a single part.  A hyphen before a closing bracket or before
another hyphen makes no range. -/
def classRange? (flags : Flags) (text : List Char) : Option (ClassPart × List Char) := do
  let (first, rest) ← classAtom? flags text
  let single : Option ClassPart :=
    match first with
    | .char c => if isClassChar flags c then some (.leaf (.single c)) else none
    | .set s => some (.leaf s)
  match skipBlanks flags rest with
  | [] => none
  | '-' :: more =>
    let next := afterHyphen? flags more
    if next == some ']' || next == some '-' then
      let part ← single
      some (part, '-' :: more)
    else
      let (last, rest) ← classAtom? flags (skipBlanks flags more)
      match first, last with
      | .char low, .char high =>
        if low ≤ high && isClassChar flags low && isClassChar flags high then
          some (.leaf (.range low.toNat high.toNat), rest)
        else
          none
      | _, _ => none
  | rest =>
    let part ← single
    some (part, rest)

/-- The hyphens that stand for themselves because nothing precedes them. -/
def leadingHyphens : Flags → Nat → List Char → Nat × List Char
  | _, 0, text => (0, text)
  | flags, steps + 1, text =>
    match text with
    | '-' :: rest =>
      let (count, rest) := leadingHyphens flags steps (skipBlanks flags rest)
      (count + 1, rest)
    | _ => (0, text)

/-- Read the opening of a class, after its bracket: whether it is negated, and
the characters that stand for themselves because they come first. -/
def openClass (flags : Flags) (text : List Char) : Bool × List ClassPart × List Char :=
  let text := skipBlanks flags text
  let negated := text.head? == some '^'
  let text := if negated then skipBlanks flags (text.drop 1) else text
  let (count, rest) := leadingHyphens flags text.length text
  match count, rest with
  | 0, ']' :: rest => (negated, [.leaf (.single ']')], skipBlanks flags rest)
  | _, _ => (negated, List.replicate count (.leaf (.single '-')), rest)

/-- Read the inside of a class up to its closing bracket.  `left` is what an
operator has taken already, and `parts` what was read since, backwards.  The
first argument bounds the steps. -/
def classBody? (flags : Flags) : Nat → Option (ClassOp × ClassPart) → List ClassPart →
    List Char → Option (ClassPart × List Char)
  | 0, _, _, _ => none
  | steps + 1, left, parts, text =>
    let soFar : ClassPart := ClassPart.combine flags left (ClassPart.union parts.reverse)
    match skipBlanks flags text with
    | [] => none
    | ']' :: rest => some (soFar, rest)
    | '&' :: '&' :: rest => classBody? flags steps (some (.inter, soFar)) [] rest
    | '-' :: '-' :: rest => classBody? flags steps (some (.diff, soFar)) [] rest
    | '~' :: '~' :: rest => classBody? flags steps (some (.symmDiff, soFar)) [] rest
    | '[' :: rest =>
      match colonClass? rest with
      | some (negated, s, rest) =>
        match closeSet? flags negated s with
        | some s => classBody? flags steps left (.leaf s :: parts) rest
        | none => none
      | none =>
        let (negated, first, rest) := openClass flags rest
        match classBody? flags steps none first.reverse rest with
        | some (inner, rest) =>
          match inner.close? flags negated with
          | some part => classBody? flags steps left (part :: parts) rest
          | none => none
        | none => none
    | text =>
      match classRange? flags text with
      | some (part, rest) => classBody? flags steps left (part :: parts) rest
      | none => none

/-- Read a class, after its opening bracket. -/
def class? (flags : Flags) (text : List Char) : Option (ClassPart × List Char) := do
  let (negated, first, rest) := openClass flags text
  let (inner, rest) ← classBody? flags (rest.length + 1) none first.reverse rest
  let part ← inner.close? flags negated
  some (part, rest)

end Pattern

end Polyglot
