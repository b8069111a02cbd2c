/-
# The texts of JSON values

Which texts write a value is said here without the reader: literals, numbers and strings
with their escapes, and arrays and objects of such texts with white space between the
tokens.  A value has many texts.

The reader takes such a text for the value that it writes, and stops right behind it,
whatever stands inside.
-/

import Mathlib.Data.List.Basic
import Mathlib.Data.List.TakeDrop
import Polyglot.Proofs.Json.RoundTrip

namespace Polyglot

namespace Json

/-! ## Tokens -/

/-- White space: blanks, tabs and line breaks. -/
def IsWhite (text : List Char) : Prop :=
  ∀ c ∈ text, c = ' ' ∨ c = '\n' ∨ c = '\t' ∨ c = '\r'

/-- Decimal digits, at least one. -/
def IsDigits (text : List Char) : Prop :=
  text ≠ [] ∧ ∀ c ∈ text, isDigit c = true

/-- The whole parts of numbers: no zero stands in front of other digits. -/
inductive IsWhole : List Char → Prop
  | zero : IsWhole ['0']
  | digits {text : List Char} (hdigits : IsDigits text) (hzero : text.head? ≠ some '0') :
      IsWhole text

/-- The fractions of numbers, which may be missing. -/
inductive IsFraction : List Char → Prop
  | none : IsFraction []
  | places {text : List Char} (hdigits : IsDigits text) : IsFraction ('.' :: text)

/-- The exponents of numbers, which may be missing, as may their signs. -/
inductive IsExponent : List Char → Prop
  | none : IsExponent []
  | plain {mark : Char} {text : List Char} (hmark : mark = 'e' ∨ mark = 'E')
      (hdigits : IsDigits text) : IsExponent (mark :: text)
  | signed {mark sign : Char} {text : List Char} (hmark : mark = 'e' ∨ mark = 'E')
      (hsign : sign = '+' ∨ sign = '-') (hdigits : IsDigits text) :
      IsExponent (mark :: sign :: text)

/-- The texts of numbers. -/
inductive IsNumber : List Char → Prop
  | positive {whole fraction exponent : List Char} (hwhole : IsWhole whole)
      (hfraction : IsFraction fraction) (hexponent : IsExponent exponent) :
      IsNumber (whole ++ fraction ++ exponent)
  | negative {whole fraction exponent : List Char} (hwhole : IsWhole whole)
      (hfraction : IsFraction fraction) (hexponent : IsExponent exponent) :
      IsNumber ('-' :: (whole ++ fraction ++ exponent))

/-- The characters that a letter behind a backslash stands for. -/
def escapes : List (Char × Char) :=
  [('"', '"'), ('\\', '\\'), ('/', '/'), ('b', '\x08'), ('f', '\x0c'), ('n', '\n'),
    ('r', '\r'), ('t', '\t')]

/-- The texts of strings, without their quotes.  A character is written as it is, by a
letter, or by its number; one with a large number by two halves.  A half that is not
joined to another stands for itself. -/
inductive IsStringText : List JsonUnit → List Char → Prop
  | nil : IsStringText [] []
  | plain {c : Char} {units : List JsonUnit} {text : List Char} (hquote : c ≠ '"')
      (hbackslash : c ≠ '\\') (hcontrol : 0x20 ≤ c.toNat) (others : IsStringText units text) :
      IsStringText (.char c :: units) (c :: text)
  | letter {l c : Char} {units : List JsonUnit} {text : List Char} (hescape : (l, c) ∈ escapes)
      (others : IsStringText units text) : IsStringText (.char c :: units) ('\\' :: l :: text)
  | number {a b c d : Char} {n : Nat} {units : List JsonUnit} {text : List Char}
      (hnumber : hexNumber? a b c d = some n) (hscalar : n < 0xd800 ∨ 0xdfff < n)
      (others : IsStringText units text) :
      IsStringText (.char (Char.ofNat n) :: units) ('\\' :: 'u' :: a :: b :: c :: d :: text)
  | pair {a b c d a' b' c' d' : Char} {high low : Nat} {units : List JsonUnit}
      {text : List Char} (hhigh : hexNumber? a b c d = some high)
      (hlow : hexNumber? a' b' c' d' = some low) (high_le : 0xd800 ≤ high)
      (le_high : high ≤ 0xdbff) (low_le : 0xdc00 ≤ low) (le_low : low ≤ 0xdfff)
      (others : IsStringText units text) :
      IsStringText
        (.char (Char.ofNat (0x10000 + (high - 0xd800) * 0x400 + (low - 0xdc00))) :: units)
        ('\\' :: 'u' :: a :: b :: c :: d :: '\\' :: 'u' :: a' :: b' :: c' :: d' :: text)
  | high {a b c d : Char} {n : Nat} {units : List JsonUnit} {text : List Char}
      (hnumber : hexNumber? a b c d = some n) (high_le : 0xd800 ≤ n) (le_high : n ≤ 0xdbff)
      (halone : ∀ low, units.head? = some (.surrogate low) → isLowSurrogate low = false)
      (others : IsStringText units text) :
      IsStringText (.surrogate n :: units) ('\\' :: 'u' :: a :: b :: c :: d :: text)
  | low {a b c d : Char} {n : Nat} {units : List JsonUnit} {text : List Char}
      (hnumber : hexNumber? a b c d = some n) (low_le : 0xdc00 ≤ n) (le_low : n ≤ 0xdfff)
      (others : IsStringText units text) :
      IsStringText (.surrogate n :: units) ('\\' :: 'u' :: a :: b :: c :: d :: text)

/-! ## Values -/

/-- A value in its place: its text, with white space around. -/
structure Placed where
  /-- The value. -/
  value : Json
  /-- The white space in front of it. -/
  before : List Char
  /-- The text of the value. -/
  core : List Char
  /-- The white space behind it. -/
  after : List Char

/-- The text of a value in its place. -/
def Placed.text (placed : Placed) : List Char := placed.before ++ placed.core ++ placed.after

/-- A member of an object in its place. -/
structure PlacedMember where
  /-- The name. -/
  name : List JsonUnit
  /-- The white space in front of the name. -/
  before : List Char
  /-- The text of the name, without quotes. -/
  core : List Char
  /-- The white space between the name and the colon. -/
  after : List Char
  /-- The value, behind the colon. -/
  item : Placed

/-- The text of a member in its place. -/
def PlacedMember.text (member : PlacedMember) : List Char :=
  member.before ++ '"' :: member.core ++ '"' :: member.after ++ ':' :: member.item.text

/-- The member without its text. -/
def PlacedMember.member (member : PlacedMember) : List JsonUnit × Json :=
  (member.name, member.item.value)

/-- Texts with commas between them. -/
def commaSeparated : List (List Char) → List Char
  | [] => []
  | [text] => text
  | text :: rest => text ++ ',' :: commaSeparated rest

/-- Nothing but white space stands around the value. -/
def Placed.IsSpaced (placed : Placed) : Prop := IsWhite placed.before ∧ IsWhite placed.after

/-- Nothing but white space stands around the name and the value. -/
def PlacedMember.IsSpaced (member : PlacedMember) : Prop :=
  IsWhite member.before ∧ IsWhite member.after ∧ member.item.IsSpaced

/-- The texts of values, without white space around them. -/
inductive Spells : Json → List Char → Prop
  | nullWord : Spells .null ['n', 'u', 'l', 'l']
  | trueWord : Spells (.bool true) ['t', 'r', 'u', 'e']
  | falseWord : Spells (.bool false) ['f', 'a', 'l', 's', 'e']
  | number {literal : List Char} (hnumber : IsNumber literal) : Spells (.number literal) literal
  | string {units : List JsonUnit} {text : List Char} (hstring : IsStringText units text) :
      Spells (.string units) ('"' :: text ++ ['"'])
  | emptyArray {white : List Char} (hwhite : IsWhite white) :
      Spells (.array []) ('[' :: white ++ [']'])
  | array {items : List Placed} (hne : items ≠ []) (hspaced : ∀ item ∈ items, item.IsSpaced)
      (hitems : ∀ item ∈ items, Spells item.value item.core) :
      Spells (.array (items.map Placed.value))
        ('[' :: commaSeparated (items.map Placed.text) ++ [']'])
  | emptyObject {white : List Char} (hwhite : IsWhite white) :
      Spells (.object []) ('\x7b' :: white ++ ['\x7d'])
  | object {members : List PlacedMember} (hne : members ≠ [])
      (hspaced : ∀ member ∈ members, member.IsSpaced)
      (hnames : ∀ member ∈ members, IsStringText member.name member.core)
      (hvalues : ∀ member ∈ members, Spells member.item.value member.item.core) :
      Spells (.object (members.map PlacedMember.member))
        ('\x7b' :: commaSeparated (members.map PlacedMember.text) ++ ['\x7d'])

/-- The whole texts that write a value: white space around it is allowed. -/
def Writes (value : Json) (text : List Char) : Prop :=
  ∃ before core after, text = before ++ core ++ after ∧ IsWhite before ∧ IsWhite after ∧
    Spells value core

/-! ## Reading strings -/

theorem IsWhite.isSpace_of_mem {text : List Char} (white : IsWhite text) {c : Char}
    (hmem : c ∈ text) : isSpace c = true := by
  rcases white c hmem with rfl | rfl | rfl | rfl <;> rfl

/-- White space is skipped. -/
theorem IsWhite.skipSpace_append {white : List Char} (hwhite : IsWhite white)
    (text : List Char) : skipSpace (white ++ text) = skipSpace text :=
  List.dropWhile_append_of_pos fun _ hmem => hwhite.isSpace_of_mem hmem

theorem IsWhite.skipSpace_append_cons {white : List Char} (hwhite : IsWhite white) (c : Char)
    (hc : isSpace c = false) (text : List Char) : skipSpace (white ++ c :: text) = c :: text := by
  rw [hwhite.skipSpace_append, skipSpace_cons hc]

theorem letterEscape?_of_mem {l c : Char} (hescape : (l, c) ∈ escapes) :
    letterEscape? l = some c ∧ l ≠ 'u' := by
  have hall : ∀ escape ∈ escapes, letterEscape? escape.1 = some escape.2 ∧ escape.1 ≠ 'u' := by
    decide
  exact hall (l, c) hescape

theorem prependNumber_of_low {n : Nat} (low_le : 0xdc00 ≤ n) (le_low : n ≤ 0xdfff)
    (units : List JsonUnit) : prependNumber n units = .surrogate n :: units := by
  have hhigh : isHighSurrogate n = false := by simp [isHighSurrogate]; omega
  have hlow : isLowSurrogate n = true := by simp [isLowSurrogate]; omega
  simp only [prependNumber, hhigh, hlow, if_neg Bool.false_ne_true, if_true]

theorem prependNumber_of_pair {high low : Nat} (high_le : 0xd800 ≤ high) (le_high : high ≤ 0xdbff)
    (low_le : 0xdc00 ≤ low) (le_low : low ≤ 0xdfff) (units : List JsonUnit) :
    prependNumber high (.surrogate low :: units) =
      .char (Char.ofNat (0x10000 + (high - 0xd800) * 0x400 + (low - 0xdc00))) :: units := by
  have hhigh : isHighSurrogate high = true := by simp [isHighSurrogate]; omega
  have hlow : isLowSurrogate low = true := by simp [isLowSurrogate]; omega
  simp only [prependNumber, hhigh, hlow, if_true]

theorem prependNumber_of_high {n : Nat} (high_le : 0xd800 ≤ n) (le_high : n ≤ 0xdbff)
    {units : List JsonUnit}
    (halone : ∀ low, units.head? = some (.surrogate low) → isLowSurrogate low = false) :
    prependNumber n units = .surrogate n :: units := by
  have hhigh : isHighSurrogate n = true := by simp [isHighSurrogate]; omega
  rcases units with _ | ⟨_ | low, rest⟩
  · simp only [prependNumber, hhigh, if_true]
  · simp only [prependNumber, hhigh, if_true]
  · simp only [prependNumber, hhigh, if_true, halone low rfl, if_neg Bool.false_ne_true]

/-- A text of a string is read up to the closing quote. -/
theorem string?_of_isStringText {units : List JsonUnit} {text : List Char}
    (hstring : IsStringText units text) (rest : List Char) :
    string? (text ++ '"' :: rest) = some (units, rest) := by
  induction hstring with
  | nil => rfl
  | plain _ hbackslash hcontrol _ ih => simp [string?, hbackslash, hcontrol, ih]
  | letter hescape _ ih =>
      obtain ⟨hletter, hu⟩ := letterEscape?_of_mem hescape
      simp [string?, hletter, hu, ih]
  | number hnumber hscalar _ ih =>
      simp [string?, hnumber, ih, prependNumber_of_scalar hscalar]
  | pair hhigh hlow high_le le_high low_le le_low _ ih =>
      simp [string?, hhigh, hlow, ih, prependNumber_of_low low_le le_low,
        prependNumber_of_pair high_le le_high low_le le_low]
  | high hnumber high_le le_high halone _ ih =>
      simp [string?, hnumber, ih, prependNumber_of_high high_le le_high halone]
  | low hnumber low_le le_low _ ih =>
      simp [string?, hnumber, ih, prependNumber_of_low low_le le_low]

/-! ## Reading numbers -/

/-- What may stand behind a value: white space, or what goes on with the value around it. -/
def EndsToken : List Char → Prop
  | [] => True
  | c :: _ => isSpace c = true ∨ c = ',' ∨ c = ']' ∨ c = '\x7d'

/-- Digits end where a text goes on with something else. -/
def EndsDigits (text : List Char) : Prop := ∀ c, text.head? = some c → isDigit c = false

theorem EndsDigits.cons {c : Char} (hdigit : isDigit c = false) (text : List Char) :
    EndsDigits (c :: text) := by
  intro other hother
  rwa [← Option.some.inj hother]

theorem EndsToken.endsDigits {rest : List Char} (ends : EndsToken rest) : EndsDigits rest := by
  cases rest with
  | nil => exact fun c hc => nomatch hc
  | cons c rest =>
      apply EndsDigits.cons
      rcases ends with hspace | rfl | rfl | rfl
      · rw [← Bool.not_eq_true]
        intro hdigit
        rw [isSpace_of_number (Or.inl hdigit)] at hspace
        contradiction
      all_goals rfl

theorem EndsToken.fraction?_eq {rest : List Char} (ends : EndsToken rest) :
    fraction? rest = some ([], rest) := by
  cases rest with
  | nil => rfl
  | cons c rest =>
      have hpoint : c ≠ '.' := by
        rintro rfl
        exact absurd ends (by simp [EndsToken, isSpace])
      simp [fraction?, hpoint]

theorem EndsToken.exponent?_eq {rest : List Char} (ends : EndsToken rest) :
    exponent? rest = some ([], rest) := by
  cases rest with
  | nil => rfl
  | cons c rest =>
      have hmark : c ≠ 'e' ∧ c ≠ 'E' := by
        constructor <;> rintro rfl <;> exact absurd ends (by simp [EndsToken, isSpace])
      simp [exponent?, hmark]

/-- Digits are read up to their end. -/
theorem digits?_append {digits rest : List Char} (hdigits : IsDigits digits)
    (ends : EndsDigits rest) : digits? (digits ++ rest) = some (digits, rest) := by
  have hspan : (digits ++ rest).span isDigit = (digits, rest) := by
    rw [List.span_eq_takeWhile_dropWhile, List.takeWhile_append_of_pos hdigits.2,
      List.dropWhile_append_of_pos hdigits.2]
    cases rest with
    | nil => simp
    | cons c rest => simp [ends c rfl]
  obtain ⟨d, others, rfl⟩ := List.exists_cons_of_ne_nil hdigits.1
  rw [digits?, hspan]

theorem wholePart?_append {whole rest : List Char} (hwhole : IsWhole whole)
    (ends : EndsDigits rest) : wholePart? (whole ++ rest) = some (whole, rest) := by
  cases hwhole with
  | zero =>
      cases rest with
      | nil => rfl
      | cons c rest => simp [wholePart?, ends c rfl]
  | digits hdigits hzero =>
      have hread := digits?_append hdigits ends
      obtain ⟨d, others, rfl⟩ := List.exists_cons_of_ne_nil hdigits.1
      have hfirst : d ≠ '0' := fun heq => hzero (congrArg some heq)
      rw [← hread]
      simp [wholePart?, hfirst]

theorem fraction?_append {fraction rest : List Char} (hfraction : IsFraction fraction)
    (hrest : fraction? rest = some ([], rest)) (ends : EndsDigits rest) :
    fraction? (fraction ++ rest) = some (fraction, rest) := by
  cases hfraction with
  | none => exact hrest
  | places hdigits => simp [fraction?, digits?_append hdigits ends]

theorem exponent?_append {exponent rest : List Char} (hexponent : IsExponent exponent)
    (ends : EndsToken rest) : exponent? (exponent ++ rest) = some (exponent, rest) := by
  cases hexponent with
  | none => exact ends.exponent?_eq
  | @plain mark text hmark hdigits =>
      have hread := digits?_append hdigits ends.endsDigits
      obtain ⟨d, others, rfl⟩ := List.exists_cons_of_ne_nil hdigits.1
      have hsign : d ≠ '+' ∧ d ≠ '-' := by
        have hdigit := hdigits.2 d List.mem_cons_self
        constructor <;> rintro rfl <;> exact absurd hdigit (by decide)
      rw [List.cons_append] at hread
      simp [exponent?, hmark, hsign, hread]
  | signed hmark hsign hdigits =>
      simp [exponent?, hmark, hsign, digits?_append hdigits ends.endsDigits]

theorem IsExponent.fraction?_append {exponent rest : List Char} (hexponent : IsExponent exponent)
    (ends : EndsToken rest) : fraction? (exponent ++ rest) = some ([], exponent ++ rest) := by
  cases hexponent with
  | none => exact ends.fraction?_eq
  | plain hmark _ => rcases hmark with rfl | rfl <;> rfl
  | signed hmark _ _ => rcases hmark with rfl | rfl <;> rfl

theorem IsExponent.endsDigits_append {exponent rest : List Char} (hexponent : IsExponent exponent)
    (ends : EndsToken rest) : EndsDigits (exponent ++ rest) := by
  cases hexponent with
  | none => exact ends.endsDigits
  | plain hmark _ => rcases hmark with rfl | rfl <;> exact EndsDigits.cons rfl _
  | signed hmark _ _ => rcases hmark with rfl | rfl <;> exact EndsDigits.cons rfl _

theorem IsFraction.endsDigits_append {fraction rest : List Char} (hfraction : IsFraction fraction)
    (ends : EndsDigits rest) : EndsDigits (fraction ++ rest) := by
  cases hfraction with
  | none => exact ends
  | places _ => exact EndsDigits.cons rfl _

theorem IsWhole.exists_eq_cons {whole : List Char} (hwhole : IsWhole whole) :
    ∃ d digits, whole = d :: digits ∧ isDigit d = true := by
  cases hwhole with
  | zero => exact ⟨'0', [], rfl, rfl⟩
  | digits hdigits _ =>
      obtain ⟨d, others, rfl⟩ := List.exists_cons_of_ne_nil hdigits.1
      exact ⟨d, others, rfl, hdigits.2 d List.mem_cons_self⟩

/-- A text of a number is read up to its end. -/
theorem number?_append {literal rest : List Char} (hnumber : IsNumber literal)
    (ends : EndsToken rest) : number? (literal ++ rest) = some (literal, rest) := by
  -- Each part is read in front of the parts behind it.
  cases hnumber with
  | @positive whole fraction exponent hwhole hfraction hexponent =>
      have hbehind := hexponent.endsDigits_append ends
      have hread := wholePart?_append hwhole (hfraction.endsDigits_append hbehind)
      obtain ⟨d, digits, rfl, hdigit⟩ := hwhole.exists_eq_cons
      have hsign : d ≠ '-' := by
        rintro rfl
        exact absurd hdigit (by decide)
      rw [List.cons_append] at hread
      simp [number?, hsign, hread, hexponent.fraction?_append ends, hbehind,
        fraction?_append hfraction, exponent?_append hexponent ends]
  | @negative whole fraction exponent hwhole hfraction hexponent =>
      have hbehind := hexponent.endsDigits_append ends
      have hread := wholePart?_append hwhole (hfraction.endsDigits_append hbehind)
      simp [number?, hread, hexponent.fraction?_append ends, hbehind,
        fraction?_append hfraction, exponent?_append hexponent ends]

theorem IsNumber.exists_eq_cons {literal : List Char} (hnumber : IsNumber literal) :
    ∃ c text, literal = c :: text ∧ (isDigit c = true ∨ c = '-') := by
  cases hnumber with
  | positive hwhole _ _ =>
      obtain ⟨d, digits, rfl, hdigit⟩ := hwhole.exists_eq_cons
      exact ⟨d, _, rfl, Or.inl hdigit⟩
  | negative _ _ _ => exact ⟨'-', _, rfl, Or.inr rfl⟩

/-! ## Reading values -/

/-- No value begins with white space or with the end of an array. -/
theorem Spells.exists_eq_cons {value : Json} {text : List Char} (spells : Spells value text) :
    ∃ c rest, text = c :: rest ∧ isSpace c = false ∧ c ≠ ']' := by
  cases spells with
  | number hnumber =>
      obtain ⟨c, rest, rfl, hc⟩ := hnumber.exists_eq_cons
      refine ⟨c, rest, rfl, isSpace_of_number hc, ?_⟩
      rintro rfl
      exact absurd hc (by decide)
  | _ => exact ⟨_, _, rfl, rfl, by decide⟩

/-- White space in front of a value is skipped. -/
theorem value?_white {white : List Char} (hwhite : IsWhite white) (steps : Nat)
    (text : List Char) : value? steps (white ++ text) = value? steps text := by
  cases steps with
  | zero => rfl
  | succ steps => rw [value?, value?, hwhite.skipSpace_append]

theorem members?_white {white : List Char} (hwhite : IsWhite white) (steps : Nat)
    (text : List Char) : members? steps (white ++ text) = members? steps text := by
  cases steps with
  | zero => rfl
  | succ steps => rw [members?, members?, hwhite.skipSpace_append]

/-- A text is read for a value, whatever ends it. -/
def IsRead (value : Json) (text : List Char) : Prop :=
  ∀ steps rest, text.length ≤ steps → EndsToken rest →
    value? steps (text ++ rest) = some (value, rest)

theorem EndsToken.white_append {white rest : List Char} (hwhite : IsWhite white)
    (ends : EndsToken rest) : EndsToken (white ++ rest) := by
  cases white with
  | nil => exact ends
  | cons c white => exact Or.inl (hwhite.isSpace_of_mem List.mem_cons_self)

/-- A value in its place is read, and the white space behind it is left. -/
theorem Placed.value?_text {item : Placed} (hspaced : item.IsSpaced)
    (hread : IsRead item.value item.core) {steps : Nat} (hsteps : item.text.length ≤ steps)
    {rest : List Char} (ends : EndsToken rest) :
    value? steps (item.text ++ rest) = some (item.value, item.after ++ rest) := by
  have hcore : item.core.length ≤ steps := by
    rw [text, List.length_append, List.length_append] at hsteps
    omega
  rw [text, List.append_assoc, List.append_assoc, value?_white hspaced.1]
  exact hread steps (item.after ++ rest) hcore (ends.white_append hspaced.2)

theorem commaSeparated_cons {text : List Char} {texts : List (List Char)} (hne : texts ≠ []) :
    commaSeparated (text :: texts) = text ++ ',' :: commaSeparated texts := by
  cases texts with
  | nil => contradiction
  | cons next texts => rfl

/-- Items are read up to the end of their array. -/
theorem items?_commaSeparated {items : List Placed} (hne : items ≠ [])
    (hspaced : ∀ item ∈ items, item.IsSpaced)
    (hread : ∀ item ∈ items, IsRead item.value item.core) (rest : List Char) {steps : Nat}
    (hsteps : (commaSeparated (items.map Placed.text)).length < steps) :
    items? steps (commaSeparated (items.map Placed.text) ++ ']' :: rest) =
      some (items.map Placed.value, rest) := by
  induction items generalizing steps with
  | nil => contradiction
  | cons item items ih =>
      obtain ⟨steps, rfl⟩ := Nat.exists_eq_succ_of_ne_zero (Nat.ne_zero_of_lt hsteps)
      rw [List.forall_mem_cons] at hspaced hread
      by_cases hlast : items = []
      · subst hlast
        have hitem : value? steps (item.text ++ ']' :: rest) =
            some (item.value, item.after ++ ']' :: rest) :=
          Placed.value?_text hspaced.1 hread.1 (Nat.le_of_lt_succ hsteps) (by simp [EndsToken])
        rw [List.map_singleton, commaSeparated, items?, hitem]
        simp only [hspaced.1.2.skipSpace_append_cons ']' rfl]
        rfl
      · have hmap : items.map Placed.text ≠ [] := mt List.map_eq_nil_iff.mp hlast
        rw [List.map_cons, commaSeparated_cons hmap, List.length_append, List.length_cons] at hsteps
        have hothers : items? steps (commaSeparated (items.map Placed.text) ++ ']' :: rest) =
            some (items.map Placed.value, rest) := ih hlast hspaced.2 hread.2 (by omega)
        rw [List.map_cons, commaSeparated_cons hmap, List.append_assoc, List.cons_append, items?,
          Placed.value?_text hspaced.1 hread.1 (by omega) (by simp [EndsToken])]
        simp only [hspaced.1.2.skipSpace_append_cons ',' rfl, hothers, Option.map_some,
          List.map_cons]

/-- A member is read, and the white space behind its value is left. -/
theorem PlacedMember.members?_text {member : PlacedMember} (hspaced : member.IsSpaced)
    (hname : IsStringText member.name member.core)
    (hread : IsRead member.item.value member.item.core) {steps : Nat}
    (hsteps : member.text.length ≤ steps) {rest : List Char} (ends : EndsToken rest) :
    members? (steps + 1) (member.text ++ rest) =
      match skipSpace rest with
      | '\x7d' :: rest => some ([member.member], rest)
      | ',' :: rest => (members? steps rest).map fun read => (member.member :: read.1, read.2)
      | _ => none := by
  obtain ⟨hbefore, hafter, hitem⟩ := hspaced
  have hsplit : member.text ++ rest = member.before ++ '"' :: (member.core ++
      '"' :: (member.after ++ ':' :: (member.item.text ++ rest))) := by
    simp only [text, List.append_assoc, List.cons_append]
  have hlength : member.item.text.length ≤ steps := by
    simp only [text, List.length_append, List.length_cons] at hsteps
    omega
  rw [hsplit, members?_white hbefore, members?, skipSpace_cons rfl]
  simp only [string?_of_isStringText hname, hafter.skipSpace_append_cons ':' rfl,
    Placed.value?_text hitem hread hlength ends, hitem.2.skipSpace_append]
  rfl

/-- Members are read up to the end of their object. -/
theorem members?_commaSeparated {members : List PlacedMember} (hne : members ≠ [])
    (hspaced : ∀ member ∈ members, member.IsSpaced)
    (hnames : ∀ member ∈ members, IsStringText member.name member.core)
    (hread : ∀ member ∈ members, IsRead member.item.value member.item.core) (rest : List Char)
    {steps : Nat} (hsteps : (commaSeparated (members.map PlacedMember.text)).length < steps) :
    members? steps (commaSeparated (members.map PlacedMember.text) ++ '\x7d' :: rest) =
      some (members.map PlacedMember.member, rest) := by
  induction members generalizing steps with
  | nil => contradiction
  | cons member members ih =>
      obtain ⟨steps, rfl⟩ := Nat.exists_eq_succ_of_ne_zero (Nat.ne_zero_of_lt hsteps)
      rw [List.forall_mem_cons] at hspaced hnames hread
      by_cases hlast : members = []
      · subst hlast
        rw [List.map_singleton, commaSeparated, PlacedMember.members?_text hspaced.1 hnames.1
          hread.1 (Nat.le_of_lt_succ hsteps) (by simp [EndsToken]), skipSpace_cons rfl]
        rfl
      · have hmap : members.map PlacedMember.text ≠ [] := mt List.map_eq_nil_iff.mp hlast
        rw [List.map_cons, commaSeparated_cons hmap, List.length_append, List.length_cons] at hsteps
        have hothers : members? steps (commaSeparated (members.map PlacedMember.text) ++
            '\x7d' :: rest) = some (members.map PlacedMember.member, rest) :=
          ih hlast hspaced.2 hnames.2 hread.2 (by omega)
        rw [List.map_cons, commaSeparated_cons hmap, List.append_assoc, List.cons_append,
          PlacedMember.members?_text hspaced.1 hnames.1 hread.1 (by omega) (by simp [EndsToken]),
          skipSpace_cons rfl]
        simp only [hothers, Option.map_some, List.map_cons]

/-- A value begins the text of its place, behind white space. -/
theorem Placed.skipSpace_text {item : Placed} (hspaced : item.IsSpaced)
    (hspells : Spells item.value item.core) (rest : List Char) :
    ∃ c text, skipSpace (item.text ++ rest) = c :: text ∧ c ≠ ']' := by
  obtain ⟨c, others, hcons, hspace, hbracket⟩ := hspells.exists_eq_cons
  refine ⟨c, others ++ (item.after ++ rest), ?_, hbracket⟩
  rw [text, hcons, List.append_assoc, List.append_assoc, List.cons_append,
    hspaced.1.skipSpace_append_cons c hspace]

theorem exists_commaSeparated_eq_append (text : List Char) (texts : List (List Char)) :
    ∃ rest, commaSeparated (text :: texts) = text ++ rest := by
  cases texts with
  | nil => exact ⟨[], (List.append_nil text).symm⟩
  | cons next texts => exact ⟨_, rfl⟩

/-- The text of a value is read for the value. -/
theorem Spells.isRead {value : Json} {text : List Char} (spells : Spells value text) :
    IsRead value text := by
  induction spells with
  | nullWord | trueWord | falseWord =>
      intro steps rest hsteps _
      obtain ⟨steps, rfl⟩ := Nat.exists_eq_succ_of_ne_zero (Nat.ne_zero_of_lt hsteps)
      rfl
  | number hnumber =>
      intro steps rest hsteps ends
      obtain ⟨c, text, hcons, hc⟩ := hnumber.exists_eq_cons
      obtain ⟨steps, rfl⟩ : ∃ n, steps = n + 1 := by
        rw [hcons, List.length_cons] at hsteps
        exact Nat.exists_eq_succ_of_ne_zero (by omega)
      have hread := number?_append hnumber ends
      rw [hcons, List.cons_append] at hread ⊢
      rw [value?_of_number hc, hread, Option.map_some]
  | string hstring =>
      intro steps rest hsteps _
      obtain ⟨steps, rfl⟩ := Nat.exists_eq_succ_of_ne_zero (Nat.ne_zero_of_lt hsteps)
      have hread := string?_of_isStringText hstring rest
      simp [value?, skipSpace, isSpace, hread]
  | emptyArray hwhite =>
      intro steps rest hsteps _
      obtain ⟨steps, rfl⟩ := Nat.exists_eq_succ_of_ne_zero (Nat.ne_zero_of_lt hsteps)
      rw [List.cons_append, List.cons_append, List.append_assoc, List.singleton_append, value?,
        skipSpace_cons rfl]
      simp only [hwhite.skipSpace_append_cons ']' rfl]
  | emptyObject hwhite =>
      intro steps rest hsteps _
      obtain ⟨steps, rfl⟩ := Nat.exists_eq_succ_of_ne_zero (Nat.ne_zero_of_lt hsteps)
      rw [List.cons_append, List.cons_append, List.append_assoc, List.singleton_append, value?,
        skipSpace_cons rfl]
      simp only [hwhite.skipSpace_append_cons '\x7d' rfl]
  | @array items hne hspaced hitems ih =>
      intro steps rest hsteps _
      obtain ⟨steps, rfl⟩ := Nat.exists_eq_succ_of_ne_zero (Nat.ne_zero_of_lt hsteps)
      rw [List.cons_append, List.length_cons, List.length_append, List.length_singleton] at hsteps
      have hread : items? steps (commaSeparated (items.map Placed.text) ++ ']' :: rest) =
          some (items.map Placed.value, rest) :=
        items?_commaSeparated hne hspaced ih rest (by omega)
      obtain ⟨item, others, rfl⟩ := List.exists_cons_of_ne_nil hne
      obtain ⟨behind, hbehind⟩ :=
        exists_commaSeparated_eq_append item.text (others.map Placed.text)
      obtain ⟨c, text, hskip, hbracket⟩ := Placed.skipSpace_text
        (hspaced item List.mem_cons_self) (hitems item List.mem_cons_self)
        (behind ++ ']' :: rest)
      rw [List.cons_append, List.cons_append, List.append_assoc, List.singleton_append, value?,
        skipSpace_cons rfl]
      rw [List.map_cons, hbehind, List.append_assoc] at hread ⊢
      simp [hskip, hbracket, hread]
  | @object members hne hspaced hnames hvalues ih =>
      intro steps rest hsteps _
      obtain ⟨steps, rfl⟩ := Nat.exists_eq_succ_of_ne_zero (Nat.ne_zero_of_lt hsteps)
      rw [List.cons_append, List.length_cons, List.length_append, List.length_singleton] at hsteps
      have hread : members? steps (commaSeparated (members.map PlacedMember.text) ++
          '\x7d' :: rest) = some (members.map PlacedMember.member, rest) :=
        members?_commaSeparated hne hspaced hnames ih rest (by omega)
      obtain ⟨member, others, rfl⟩ := List.exists_cons_of_ne_nil hne
      obtain ⟨behind, hbehind⟩ :=
        exists_commaSeparated_eq_append member.text (others.map PlacedMember.text)
      have hskip := (hspaced member List.mem_cons_self).1.skipSpace_append_cons '"' rfl
        (member.core ++ '"' :: (member.after ++ ':' :: (member.item.text ++
          (behind ++ '\x7d' :: rest))))
      rw [List.cons_append, List.cons_append, List.append_assoc, List.singleton_append, value?,
        skipSpace_cons rfl]
      rw [List.map_cons, hbehind, List.append_assoc] at hread ⊢
      simp only [PlacedMember.text, List.append_assoc, List.cons_append] at hread hskip ⊢
      simp [hskip, hread]

/-- A text is read for the value that it writes. -/
theorem Writes.ofText?_eq {value : Json} {text : List Char} (writes : Writes value text) :
    ofText? text = some value := by
  obtain ⟨before, core, after, rfl, hbefore, hafter, hspells⟩ := writes
  have hlength : core.length ≤ (before ++ core ++ after).length + 1 := by
    simp only [List.length_append]
    omega
  have ends : EndsToken (after ++ []) := EndsToken.white_append hafter trivial
  have hrest : skipSpace (after ++ []) = [] := hafter.skipSpace_append []
  rw [List.append_nil] at ends hrest
  have hread : value? ((before ++ core ++ after).length + 1) (before ++ core ++ after) =
      some (value, after) := by
    rw [List.append_assoc, value?_white hbefore, ← List.append_assoc]
    exact hspells.isRead _ after hlength ends
  rw [ofText?, hread]
  simp [hrest]

end Json

end Polyglot
