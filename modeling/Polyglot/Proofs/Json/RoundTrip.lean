/-
# Reading what was written

A value that is made of texts and integers is read back from its compact text as
the value that was written.  So the text of such a value determines it.
-/

import Mathlib.Data.List.Basic
import Mathlib.Data.List.TakeDrop
import Polyglot.Json.Answer
import Polyglot.Json.Reader

namespace Polyglot

namespace Json

/-! ## Strings -/

theorem hexNumber?_lowerHexDigit {n : Nat} (hcontrol : n < 0x20) :
    hexNumber? (lowerHexDigit (n / 4096 % 16)) (lowerHexDigit (n / 256 % 16))
      (lowerHexDigit (n / 16 % 16)) (lowerHexDigit (n % 16)) = some n := by
  have hall : ∀ n < 0x20, hexNumber? (lowerHexDigit (n / 4096 % 16))
      (lowerHexDigit (n / 256 % 16)) (lowerHexDigit (n / 16 % 16))
      (lowerHexDigit (n % 16)) = some n := by decide
  exact hall n hcontrol

/-- A number that is no surrogate stands for a character. -/
theorem prependNumber_of_scalar {n : Nat} (hscalar : n < 0xd800 ∨ 0xdfff < n)
    (units : List JsonUnit) : prependNumber n units = .char (Char.ofNat n) :: units := by
  have hhigh : isHighSurrogate n = false := by simp [isHighSurrogate]; omega
  have hlow : isLowSurrogate n = false := by simp [isLowSurrogate]; omega
  simp only [prependNumber, hhigh, hlow, if_neg Bool.false_ne_true]

/-- The three ways to write a character: as a letter that stands for it, by its number,
or as it is. -/
theorem writeChar_cases (c : Char) :
    (∃ letter, writeChar c = ['\\', letter] ∧ letter ≠ 'u' ∧ letterEscape? letter = some c) ∨
      (writeChar c = numericEscape c.toNat ∧ c.toNat < 0x20) ∨
        (writeChar c = [c] ∧ c ≠ '"' ∧ c ≠ '\\' ∧ ¬ c.toNat < 0x20) := by
  by_cases hletter : c ∈ ['"', '\\', '\x08', '\x0c', '\n', '\r', '\t']
  · simp only [List.mem_cons, List.not_mem_nil, or_false] at hletter
    rcases hletter with rfl | rfl | rfl | rfl | rfl | rfl | rfl <;>
      exact Or.inl ⟨_, rfl, by decide, rfl⟩
  · simp only [List.mem_cons, List.not_mem_nil, or_false, not_or] at hletter
    by_cases hcontrol : c.toNat < 0x20
    · have hwrite : writeChar c = numericEscape c.toNat := by
        simp only [writeChar, hletter, hcontrol, if_true, if_false]
      exact Or.inr (Or.inl ⟨hwrite, hcontrol⟩)
    · have hwrite : writeChar c = [c] := by
        simp only [writeChar, hletter, hcontrol, if_false]
      exact Or.inr (Or.inr ⟨hwrite, hletter.1, hletter.2.1, hcontrol⟩)

/-- A character inside a string is read as it was written. -/
theorem string?_writeChar (c : Char) (text : List Char) :
    string? (writeChar c ++ text) =
      (string? text).map fun read => (.char c :: read.1, read.2) := by
  rcases writeChar_cases c with ⟨letter, hwrite, hletter, hescape⟩ | ⟨hwrite, hcontrol⟩ |
    ⟨hwrite, hquote, hbackslash, hcontrol⟩ <;> rw [hwrite]
  · simp [string?, hletter, hescape]
  · have hscalar : c.toNat < 0xd800 := Nat.lt_trans hcontrol (by decide)
    simp only [numericEscape, List.cons_append, List.nil_append, string?,
      hexNumber?_lowerHexDigit hcontrol, prependNumber_of_scalar (Or.inl hscalar),
      Char.ofNat_toNat]
  · simp [string?, hbackslash, hcontrol]

/-- A text is read up to its closing quote. -/
theorem string?_unitsOf (text : String) (rest : List Char) :
    string? ((unitsOf text).flatMap writeUnit ++ '"' :: rest) = some (unitsOf text, rest) := by
  rw [unitsOf]
  induction text.toList with
  | nil => rfl
  | cons c text ih =>
      rw [List.map_cons, List.flatMap_cons, List.append_assoc, writeUnit, string?_writeChar, ih]
      rfl

/-! ## Numbers -/

/-- What may stand behind a value in a compact text. -/
def EndsValue : List Char → Prop
  | [] => True
  | c :: _ => c = ',' ∨ c = ']' ∨ c = '\x7d'

theorem EndsValue.not_isDigit {c : Char} {rest : List Char} (ends : EndsValue (c :: rest)) :
    isDigit c = false := by
  rcases ends with rfl | rfl | rfl <;> rfl

/-- Digits are read up to the end of the value. -/
theorem span_isDigit {digits rest : List Char} (hdigits : ∀ c ∈ digits, isDigit c = true)
    (ends : EndsValue rest) : (digits ++ rest).span isDigit = (digits, rest) := by
  rw [List.span_eq_takeWhile_dropWhile, List.takeWhile_append_of_pos hdigits,
    List.dropWhile_append_of_pos hdigits]
  cases rest with
  | nil => simp
  | cons c rest => simp [ends.not_isDigit]

theorem isDigit_of_mem_toDigits {n : Nat} {c : Char} (hmem : c ∈ Nat.toDigits 10 n) :
    isDigit c = true := by
  have hdigit := Nat.isDigit_of_mem_toDigits (by decide) (by decide) hmem
  simpa [isDigit, Char.isDigit, Char.le_def] using hdigit

/-- No zero stands in front of other digits. -/
theorem head?_toDigits_ne {n : Nat} (hpos : 0 < n) : (Nat.toDigits 10 n).head? ≠ some '0' := by
  -- The first digit is that of the quotient by ten, unless there is only one.
  induction n using Nat.strongRecOn with
  | ind n ih =>
      rw [Nat.toDigits_eq_if (by decide)]
      split
      case isTrue hlt =>
        have hall : ∀ n < 10, 0 < n → [n.digitChar].head? ≠ some '0' := by decide
        exact hall n hlt hpos
      case isFalse hle =>
        have hquotient := ih (n / 10) (by omega) (by omega)
        obtain ⟨d, digits, hdigits⟩ := List.exists_cons_of_ne_nil
          (Nat.toDigits_ne_nil (n := n / 10) (b := 10))
        simpa [hdigits] using hquotient

theorem exists_toDigits_eq_cons (n : Nat) :
    ∃ d digits, Nat.toDigits 10 n = d :: digits ∧ isDigit d = true := by
  obtain ⟨d, digits, hcons⟩ := List.exists_cons_of_ne_nil
    (Nat.toDigits_ne_nil (n := n) (b := 10))
  exact ⟨d, digits, hcons, isDigit_of_mem_toDigits (hcons ▸ List.mem_cons_self)⟩

theorem exists_integerLiteral_eq_cons (n : Int) :
    ∃ c text, integerLiteral n = c :: text ∧ (isDigit c = true ∨ c = '-') := by
  cases n with
  | ofNat n =>
      obtain ⟨d, digits, hcons, hdigit⟩ := exists_toDigits_eq_cons n
      exact ⟨d, digits, hcons, Or.inl hdigit⟩
  | negSucc n => exact ⟨'-', _, rfl, Or.inr rfl⟩

/-- The whole part of a number is read up to the end of the value. -/
theorem wholePart?_toDigits (n : Nat) {rest : List Char} (ends : EndsValue rest) :
    wholePart? (Nat.toDigits 10 n ++ rest) = some (Nat.toDigits 10 n, rest) := by
  obtain ⟨d, digits, hcons, -⟩ := exists_toDigits_eq_cons n
  have hdigits : digits? (d :: digits ++ rest) = some (d :: digits, rest) := by
    rw [digits?, ← hcons, span_isDigit (fun c => isDigit_of_mem_toDigits) ends, hcons]
  rcases Nat.eq_zero_or_pos n with rfl | hpos
  · cases rest with
    | nil => rfl
    | cons c rest => simp [Nat.toDigits_zero, wholePart?, ends.not_isDigit]
  · have hzero : d ≠ '0' := by simpa [hcons] using head?_toDigits_ne hpos
    rw [hcons, ← hdigits]
    simp [wholePart?, hzero]

theorem EndsValue.fraction? {rest : List Char} (ends : EndsValue rest) :
    fraction? rest = some ([], rest) := by
  cases rest with
  | nil => rfl
  | cons c rest => rcases ends with rfl | rfl | rfl <;> rfl

theorem EndsValue.exponent? {rest : List Char} (ends : EndsValue rest) :
    exponent? rest = some ([], rest) := by
  cases rest with
  | nil => rfl
  | cons c rest => rcases ends with rfl | rfl | rfl <;> rfl

/-- An integer is read up to the end of the value. -/
theorem number?_integerLiteral (n : Int) {rest : List Char} (ends : EndsValue rest) :
    number? (integerLiteral n ++ rest) = some (integerLiteral n, rest) := by
  cases n with
  | ofNat n =>
      obtain ⟨d, digits, hcons, hdigit⟩ := exists_toDigits_eq_cons n
      have hwhole := wholePart?_toDigits n ends
      have hsign : d ≠ '-' := by
        rintro rfl
        exact absurd hdigit (by decide)
      simp only [integerLiteral, hcons, List.cons_append] at hwhole ⊢
      simp [number?, hsign, hwhole, ends.fraction?, ends.exponent?]
  | negSucc n =>
      simp [integerLiteral, number?, wholePart?_toDigits (n + 1) ends, ends.fraction?,
        ends.exponent?]

/-! ## Values -/

/-- The values made of texts and integers. -/
inductive Plain : Json → Prop
  | null : Plain null
  | bool (b : Bool) : Plain (bool b)
  | integer (n : Int) : Plain (ofInt n)
  | text (text : String) : Plain (ofText text)
  | array (items : List Json) (hitems : ∀ item ∈ items, Plain item) : Plain (array items)
  | object (members : List (List JsonUnit × Json))
      (hnames : ∀ member ∈ members, ∃ name, member.1 = unitsOf name)
      (hvalues : ∀ member ∈ members, Plain member.2) : Plain (object members)

/-- A value is read back from its text, whatever ends it. -/
def ReadsBack (value : Json) : Prop :=
  ∀ steps rest, (write value).length ≤ steps → EndsValue rest →
    value? steps (write value ++ rest) = some (value, rest)

theorem isSpace_of_number {c : Char} (hnumber : isDigit c = true ∨ c = '-') :
    isSpace c = false := by
  rw [← Bool.not_eq_true]
  intro hspace
  simp only [isSpace, Bool.or_eq_true, beq_iff_eq] at hspace
  rcases hspace with ((rfl | rfl) | rfl) | rfl <;> exact absurd hnumber (by decide)

theorem skipSpace_cons {c : Char} (hspace : isSpace c = false) (text : List Char) :
    skipSpace (c :: text) = c :: text := by
  simp [skipSpace, hspace]

/-- What begins a number begins no other value. -/
theorem value?_of_number {c : Char} {text : List Char} (hnumber : isDigit c = true ∨ c = '-')
    (steps : Nat) :
    value? (steps + 1) (c :: text) =
      (number? (c :: text)).map fun read => (.number read.1, read.2) := by
  rw [value?, skipSpace_cons (isSpace_of_number hnumber)]
  split
  case h_7 => rfl
  all_goals
    rename_i heq
    obtain ⟨rfl, -⟩ := List.cons_eq_cons.mp heq
    exact absurd hnumber (by decide)

theorem readsBack_ofInt (n : Int) : ReadsBack (ofInt n) := by
  intro steps rest hsteps ends
  obtain ⟨c, text, hcons, hnumber⟩ := exists_integerLiteral_eq_cons n
  cases steps with
  | zero => simp [ofInt, write, hcons] at hsteps
  | succ steps =>
      rw [ofInt, write, hcons, List.cons_append, value?_of_number hnumber, ← List.cons_append,
        ← hcons, number?_integerLiteral n ends]
      rfl

theorem readsBack_ofText (text : String) : ReadsBack (ofText text) := by
  intro steps rest hsteps ends
  cases steps with
  | zero => simp [ofText, write, writeString] at hsteps
  | succ steps =>
      simp [ofText, write, writeString, value?, skipSpace, isSpace, string?_unitsOf]

/-- No value begins with white space or with the end of an array. -/
theorem Plain.exists_write_eq_cons {value : Json} (plain : Plain value) :
    ∃ c text, write value = c :: text ∧ isSpace c = false ∧ c ≠ ']' := by
  cases plain with
  | null => exact ⟨'n', _, rfl, rfl, by decide⟩
  | bool b =>
      cases b with
      | true => exact ⟨'t', _, rfl, rfl, by decide⟩
      | false => exact ⟨'f', _, rfl, rfl, by decide⟩
  | integer n =>
      obtain ⟨c, text, hcons, hnumber⟩ := exists_integerLiteral_eq_cons n
      refine ⟨c, text, hcons, isSpace_of_number hnumber, ?_⟩
      rintro rfl
      exact absurd hnumber (by decide)
  | text text => exact ⟨'"', _, rfl, rfl, by decide⟩
  | array items _ => exact ⟨'[', _, rfl, rfl, by decide⟩
  | object members _ _ => exact ⟨'\x7b', _, rfl, rfl, by decide⟩

/-- Items that are read back are read up to the end of their array. -/
theorem items?_writeItems {items : List Json} (hne : items ≠ [])
    (hitems : ∀ item ∈ items, ReadsBack item) (rest : List Char) {steps : Nat}
    (hsteps : (writeItems items).length < steps) :
    items? steps (writeItems items ++ ']' :: rest) = some (items, rest) := by
  induction items generalizing steps with
  | nil => contradiction
  | cons item items ih =>
      obtain ⟨steps, rfl⟩ := Nat.exists_eq_succ_of_ne_zero (Nat.ne_zero_of_lt hsteps)
      rw [List.forall_mem_cons] at hitems
      cases items with
      | nil =>
          have hitem := hitems.1 steps (']' :: rest) (Nat.le_of_lt_succ hsteps)
            (by simp [EndsValue])
          simp [writeItems, items?, hitem, skipSpace, isSpace]
      | cons next items =>
          simp only [writeItems, List.length_append, List.length_cons] at hsteps
          have hitem := hitems.1 steps (',' :: (writeItems (next :: items) ++ ']' :: rest))
            (by omega) (by simp [EndsValue])
          have hrest : items? steps (writeItems (next :: items) ++ ']' :: rest) =
              some (next :: items, rest) := ih (by simp) hitems.2 (by omega)
          simp [writeItems, items?, hitem, skipSpace, isSpace, hrest]

/-- Members whose values are read back are read up to the end of their object. -/
theorem members?_writeMembers {members : List (List JsonUnit × Json)} (hne : members ≠ [])
    (hnames : ∀ member ∈ members, ∃ name, member.1 = unitsOf name)
    (hvalues : ∀ member ∈ members, ReadsBack member.2) (rest : List Char) {steps : Nat}
    (hsteps : (writeMembers members).length < steps) :
    members? steps (writeMembers members ++ '\x7d' :: rest) = some (members, rest) := by
  induction members generalizing steps with
  | nil => contradiction
  | cons member members ih =>
      obtain ⟨steps, rfl⟩ := Nat.exists_eq_succ_of_ne_zero (Nat.ne_zero_of_lt hsteps)
      obtain ⟨units, value⟩ := member
      obtain ⟨⟨name, rfl⟩, hothers⟩ := List.forall_mem_cons.mp hnames
      obtain ⟨(hvalue : ReadsBack value), hrest⟩ := List.forall_mem_cons.mp hvalues
      cases members with
      | nil =>
          simp only [writeMembers, writeString, List.length_append, List.length_cons] at hsteps
          have hread : value? steps (write value ++ '\x7d' :: rest) =
              some (value, '\x7d' :: rest) := hvalue steps _ (by omega) (by simp [EndsValue])
          simp [writeMembers, writeString, members?, string?_unitsOf, hread, skipSpace, isSpace]
      | cons next members =>
          simp only [writeMembers, writeString, List.length_append, List.length_cons] at hsteps
          have hread : value? steps (write value ++
              ',' :: (writeMembers (next :: members) ++ '\x7d' :: rest)) =
                some (value, ',' :: (writeMembers (next :: members) ++ '\x7d' :: rest)) :=
            hvalue steps _ (by omega) (by simp [EndsValue])
          have hrest : members? steps (writeMembers (next :: members) ++ '\x7d' :: rest) =
              some (next :: members, rest) := ih (by simp) hothers hrest (by omega)
          simp [writeMembers, writeString, members?, string?_unitsOf, hread, skipSpace, isSpace,
            hrest]

theorem exists_writeItems_eq_cons {items : List Json} (hne : items ≠ [])
    (hitems : ∀ item ∈ items, Plain item) :
    ∃ c text, writeItems items = c :: text ∧ isSpace c = false ∧ c ≠ ']' := by
  match items, hne with
  | [item], _ => exact (hitems item List.mem_cons_self).exists_write_eq_cons
  | item :: next :: items, _ =>
      obtain ⟨c, text, hcons, hc⟩ := (hitems item List.mem_cons_self).exists_write_eq_cons
      exact ⟨c, text ++ ',' :: writeItems (next :: items), by simp [writeItems, hcons], hc⟩

theorem exists_writeMembers_eq_cons {members : List (List JsonUnit × Json)}
    (hne : members ≠ []) : ∃ text, writeMembers members = '"' :: text := by
  match members, hne with
  | [(name, value)], _ => exact ⟨_, rfl⟩
  | (name, value) :: next :: members, _ => exact ⟨_, rfl⟩

theorem Plain.readsBack {value : Json} (plain : Plain value) : ReadsBack value := by
  induction plain with
  | integer n => exact readsBack_ofInt n
  | text text => exact readsBack_ofText text
  | null =>
      intro steps rest hsteps ends
      obtain ⟨steps, rfl⟩ := Nat.exists_eq_succ_of_ne_zero (Nat.ne_zero_of_lt hsteps)
      rfl
  | bool b =>
      intro steps rest hsteps ends
      cases b <;> obtain ⟨steps, rfl⟩ := Nat.exists_eq_succ_of_ne_zero (Nat.ne_zero_of_lt hsteps)
      · rfl
      · rfl
  | array items hitems ih =>
      intro steps rest hsteps ends
      obtain ⟨steps, rfl⟩ := Nat.exists_eq_succ_of_ne_zero (Nat.ne_zero_of_lt hsteps)
      by_cases hne : items = []
      · subst hne
        rfl
      · have hlength : (writeItems items).length < steps := by
          rw [write, List.length_cons, List.length_append, List.length_singleton] at hsteps
          exact Nat.le_of_succ_le_succ hsteps
        have hread := items?_writeItems hne ih rest hlength
        obtain ⟨c, text, hcons, hspace, hbracket⟩ := exists_writeItems_eq_cons hne hitems
        rw [hcons, List.cons_append] at hread
        have hopen : isSpace '[' = false := rfl
        simp [write, value?, hcons, skipSpace_cons hopen, skipSpace_cons hspace, hbracket, hread]
  | object members hnames hvalues ih =>
      intro steps rest hsteps ends
      obtain ⟨steps, rfl⟩ := Nat.exists_eq_succ_of_ne_zero (Nat.ne_zero_of_lt hsteps)
      by_cases hne : members = []
      · subst hne
        rfl
      · have hlength : (writeMembers members).length < steps := by
          rw [write, List.length_cons, List.length_append, List.length_singleton] at hsteps
          exact Nat.le_of_succ_le_succ hsteps
        have hread := members?_writeMembers hne hnames ih rest hlength
        obtain ⟨text, hcons⟩ := exists_writeMembers_eq_cons hne
        rw [hcons, List.cons_append] at hread
        simp [write, value?, hcons, skipSpace, isSpace, hread]

/-- Reading gives back what was written. -/
theorem ofText?_write {value : Json} (plain : Plain value) :
    ofText? value.write = some value := by
  have hread := plain.readsBack (value.write.length + 1) [] (Nat.le_succ _) trivial
  rw [List.append_nil] at hread
  simp [ofText?, hread, skipSpace]

/-! ## Answers -/

theorem plain_ofScores (scores : List LanguageScore) : Plain (ofScores scores) := by
  apply Plain.array
  intro value hmem
  obtain ⟨score, _, rfl⟩ := List.mem_map.mp hmem
  apply Plain.array
  intro part hpart
  rw [List.mem_pair] at hpart
  rcases hpart with rfl | rfl
  · exact .text score.1
  · exact .integer score.2

end Json

namespace FileItem

open Json

@[simp]
theorem toJson_language (path name : String) :
    toJson ⟨path, .language name⟩ =
      .object [(unitsOf "path", ofText path), (unitsOf "detected", ofText name)] := rfl

@[simp]
theorem toJson_report (path detected : String) (statistics : List LanguageScore) :
    toJson ⟨path, .report detected statistics⟩ =
      .object [(unitsOf "path", ofText path), (unitsOf "detected", ofText detected),
        (unitsOf "statistics", ofScores statistics)] := rfl

theorem plain_toJson (item : FileItem) : Plain item.toJson := by
  obtain ⟨path, detection⟩ := item
  cases detection with
  | language name =>
      rw [toJson_language]
      refine .object _ ?_ ?_ <;> simp only [List.forall_mem_cons]
      · exact ⟨⟨"path", rfl⟩, ⟨"detected", rfl⟩, by simp⟩
      · exact ⟨.text path, .text name, by simp⟩
  | report detected statistics =>
      rw [toJson_report]
      refine .object _ ?_ ?_ <;> simp only [List.forall_mem_cons]
      · exact ⟨⟨"path", rfl⟩, ⟨"detected", rfl⟩, ⟨"statistics", rfl⟩, by simp⟩
      · exact ⟨.text path, .text detected, plain_ofScores statistics, by simp⟩

theorem plain_array (items : List FileItem) : Plain (.array (items.map toJson)) := by
  apply Plain.array
  intro value hmem
  obtain ⟨item, _, rfl⟩ := List.mem_map.mp hmem
  exact item.plain_toJson

end FileItem

end Polyglot
