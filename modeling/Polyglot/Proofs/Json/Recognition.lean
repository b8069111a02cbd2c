/-
# What the reader accepts

The reader accepts the texts of values and nothing else: from every answer the text that
was read is put together again, token by token, with the white space that was skipped.
With the converse, a text is read as a value exactly if it writes the value, so no text
writes two.
-/

import Mathlib.Data.List.TakeWhile
import Polyglot.Proofs.Json.Grammar

namespace Polyglot

namespace Json

/-! ## White space and strings -/

theorem isWhite_takeWhile (text : List Char) : IsWhite (text.takeWhile isSpace) := by
  intro c hmem
  have hspace := List.mem_takeWhile_imp hmem
  simp only [isSpace, Bool.or_eq_true, beq_iff_eq] at hspace
  rcases hspace with ((rfl | rfl) | rfl) | rfl <;> simp

/-- What is skipped in front of a token is white space. -/
theorem exists_white_append (text : List Char) :
    ∃ white, IsWhite white ∧ text = white ++ skipSpace text :=
  ⟨_, isWhite_takeWhile text, List.takeWhile_append_dropWhile.symm⟩

theorem mem_escapes_of_letterEscape? {l c : Char} (hletter : letterEscape? l = some c) :
    (l, c) ∈ escapes := by
  unfold letterEscape? at hletter
  split at hletter <;> cases hletter <;> decide

/-- A unit that is half of a pair was written by its number. -/
theorem IsStringText.exists_number {low : Nat} {units : List JsonUnit} {text : List Char}
    (hstring : IsStringText (.surrogate low :: units) text) (hlow : isLowSurrogate low = true) :
    ∃ a b c d others, text = '\\' :: 'u' :: a :: b :: c :: d :: others ∧
      hexNumber? a b c d = some low ∧ IsStringText units others := by
  cases hstring with
  | high hnumber high_le le_high _ _ =>
      simp only [isLowSurrogate, Bool.and_eq_true, decide_eq_true_eq] at hlow
      omega
  | low hnumber _ _ others => exact ⟨_, _, _, _, _, rfl, hnumber, others⟩

/-- A number in front of the text of a string goes on with it. -/
theorem isStringText_prependNumber {a b c d : Char} {n : Nat}
    (hnumber : hexNumber? a b c d = some n) {units : List JsonUnit} {text : List Char}
    (hstring : IsStringText units text) :
    IsStringText (prependNumber n units) ('\\' :: 'u' :: a :: b :: c :: d :: text) := by
  by_cases hscalar : n < 0xd800 ∨ 0xdfff < n
  · rw [prependNumber_of_scalar hscalar]
    exact .number hnumber hscalar hstring
  by_cases low_le : 0xdc00 ≤ n
  · have le_low : n ≤ 0xdfff := by omega
    rw [prependNumber_of_low low_le le_low]
    exact .low hnumber low_le le_low hstring
  have high_le : 0xd800 ≤ n := by omega
  have le_high : n ≤ 0xdbff := by omega
  by_cases hpair : ∃ low rest, units = .surrogate low :: rest ∧ isLowSurrogate low = true
  · obtain ⟨low, rest, rfl, hlow⟩ := hpair
    obtain ⟨a', b', c', d', others, rfl, hnumber', hothers⟩ := hstring.exists_number hlow
    simp only [isLowSurrogate, Bool.and_eq_true, decide_eq_true_eq] at hlow
    rw [prependNumber_of_pair high_le le_high hlow.1 hlow.2]
    exact .pair hnumber hnumber' high_le le_high hlow.1 hlow.2 hothers
  · have halone : ∀ low, units.head? = some (.surrogate low) → isLowSurrogate low = false := by
      intro low hhead
      rw [← Bool.not_eq_true]
      intro hlow
      obtain ⟨rest, rfl⟩ := List.head?_eq_some_iff.mp hhead
      exact hpair ⟨low, rest, rfl, hlow⟩
    rw [prependNumber_of_high high_le le_high halone]
    exact .high hnumber high_le le_high halone hstring

/-- What is read of a string is the text of its units, up to the quote. -/
theorem exists_of_string? {text rest : List Char} {units : List JsonUnit}
    (read : string? text = some (units, rest)) :
    ∃ core, text = core ++ '"' :: rest ∧ IsStringText units core := by
  fun_induction string? text generalizing units with
  | case1 => contradiction
  | case2 behind =>
      cases read
      exact ⟨[], rfl, .nil⟩
  | case3 => contradiction
  | case4 a b c d behind n hnumber ih =>
      obtain ⟨⟨others, _⟩, hothers, heq⟩ := Option.map_eq_some_iff.mp read
      cases heq
      obtain ⟨core, rfl, hstring⟩ := ih hothers
      exact ⟨_, rfl, isStringText_prependNumber hnumber hstring⟩
  | case5 => contradiction
  | case6 l behind _ c hletter ih =>
      obtain ⟨⟨others, _⟩, hothers, heq⟩ := Option.map_eq_some_iff.mp read
      cases heq
      obtain ⟨core, rfl, hstring⟩ := ih hothers
      exact ⟨_, rfl, .letter (mem_escapes_of_letterEscape? hletter) hstring⟩
  | case7 => contradiction
  | case8 c behind hquote hnumbered hletter hcontrol ih =>
      obtain ⟨⟨others, _⟩, hothers, heq⟩ := Option.map_eq_some_iff.mp read
      cases heq
      obtain ⟨core, rfl, hstring⟩ := ih hothers
      simp only [Bool.or_eq_true, decide_eq_true_eq, beq_iff_eq, not_or, Nat.not_lt] at hcontrol
      exact ⟨_, rfl, .plain hquote hcontrol.2 hcontrol.1 hstring⟩

/-! ## Numbers -/

theorem exists_of_digits? {text digits rest : List Char}
    (read : digits? text = some (digits, rest)) : text = digits ++ rest ∧ IsDigits digits := by
  rw [digits?, List.span_eq_takeWhile_dropWhile] at read
  have htake : ∀ c ∈ text.takeWhile isDigit, isDigit c = true :=
    fun c hmem => List.mem_takeWhile_imp hmem
  split at read
  case h_1 => contradiction
  case h_2 hne heq =>
    cases read
    cases heq
    exact ⟨List.takeWhile_append_dropWhile.symm, hne, htake⟩

theorem exists_of_wholePart? {text whole rest : List Char}
    (read : wholePart? text = some (whole, rest)) : text = whole ++ rest ∧ IsWhole whole := by
  unfold wholePart? at read
  split at read
  case h_1 c behind =>
    split at read
    · contradiction
    · cases read
      exact ⟨rfl, .zero⟩
  case h_2 hzeros =>
    obtain ⟨rfl, hdigits⟩ := exists_of_digits? read
    refine ⟨rfl, ?_⟩
    by_cases hzero : whole.head? = some '0'
    · obtain ⟨digits, rfl⟩ := List.head?_eq_some_iff.mp hzero
      cases digits with
      | nil => exact .zero
      | cons d digits => exact absurd rfl (hzeros d (digits ++ rest))
    · exact .digits hdigits hzero

theorem exists_of_fraction? {text fraction rest : List Char}
    (read : fraction? text = some (fraction, rest)) :
    text = fraction ++ rest ∧ IsFraction fraction := by
  unfold fraction? at read
  split at read
  · obtain ⟨⟨digits, _⟩, hread, heq⟩ := Option.map_eq_some_iff.mp read
    cases heq
    obtain ⟨rfl, hdigits⟩ := exists_of_digits? hread
    exact ⟨rfl, .places hdigits⟩
  · cases read
    exact ⟨rfl, .none⟩

theorem exists_of_exponent? {text exponent rest : List Char}
    (read : exponent? text = some (exponent, rest)) :
    text = exponent ++ rest ∧ IsExponent exponent := by
  unfold exponent? at read
  split at read
  · split at read
    · rename_i hmark
      simp only [Bool.or_eq_true, beq_iff_eq] at hmark
      split at read
      · split at read
        · rename_i hsign
          simp only [Bool.or_eq_true, beq_iff_eq] at hsign
          obtain ⟨⟨digits, _⟩, hread, heq⟩ := Option.map_eq_some_iff.mp read
          cases heq
          obtain ⟨rfl, hdigits⟩ := exists_of_digits? hread
          exact ⟨rfl, .signed hmark hsign hdigits⟩
        · obtain ⟨⟨digits, _⟩, hread, heq⟩ := Option.map_eq_some_iff.mp read
          cases heq
          obtain ⟨hsplit, hdigits⟩ := exists_of_digits? hread
          rw [hsplit]
          exact ⟨rfl, .plain hmark hdigits⟩
      · contradiction
    · cases read
      exact ⟨rfl, .none⟩
  · cases read
    exact ⟨rfl, .none⟩

/-- What is read of a number is a number. -/
theorem exists_of_number? {text literal rest : List Char}
    (read : number? text = some (literal, rest)) : text = literal ++ rest ∧ IsNumber literal := by
  simp only [number?, Option.bind_eq_bind, Option.bind_eq_some_iff, Option.some.injEq] at read
  obtain ⟨⟨whole, _⟩, hwhole, ⟨fraction, _⟩, hfraction, ⟨exponent, behind⟩, hexponent, heq⟩ :=
    read
  cases heq
  obtain ⟨hsplit, isWhole⟩ := exists_of_wholePart? hwhole
  obtain ⟨rfl, isFraction⟩ := exists_of_fraction? hfraction
  obtain ⟨rfl, isExponent⟩ := exists_of_exponent? hexponent
  split at hsplit
  case h_1 digits =>
    have hdigits : digits = whole ++ (fraction ++ (exponent ++ behind)) := hsplit
    rw [hdigits]
    exact ⟨by simp only [List.append_assoc, List.cons_append, List.nil_append],
      .negative isWhole isFraction isExponent⟩
  case h_2 =>
    have htext : text = whole ++ (fraction ++ (exponent ++ behind)) := hsplit
    rw [htext]
    exact ⟨by simp only [List.append_assoc, List.nil_append],
      .positive isWhole isFraction isExponent⟩

/-! ## Values -/

/-- What the readers of values, items and members answer within a number of steps is what
stands in front of the rest. -/
structure Recognized (steps : Nat) : Prop where
  /-- Of a value. -/
  value : ∀ {text : List Char} {value : Json} {rest : List Char},
    value? steps text = some (value, rest) →
      ∃ white core, text = white ++ core ++ rest ∧ IsWhite white ∧ Spells value core
  /-- Of items. -/
  items : ∀ {text : List Char} {values : List Json} {rest : List Char},
    items? steps text = some (values, rest) →
      ∃ items : List Placed, items ≠ [] ∧ items.map Placed.value = values ∧
        text = commaSeparated (items.map Placed.text) ++ ']' :: rest ∧
        (∀ item ∈ items, item.IsSpaced) ∧ ∀ item ∈ items, Spells item.value item.core
  /-- Of members. -/
  members : ∀ {text : List Char} {named : List (List JsonUnit × Json)} {rest : List Char},
    members? steps text = some (named, rest) →
      ∃ members : List PlacedMember, members ≠ [] ∧ members.map PlacedMember.member = named ∧
        text = commaSeparated (members.map PlacedMember.text) ++ '\x7d' :: rest ∧
        (∀ member ∈ members, member.IsSpaced) ∧
        (∀ member ∈ members, IsStringText member.name member.core) ∧
        ∀ member ∈ members, Spells member.item.value member.item.core

theorem Recognized.value?_succ {steps : Nat} (recognized : Recognized steps) {text : List Char}
    {value : Json} {rest : List Char} (read : value? (steps + 1) text = some (value, rest)) :
    ∃ white core, text = white ++ core ++ rest ∧ IsWhite white ∧ Spells value core := by
  obtain ⟨white, hwhite, hsplit⟩ := exists_white_append text
  suffices hcore : ∃ core, skipSpace text = core ++ rest ∧ Spells value core by
    obtain ⟨core, hcore, hspells⟩ := hcore
    exact ⟨white, core, by rw [List.append_assoc, ← hcore, ← hsplit], hwhite, hspells⟩
  rw [value?] at read
  split at read
  case h_1 _ behind heq =>
    cases read
    exact ⟨_, heq, .nullWord⟩
  case h_2 _ behind heq =>
    cases read
    exact ⟨_, heq, .trueWord⟩
  case h_3 _ behind heq =>
    cases read
    exact ⟨_, heq, .falseWord⟩
  case h_4 _ behind heq =>
    obtain ⟨⟨units, _⟩, hunits, hpair⟩ := Option.map_eq_some_iff.mp read
    cases hpair
    obtain ⟨core, rfl, hstring⟩ := exists_of_string? hunits
    refine ⟨_, ?_, .string hstring⟩
    rw [heq, List.append_assoc, List.singleton_append, List.cons_append]
  case h_5 _ behind heq =>
    split at read
    case h_1 _ _ hclosed =>
      cases read
      obtain ⟨inner, hinner, hbehind⟩ := exists_white_append behind
      refine ⟨_, ?_, .emptyArray hinner⟩
      rw [heq, hbehind, hclosed, List.append_assoc, List.singleton_append, List.cons_append]
    case h_2 =>
      obtain ⟨⟨values, _⟩, hvalues, hpair⟩ := Option.map_eq_some_iff.mp read
      cases hpair
      obtain ⟨items, hne, rfl, rfl, hspaced, hitems⟩ := recognized.items hvalues
      refine ⟨_, ?_, .array hne hspaced hitems⟩
      rw [heq, List.append_assoc, List.singleton_append, List.cons_append]
  case h_6 _ behind heq =>
    split at read
    case h_1 _ _ hclosed =>
      cases read
      obtain ⟨inner, hinner, hbehind⟩ := exists_white_append behind
      refine ⟨_, ?_, .emptyObject hinner⟩
      rw [heq, hbehind, hclosed, List.append_assoc, List.singleton_append, List.cons_append]
    case h_2 =>
      obtain ⟨⟨named, _⟩, hnamed, hpair⟩ := Option.map_eq_some_iff.mp read
      cases hpair
      obtain ⟨members, hne, rfl, rfl, hspaced, hnames, hvalues⟩ := recognized.members hnamed
      refine ⟨_, ?_, .object hne hspaced hnames hvalues⟩
      rw [heq, List.append_assoc, List.singleton_append, List.cons_append]
  case h_7 =>
    obtain ⟨⟨literal, _⟩, hliteral, hpair⟩ := Option.map_eq_some_iff.mp read
    cases hpair
    obtain ⟨hsplit, hnumber⟩ := exists_of_number? hliteral
    exact ⟨_, hsplit, .number hnumber⟩

/-- A value that is read stands in its place, in front of what is not white space. -/
theorem Recognized.exists_placed {steps : Nat} (recognized : Recognized steps)
    {text behind : List Char} {value : Json} (read : value? steps text = some (value, behind)) :
    ∃ item : Placed, item.value = value ∧ text = item.text ++ skipSpace behind ∧
      item.IsSpaced ∧ Spells item.value item.core := by
  obtain ⟨before, core, rfl, hbefore, hspells⟩ := recognized.value read
  obtain ⟨after, hafter, hbehind⟩ := exists_white_append behind
  refine ⟨⟨value, before, core, after⟩, rfl, ?_, ⟨hbefore, hafter⟩, hspells⟩
  rw [Placed.text, List.append_assoc _ after, ← hbehind]

theorem Recognized.items?_succ {steps : Nat} (recognized : Recognized steps) {text : List Char}
    {values : List Json} {rest : List Char}
    (read : items? (steps + 1) text = some (values, rest)) :
    ∃ items : List Placed, items ≠ [] ∧ items.map Placed.value = values ∧
      text = commaSeparated (items.map Placed.text) ++ ']' :: rest ∧
      (∀ item ∈ items, item.IsSpaced) ∧ ∀ item ∈ items, Spells item.value item.core := by
  rw [items?] at read
  split at read
  case h_1 => contradiction
  case h_2 _ _ behind hvalue =>
    obtain ⟨item, rfl, rfl, hspaced, hspells⟩ := recognized.exists_placed hvalue
    split at read
    case h_1 _ _ hclosed =>
      cases read
      exact ⟨[item], List.cons_ne_nil _ _, rfl, by rw [hclosed]; rfl,
        List.forall_mem_singleton.mpr hspaced, List.forall_mem_singleton.mpr hspells⟩
    case h_2 _ more hcomma =>
      obtain ⟨⟨others, _⟩, hothers, hpair⟩ := Option.map_eq_some_iff.mp read
      cases hpair
      obtain ⟨items, hne, rfl, rfl, hspacedAll, hspellsAll⟩ := recognized.items hothers
      refine ⟨item :: items, List.cons_ne_nil _ _, rfl, ?_,
        List.forall_mem_cons.mpr ⟨hspaced, hspacedAll⟩,
        List.forall_mem_cons.mpr ⟨hspells, hspellsAll⟩⟩
      rw [hcomma, List.map_cons, commaSeparated_cons (mt List.map_eq_nil_iff.mp hne),
        List.append_assoc, List.cons_append]
    case h_3 => contradiction

/-- Members that are read begin with one in its place, which is the last or has a comma
behind it. -/
theorem Recognized.exists_placedMember {steps : Nat} (recognized : Recognized steps)
    {text rest : List Char} {named : List (List JsonUnit × Json)}
    (read : members? (steps + 1) text = some (named, rest)) :
    ∃ (member : PlacedMember) (behind : List Char), text = member.text ++ behind ∧
      member.IsSpaced ∧ IsStringText member.name member.core ∧
      Spells member.item.value member.item.core ∧
      (named = [member.member] ∧ behind = '\x7d' :: rest ∨
        ∃ others more, named = member.member :: others ∧ behind = ',' :: more ∧
          members? steps more = some (others, rest)) := by
  obtain ⟨before, hbefore, hsplit⟩ := exists_white_append text
  rw [members?] at read
  split at read
  case h_2 => contradiction
  case h_1 _ quoted hquote =>
  split at read
  case h_1 => contradiction
  case h_2 _ name unquoted hname =>
  obtain ⟨core, rfl, hstring⟩ := exists_of_string? hname
  obtain ⟨after, hafter, hunquoted⟩ := exists_white_append unquoted
  split at read
  case h_2 => contradiction
  case h_1 _ _ hcolon =>
  split at read
  case h_1 => contradiction
  case h_2 _ _ behind hvalue =>
  obtain ⟨item, rfl, rfl, hitem, hspells⟩ := recognized.exists_placed hvalue
  refine ⟨⟨name, before, core, after, item⟩, skipSpace behind, ?_, ⟨hbefore, hafter, hitem⟩,
    hstring, hspells, ?_⟩
  · rw [hsplit, hquote, hunquoted, hcolon]
    simp only [PlacedMember.text, List.append_assoc, List.cons_append]
  · split at read
    case h_1 _ _ hclosed =>
      cases read
      exact Or.inl ⟨rfl, hclosed⟩
    case h_2 _ more hcomma =>
      obtain ⟨⟨others, _⟩, hothers, hpair⟩ := Option.map_eq_some_iff.mp read
      cases hpair
      exact Or.inr ⟨others, more, rfl, hcomma, hothers⟩
    case h_3 => contradiction

theorem Recognized.members?_succ {steps : Nat} (recognized : Recognized steps) {text : List Char}
    {named : List (List JsonUnit × Json)} {rest : List Char}
    (read : members? (steps + 1) text = some (named, rest)) :
    ∃ members : List PlacedMember, members ≠ [] ∧ members.map PlacedMember.member = named ∧
      text = commaSeparated (members.map PlacedMember.text) ++ '\x7d' :: rest ∧
      (∀ member ∈ members, member.IsSpaced) ∧
      (∀ member ∈ members, IsStringText member.name member.core) ∧
      ∀ member ∈ members, Spells member.item.value member.item.core := by
  obtain ⟨member, behind, rfl, hspaced, hname, hspells, ⟨rfl, rfl⟩ | hmore⟩ :=
    recognized.exists_placedMember read
  · exact ⟨[member], List.cons_ne_nil _ _, rfl, rfl, List.forall_mem_singleton.mpr hspaced,
      List.forall_mem_singleton.mpr hname, List.forall_mem_singleton.mpr hspells⟩
  · obtain ⟨others, more, rfl, rfl, hothers⟩ := hmore
    obtain ⟨members, hne, rfl, rfl, hspacedAll, hnames, hspellsAll⟩ := recognized.members hothers
    refine ⟨member :: members, List.cons_ne_nil _ _, rfl, ?_,
      List.forall_mem_cons.mpr ⟨hspaced, hspacedAll⟩, List.forall_mem_cons.mpr ⟨hname, hnames⟩,
      List.forall_mem_cons.mpr ⟨hspells, hspellsAll⟩⟩
    rw [List.map_cons, commaSeparated_cons (mt List.map_eq_nil_iff.mp hne), List.append_assoc,
      List.cons_append]

theorem recognized (steps : Nat) : Recognized steps := by
  induction steps with
  | zero => exact ⟨nofun, nofun, nofun⟩
  | succ steps ih => exact ⟨ih.value?_succ, ih.items?_succ, ih.members?_succ⟩

/-- A text is read for a value exactly if it writes the value. -/
theorem ofText?_eq_some_iff {text : List Char} {value : Json} :
    ofText? text = some value ↔ Writes value text := by
  refine ⟨fun read => ?_, Writes.ofText?_eq⟩
  rw [ofText?] at read
  split at read
  case h_1 _ behind hvalue =>
    obtain ⟨item, rfl, htext, hspaced, hspells⟩ := (recognized _).exists_placed hvalue
    split at read
    · rename_i hempty
      cases read
      rw [List.isEmpty_iff.mp hempty, List.append_nil] at htext
      exact ⟨item.before, item.core, item.after, htext, hspaced.1, hspaced.2, hspells⟩
    · contradiction
  case h_2 => contradiction

/-- No text writes two values. -/
theorem Writes.eq {text : List Char} {value other : Json} (writes : Writes value text)
    (writesOther : Writes other text) : value = other := by
  rw [← ofText?_eq_some_iff] at writes writesOther
  exact Option.some.inj (writes.symm.trans writesOther)

end Json

end Polyglot
