/-
# Compact texts without control characters

Control characters are escaped inside strings, and nothing else that is written
holds one: there is no white space between the tokens.  So the text of a value made
of texts and integers is one line, whatever the texts are.
-/

import Polyglot.Proofs.Json.Answer

namespace Polyglot

namespace Json

/-! ## Strings -/

theorem le_toNat_of_letterEscape? {letter c : Char} (hescape : letterEscape? letter = some c) :
    0x20 ≤ letter.toNat := by
  unfold letterEscape? at hescape
  split at hescape
  case h_9 => cases hescape
  all_goals decide

theorem le_toNat_lowerHexDigit (n : Nat) : 0x20 ≤ (lowerHexDigit (n % 16)).toNat := by
  have hall : ∀ digit < 16, 0x20 ≤ (lowerHexDigit digit).toNat := by decide
  exact hall (n % 16) (Nat.mod_lt n (by decide))

theorem le_toNat_of_mem_numericEscape {n : Nat} {c : Char} (hmem : c ∈ numericEscape n) :
    0x20 ≤ c.toNat := by
  simp only [numericEscape, List.mem_cons, List.not_mem_nil, or_false] at hmem
  rcases hmem with rfl | rfl | rfl | rfl | rfl | rfl
  · decide
  · decide
  all_goals exact le_toNat_lowerHexDigit _

/-- Inside a string a control character is not written as it is. -/
theorem le_toNat_of_mem_writeChar {c written : Char} (hmem : written ∈ writeChar c) :
    0x20 ≤ written.toNat := by
  rcases writeChar_cases c with ⟨letter, hwrite, -, hescape⟩ | ⟨hwrite, -⟩ |
    ⟨hwrite, -, -, hcontrol⟩ <;> rw [hwrite] at hmem
  · rcases List.mem_pair.mp hmem with rfl | rfl
    · decide
    · exact le_toNat_of_letterEscape? hescape
  · exact le_toNat_of_mem_numericEscape hmem
  · rw [List.mem_singleton.mp hmem]
    exact Nat.not_lt.mp hcontrol

theorem le_toNat_of_mem_writeString {name : String} {c : Char}
    (hmem : c ∈ writeString (unitsOf name)) : 0x20 ≤ c.toNat := by
  rw [writeString, List.mem_cons, List.mem_append, List.mem_singleton] at hmem
  rcases hmem with rfl | hmem | rfl
  · decide
  · obtain ⟨unit, hunit, hmem⟩ := List.mem_flatMap.mp hmem
    obtain ⟨written, -, rfl⟩ := List.mem_map.mp hunit
    exact le_toNat_of_mem_writeChar hmem
  · decide

/-! ## Values -/

theorem le_toNat_of_mem_toDigits {n : Nat} {c : Char} (hmem : c ∈ Nat.toDigits 10 n) :
    0x20 ≤ c.toNat := by
  have hdigit := isDigit_of_mem_toDigits hmem
  simp only [isDigit, Bool.and_eq_true, decide_eq_true_eq, Char.le_def] at hdigit
  exact Nat.le_trans (by decide) hdigit.1

theorem le_toNat_of_mem_integerLiteral {n : Int} {c : Char} (hmem : c ∈ integerLiteral n) :
    0x20 ≤ c.toNat := by
  cases n with
  | ofNat n => exact le_toNat_of_mem_toDigits hmem
  | negSucc n =>
      rcases List.mem_cons.mp hmem with rfl | hmem
      · decide
      · exact le_toNat_of_mem_toDigits hmem

/-- What is written for an array is a comma or belongs to an item. -/
theorem mem_writeItems {items : List Json} {c : Char} (hmem : c ∈ writeItems items) :
    c = ',' ∨ ∃ item ∈ items, c ∈ write item := by
  induction items with
  | nil => cases hmem
  | cons item items ih =>
      cases items with
      | nil => exact Or.inr ⟨item, List.mem_cons_self, hmem⟩
      | cons next items =>
          rw [writeItems, List.mem_append, List.mem_cons] at hmem
          rcases hmem with hmem | rfl | hmem
          · exact Or.inr ⟨item, List.mem_cons_self, hmem⟩
          · exact Or.inl rfl
          · rcases ih hmem with hcomma | ⟨other, hother, hmem⟩
            · exact Or.inl hcomma
            · exact Or.inr ⟨other, List.mem_cons_of_mem _ hother, hmem⟩
          · simp

/-- What is written for an object is a comma, a colon, or belongs to a name or a value. -/
theorem mem_writeMembers {members : List (List JsonUnit × Json)} {c : Char}
    (hmem : c ∈ writeMembers members) :
    c = ',' ∨ c = ':' ∨ ∃ member ∈ members, c ∈ writeString member.1 ∨ c ∈ write member.2 := by
  induction members with
  | nil => cases hmem
  | cons member members ih =>
      obtain ⟨name, value⟩ := member
      cases members with
      | nil =>
          rw [writeMembers, List.mem_append, List.mem_cons] at hmem
          rcases hmem with hmem | rfl | hmem
          · exact Or.inr (Or.inr ⟨(name, value), List.mem_cons_self, Or.inl hmem⟩)
          · exact Or.inr (Or.inl rfl)
          · exact Or.inr (Or.inr ⟨(name, value), List.mem_cons_self, Or.inr hmem⟩)
      | cons next members =>
          rw [writeMembers, List.mem_append, List.mem_cons, List.mem_append, List.mem_cons]
            at hmem
          rcases hmem with hmem | rfl | hmem | rfl | hmem
          · exact Or.inr (Or.inr ⟨(name, value), List.mem_cons_self, Or.inl hmem⟩)
          · exact Or.inr (Or.inl rfl)
          · exact Or.inr (Or.inr ⟨(name, value), List.mem_cons_self, Or.inr hmem⟩)
          · exact Or.inl rfl
          · rcases ih hmem with hcomma | hcolon | ⟨other, hother, hmem⟩
            · exact Or.inl hcomma
            · exact Or.inr (Or.inl hcolon)
            · exact Or.inr (Or.inr ⟨other, List.mem_cons_of_mem _ hother, hmem⟩)
          · simp

/-- No control character is written for a value made of texts and integers. -/
theorem Plain.le_toNat_of_mem_write {value : Json} (plain : Plain value) :
    ∀ c ∈ write value, 0x20 ≤ c.toNat := by
  induction plain with
  | null => simp [write]
  | bool b => cases b <;> simp [write]
  | integer n =>
      intro c hmem
      exact le_toNat_of_mem_integerLiteral hmem
  | text text =>
      intro c hmem
      exact le_toNat_of_mem_writeString hmem
  | array items _ ih =>
      intro c hmem
      rw [write, List.mem_cons, List.mem_append, List.mem_singleton] at hmem
      rcases hmem with rfl | hmem | rfl
      · decide
      · rcases mem_writeItems hmem with rfl | ⟨item, hitem, hmem⟩
        · decide
        · exact ih item hitem c hmem
      · decide
  | object members hnames _ ih =>
      intro c hmem
      rw [write, List.mem_cons, List.mem_append, List.mem_singleton] at hmem
      rcases hmem with rfl | hmem | rfl
      · decide
      · rcases mem_writeMembers hmem with rfl | rfl | ⟨member, hmember, hmem | hmem⟩
        · decide
        · decide
        · obtain ⟨name, hname⟩ := hnames member hmember
          rw [hname] at hmem
          exact le_toNat_of_mem_writeString hmem
        · exact ih member hmember c hmem
      · decide

end Json

/-- The text of a detection is one line, whatever the names in it are. -/
theorem Detection.le_toNat_of_mem_write (detection : Detection) :
    ∀ c ∈ detection.write, 0x20 ≤ c.toNat :=
  detection.plain_toJson.le_toNat_of_mem_write

end Polyglot
