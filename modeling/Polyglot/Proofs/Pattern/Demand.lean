/-
# Characters that a pattern demands

Some patterns occur only in texts that hold a character of a certain kind: wherever
such a pattern occurs, one of its character sets has read such a character.  The
test for it looks at the pattern alone.  It is not complete, since it knows of a set
only how it is written, but where it succeeds a text without such a character can
be dismissed unread.
-/

import Polyglot.Proofs.Pattern.Search

namespace Polyglot

/-- Whether a set is seen to hold only code points from the first to the second. -/
def CharSet.isWithin (low high : Nat) : CharSet → Bool
  | empty => true
  | range first last => low ≤ first && last ≤ high
  | union s t => s.isWithin low high && t.isWithin low high
  | inter s t => s.isWithin low high || t.isWithin low high
  | diff s _ => s.isWithin low high
  | _ => false

/-- Whether a pattern is seen to cover no stretch without a code point from the first to the
second. -/
def Pattern.demands (low high : Nat) : Pattern → Bool
  | empty => false
  | look _ => false
  | set s => s.isWithin low high
  | seq p q => p.demands low high || q.demands low high
  | alt p q => p.demands low high && q.demands low high
  | opt _ => false
  | plus p => p.demands low high

variable {low high : Nat}

theorem CharSet.mem_range_of_isWithin {s : CharSet} (within : s.isWithin low high = true) {n : Nat}
    (hmem : s.contains n = true) : low ≤ n ∧ n ≤ high := by
  induction s with
  | empty => cases hmem
  | range first last =>
      simp only [isWithin, contains, Bool.and_eq_true, decide_eq_true_eq] at within hmem
      exact ⟨Nat.le_trans within.1 hmem.1, Nat.le_trans hmem.2 within.2⟩
  | union s t ihs iht =>
      simp only [isWithin, contains, Bool.and_eq_true, Bool.or_eq_true] at within hmem
      rcases hmem with hmem | hmem
      · exact ihs within.1 hmem
      · exact iht within.2 hmem
  | inter s t ihs iht =>
      simp only [isWithin, contains, Bool.and_eq_true, Bool.or_eq_true] at within hmem
      rcases within with within | within
      · exact ihs within hmem.1
      · exact iht within hmem.2
  | diff s t ihs _ =>
      simp only [isWithin, contains, Bool.and_eq_true] at within hmem
      exact ihs within hmem.1
  | _ => cases within

namespace Pattern

/-- What a pattern covers holds a character that the pattern demands. -/
theorem exists_mem_of_spans {p : Pattern} {before middle after : List Char}
    (spans : Spans p before middle after) (hdemands : p.demands low high = true) :
    ∃ c ∈ middle, low ≤ c.toNat ∧ c.toNat ≤ high := by
  induction spans with
  | empty => cases hdemands
  | look _ => cases hdemands
  | set hmem => exact ⟨_, List.mem_singleton_self _, CharSet.mem_range_of_isWithin hdemands hmem⟩
  | seq _ _ ihfirst ihsecond =>
      rcases Bool.or_eq_true_iff.mp hdemands with hfirst | hsecond
      · obtain ⟨c, hmem, hrange⟩ := ihfirst hfirst
        exact ⟨c, List.mem_append_left _ hmem, hrange⟩
      · obtain ⟨c, hmem, hrange⟩ := ihsecond hsecond
        exact ⟨c, List.mem_append_right _ hmem, hrange⟩
  | altLeft _ ih => exact ih (Bool.and_eq_true_iff.mp hdemands).1
  | altRight _ ih => exact ih (Bool.and_eq_true_iff.mp hdemands).2
  | optNone => cases hdemands
  | optSome _ _ => cases hdemands
  | plusOnce _ ih => exact ih hdemands
  | plusMore _ _ ihfirst _ =>
      obtain ⟨c, hmem, hrange⟩ := ihfirst hdemands
      exact ⟨c, List.mem_append_left _ hmem, hrange⟩

/-- A pattern does not occur in a text without the characters that it demands. -/
theorem occursIn_eq_false {p : Pattern} (hdemands : p.demands low high = true)
    {text : List Char} (habsent : ∀ c ∈ text, ¬ (low ≤ c.toNat ∧ c.toNat ≤ high)) :
    p.occursIn text = false := by
  rw [← Bool.not_eq_true, occursIn_iff_occurs]
  rintro ⟨before, middle, after, rfl, spans⟩
  obtain ⟨c, hmem, hrange⟩ := exists_mem_of_spans spans hdemands
  exact habsent c (List.mem_append_right _ (List.mem_append_left _ hmem)) hrange

end Pattern

end Polyglot
