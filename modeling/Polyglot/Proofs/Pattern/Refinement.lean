/-
# Patterns that cover less

A pattern refines another one if it covers only what the other covers, so that it
occurs in fewer texts.  Two ways to come by such pairs are shown: a part that has
to be there in the first pattern may be missing in the second, and the same parts
stand in front in both.
-/

import Polyglot.Proofs.Pattern.Search

namespace Polyglot

namespace Pattern

/-- `p.Refines q` says that `p` covers only what `q` covers. -/
def Refines (p q : Pattern) : Prop :=
  ∀ before middle after, Spans p before middle after → Spans q before middle after

variable {p q r : Pattern}

/-- The same pattern in front. -/
theorem Refines.seq (refines : q.Refines r) (p : Pattern) : (Pattern.seq p q).Refines (.seq p r) := by
  intro before middle after spans
  rw [spans_seq_iff] at spans ⊢
  obtain ⟨first, second, rfl, hfirst, hsecond⟩ := spans
  exact ⟨first, second, rfl, hfirst, refines _ _ _ hsecond⟩

/-- What has to be there may be there. -/
theorem refines_seq_opt (p q r : Pattern) :
    (Pattern.seq p (.seq q r)).Refines (.seq (.opt (.seq p q)) r) := by
  intro before middle after spans
  rw [spans_seq_iff] at spans
  obtain ⟨first, rest, rfl, hp, hrest⟩ := spans
  rw [spans_seq_iff] at hrest
  obtain ⟨second, third, rfl, hq, hr⟩ := hrest
  rw [List.append_assoc] at hp
  rw [← List.append_assoc]
  apply Spans.seq
  · exact .optSome (.seq hp hq)
  · rwa [List.reverse_append, List.append_assoc]

theorem sequence_cons (p : Pattern) {rest : List Pattern} (hne : rest ≠ []) :
    sequence (p :: rest) = .seq p (sequence rest) := by
  cases rest with
  | nil => contradiction
  | cons q rest => rfl

/-- The same patterns in front. -/
theorem Refines.sequence_append {first second : List Pattern}
    (refines : (sequence first).Refines (sequence second)) (hfirst : first ≠ [])
    (hsecond : second ≠ []) (front : List Pattern) :
    (sequence (front ++ first)).Refines (sequence (front ++ second)) := by
  induction front with
  | nil => exact refines
  | cons p front ih =>
      have hne {rest : List Pattern} (hrest : rest ≠ []) : front ++ rest ≠ [] :=
        List.append_ne_nil_of_right_ne_nil front hrest
      rw [List.cons_append, List.cons_append, sequence_cons p (hne hfirst),
        sequence_cons p (hne hsecond)]
      exact ih.seq p

/-- A pattern occurs where one that refines it does. -/
theorem Refines.occursIn_eq_true (refines : p.Refines q) {text : List Char}
    (hoccurs : p.occursIn text = true) : q.occursIn text = true := by
  rw [occursIn_iff_occurs] at hoccurs ⊢
  obtain ⟨before, middle, after, htext, spans⟩ := hoccurs
  exact ⟨before, middle, after, htext, refines _ _ _ spans⟩

end Pattern

end Polyglot
