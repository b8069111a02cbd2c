/-
# The search finds the occurrences of a pattern

A mark says that a character set has just read its character, and the rest of the
pattern is still to come.  `Resumes` says which stretches of the text complete a
pattern from its marks.  Reading one more character takes that character off those
stretches, and off those that the pattern covers from the start where it may start;
this is the step.  By induction on the text the search succeeds exactly on the texts
in which the pattern occurs.
-/

import Mathlib.Data.List.Basic
import Polyglot.Pattern.Marking

namespace Polyglot

namespace Pattern

/-! ## Cuts of a text -/

/-- A text can be cut in two parts that are in a relation. -/
def Cuts (relates : List Char → List Char → Prop) (text : List Char) : Prop :=
  ∃ first second, text = first ++ second ∧ relates first second

variable {relates others : List Char → List Char → Prop} {c : Char} {text : List Char}

theorem cuts_nil_iff : Cuts relates [] ↔ relates [] [] := by
  constructor
  · rintro ⟨first, second, heq, hrelates⟩
    obtain ⟨rfl, rfl⟩ := List.append_eq_nil_iff.mp heq.symm
    exact hrelates
  · intro hrelates
    exact ⟨[], [], rfl, hrelates⟩

/-- A text is cut before its first character or behind it. -/
theorem cuts_cons_iff :
    Cuts relates (c :: text) ↔
      relates [] (c :: text) ∨ Cuts (fun first second => relates (c :: first) second) text := by
  constructor
  · rintro ⟨first, second, heq, hrelates⟩
    cases first with
    | nil =>
        obtain rfl : c :: text = second := heq
        exact Or.inl hrelates
    | cons other first =>
        obtain ⟨rfl, rfl⟩ := List.cons_eq_cons.mp heq
        exact Or.inr ⟨first, second, rfl, hrelates⟩
  · rintro (hrelates | ⟨first, second, rfl, hrelates⟩)
    · exact ⟨[], c :: text, rfl, hrelates⟩
    · exact ⟨c :: first, second, rfl, hrelates⟩

theorem cuts_congr (hiff : ∀ first second, relates first second ↔ others first second) :
    Cuts relates text ↔ Cuts others text := by
  simp only [Cuts, hiff]

theorem cuts_or_iff :
    Cuts (fun first second => relates first second ∨ others first second) text ↔
      Cuts relates text ∨ Cuts others text := by
  simp only [Cuts, and_or_left, exists_or]

theorem cuts_and_left_iff {allowed : Prop} :
    Cuts (fun first second => allowed ∧ relates first second) text ↔
      allowed ∧ Cuts relates text := by
  simp only [Cuts, and_left_comm, exists_and_left]

/-! ## The stretches that a pattern covers -/

variable {p q : Pattern} {before middle after : List Char}

theorem spans_empty_iff : Spans .empty before middle after ↔ middle = [] := by
  constructor
  · rintro ⟨⟩
    rfl
  · rintro rfl
    exact .empty

theorem spans_look_iff {l : Look} :
    Spans (.look l) before middle after ↔
      middle = [] ∧ l.holds (placeBetween before after) = true := by
  constructor
  · rintro ⟨⟩
    exact ⟨rfl, by assumption⟩
  · rintro ⟨rfl, hholds⟩
    exact .look hholds

theorem spans_set_iff {s : CharSet} :
    Spans (.set s) before middle after ↔ ∃ c, middle = [c] ∧ s.contains c.toNat = true := by
  constructor
  · rintro ⟨⟩
    exact ⟨_, rfl, by assumption⟩
  · rintro ⟨c, rfl, hmem⟩
    exact .set hmem

theorem spans_seq_iff :
    Spans (.seq p q) before middle after ↔
      Cuts (fun first second => Spans p before first (second ++ after) ∧
        Spans q (first.reverse ++ before) second after) middle := by
  constructor
  · rintro ⟨⟩
    exact ⟨_, _, rfl, by assumption, by assumption⟩
  · rintro ⟨first, second, rfl, hfirst, hsecond⟩
    exact .seq hfirst hsecond

theorem spans_alt_iff :
    Spans (.alt p q) before middle after ↔
      Spans p before middle after ∨ Spans q before middle after := by
  constructor
  · intro spans
    cases spans with
    | altLeft hleft => exact Or.inl hleft
    | altRight hright => exact Or.inr hright
  · rintro (hleft | hright)
    · exact .altLeft hleft
    · exact .altRight hright

theorem spans_opt_iff :
    Spans (.opt p) before middle after ↔ middle = [] ∨ Spans p before middle after := by
  constructor
  · intro spans
    cases spans with
    | optNone => exact Or.inl rfl
    | optSome hsome => exact Or.inr hsome
  · rintro (rfl | hsome)
    · exact .optNone
    · exact .optSome hsome

/-- One or more times is once, and then any number of times. -/
theorem spans_plus_iff :
    Spans (.plus p) before middle after ↔
      Cuts (fun first second => Spans p before first (second ++ after) ∧
        Spans (star p) (first.reverse ++ before) second after) middle := by
  constructor
  · intro spans
    cases spans with
    | plusOnce honce => exact ⟨middle, [], (List.append_nil _).symm, honce, .optNone⟩
    | plusMore hfirst hsecond => exact ⟨_, _, rfl, hfirst, .optSome hsecond⟩
  · rintro ⟨first, second, rfl, hfirst, hsecond⟩
    cases hsecond with
    | optNone =>
        rw [List.append_nil]
        exact .plusOnce hfirst
    | optSome hsecond => exact .plusMore hfirst hsecond

/-- What has been read, given backwards, after one more character. -/
theorem reverse_cons_append (c : Char) (read before : List Char) :
    (c :: read).reverse ++ before = read.reverse ++ c :: before := by
  rw [List.reverse_cons, List.append_assoc, List.singleton_append]

/-- The first of the repetitions that cover a character takes its place, since those before it
cover nothing. -/
theorem spans_plus_cons_iff :
    Spans (.plus p) before (c :: middle) after ↔
      Cuts (fun first second => Spans p before (c :: first) (second ++ after) ∧
        Spans (star p) (first.reverse ++ c :: before) second after) middle := by
  constructor
  · intro spans
    generalize hpattern : Pattern.plus p = pattern at spans
    generalize htext : c :: middle = text at spans
    induction spans with
    | plusOnce honce =>
        cases hpattern
        subst htext
        exact ⟨middle, [], (List.append_nil _).symm, honce, .optNone⟩
    | @plusMore _ _ first second _ hfirst hsecond _ ih =>
        cases hpattern
        cases first with
        | nil => exact ih rfl htext
        | cons other first =>
            obtain ⟨rfl, rfl⟩ := List.cons_eq_cons.mp htext
            rw [reverse_cons_append] at hsecond
            exact ⟨first, second, rfl, hfirst, .optSome hsecond⟩
    | _ => cases hpattern
  · rintro ⟨first, second, rfl, hfirst, hsecond⟩
    rw [spans_plus_iff]
    refine ⟨c :: first, second, rfl, hfirst, ?_⟩
    rwa [reverse_cons_append]

theorem spans_star_cons_iff :
    Spans (star p) before (c :: middle) after ↔ Spans (.plus p) before (c :: middle) after := by
  rw [star, spans_opt_iff, or_iff_right (List.cons_ne_nil _ _)]

/-- A pattern that covers the empty text at a place is nullable there. -/
theorem nullable_iff :
    p.nullable (placeBetween before after) = true ↔ Spans p before [] after := by
  induction p with
  | empty => simp [nullable, spans_empty_iff]
  | look l => simp [nullable, spans_look_iff]
  | set s => simp [nullable, spans_set_iff]
  | seq p q ihp ihq => simp [nullable, spans_seq_iff, cuts_nil_iff, ihp, ihq]
  | alt p q ihp ihq => simp [nullable, spans_alt_iff, ihp, ihq]
  | opt p _ => simp [nullable, spans_opt_iff]
  | plus p ih =>
      rw [nullable, ih, spans_plus_iff, cuts_nil_iff]
      exact (and_iff_left .optNone).symm

end Pattern

namespace Marking

open Pattern

/-! ## What marks stand for -/

/-- The pattern without its marks. -/
def erase : Marking → Pattern
  | idle p => p
  | hit s => .set s
  | seq m n => .seq m.erase n.erase
  | alt m n => .alt m.erase n.erase
  | opt m => .opt m.erase
  | plus m => .plus m.erase

/-- `Resumes m before middle after` says that `middle` completes the pattern of `m` from one
of its marks, in a text that has `before` in front of it, given backwards, and `after`
behind it. -/
inductive Resumes : Marking → List Char → List Char → List Char → Prop
  | hit {s : CharSet} {before after : List Char} : Resumes (.hit s) before [] after
  | seqFirst {m n : Marking} {before first second after : List Char} :
      Resumes m before first (second ++ after) →
      Spans n.erase (first.reverse ++ before) second after →
      Resumes (.seq m n) before (first ++ second) after
  | seqSecond {m n : Marking} {before middle after : List Char} :
      Resumes n before middle after → Resumes (.seq m n) before middle after
  | altFirst {m n : Marking} {before middle after : List Char} :
      Resumes m before middle after → Resumes (.alt m n) before middle after
  | altSecond {m n : Marking} {before middle after : List Char} :
      Resumes n before middle after → Resumes (.alt m n) before middle after
  | opt {m : Marking} {before middle after : List Char} :
      Resumes m before middle after → Resumes (.opt m) before middle after
  | plus {m : Marking} {before first second after : List Char} :
      Resumes m before first (second ++ after) →
      Spans (star m.erase) (first.reverse ++ before) second after →
      Resumes (.plus m) before (first ++ second) after

variable {m n : Marking} {p q : Pattern} {c : Char} {before middle after : List Char}

theorem not_resumes_idle : ¬ Resumes (.idle p) before middle after := by
  rintro ⟨⟩

theorem resumes_hit_iff {s : CharSet} : Resumes (.hit s) before middle after ↔ middle = [] := by
  constructor
  · rintro ⟨⟩
    rfl
  · rintro rfl
    exact .hit

theorem resumes_seq_iff :
    Resumes (.seq m n) before middle after ↔
      Cuts (fun first second => Resumes m before first (second ++ after) ∧
        Spans n.erase (first.reverse ++ before) second after) middle ∨
      Resumes n before middle after := by
  constructor
  · intro resumes
    cases resumes with
    | seqFirst hfirst hsecond => exact Or.inl ⟨_, _, rfl, hfirst, hsecond⟩
    | seqSecond hsecond => exact Or.inr hsecond
  · rintro (⟨first, second, rfl, hfirst, hsecond⟩ | hsecond)
    · exact .seqFirst hfirst hsecond
    · exact .seqSecond hsecond

theorem resumes_alt_iff :
    Resumes (.alt m n) before middle after ↔
      Resumes m before middle after ∨ Resumes n before middle after := by
  constructor
  · intro resumes
    cases resumes with
    | altFirst hfirst => exact Or.inl hfirst
    | altSecond hsecond => exact Or.inr hsecond
  · rintro (hfirst | hsecond)
    · exact .altFirst hfirst
    · exact .altSecond hsecond

theorem resumes_opt_iff :
    Resumes (.opt m) before middle after ↔ Resumes m before middle after := by
  constructor
  · rintro ⟨⟩
    assumption
  · exact .opt

theorem resumes_plus_iff :
    Resumes (.plus m) before middle after ↔
      Cuts (fun first second => Resumes m before first (second ++ after) ∧
        Spans (star m.erase) (first.reverse ++ before) second after) middle := by
  constructor
  · rintro ⟨⟩
    exact ⟨_, _, rfl, by assumption, by assumption⟩
  · rintro ⟨first, second, rfl, hfirst, hsecond⟩
    exact .plus hfirst hsecond

/-! ## Idle parts are kept together -/

@[simp]
theorem erase_joinSeq : (joinSeq m n).erase = .seq m.erase n.erase := by
  unfold joinSeq
  split <;> rfl

@[simp]
theorem erase_joinAlt : (joinAlt m n).erase = .alt m.erase n.erase := by
  unfold joinAlt
  split <;> rfl

@[simp]
theorem erase_joinOpt : (joinOpt m).erase = .opt m.erase := by
  unfold joinOpt
  split <;> rfl

@[simp]
theorem erase_joinPlus : (joinPlus m).erase = .plus m.erase := by
  unfold joinPlus
  split <;> rfl

theorem resumes_joinSeq_iff :
    Resumes (joinSeq m n) before middle after ↔ Resumes (.seq m n) before middle after := by
  unfold joinSeq
  split
  · simp only [resumes_seq_iff, not_resumes_idle, Cuts, false_and, and_false, exists_false,
      or_false]
  · rfl

theorem resumes_joinAlt_iff :
    Resumes (joinAlt m n) before middle after ↔ Resumes (.alt m n) before middle after := by
  unfold joinAlt
  split
  · simp only [resumes_alt_iff, not_resumes_idle, or_false]
  · rfl

theorem resumes_joinOpt_iff :
    Resumes (joinOpt m) before middle after ↔ Resumes (.opt m) before middle after := by
  unfold joinOpt
  split
  · simp only [resumes_opt_iff, not_resumes_idle]
  · rfl

theorem resumes_joinPlus_iff :
    Resumes (joinPlus m) before middle after ↔ Resumes (.plus m) before middle after := by
  unfold joinPlus
  split
  · simp only [resumes_plus_iff, not_resumes_idle, Cuts, false_and, and_false, exists_false]
  · rfl

/-! ## Reading a character -/

theorem nullable_eq (place : Place) (m : Marking) : m.nullable place = m.erase.nullable place := by
  induction m <;> simp_all [nullable, erase, Pattern.nullable]

theorem nullable_iff :
    m.nullable (placeBetween before after) = true ↔ Spans m.erase before [] after := by
  rw [nullable_eq, Pattern.nullable_iff]

/-- A mark stands where the pattern may end exactly if nothing has to follow it. -/
theorem ends_iff : m.ends (placeBetween before after) = true ↔ Resumes m before [] after := by
  induction m with
  | idle p => simp [ends, not_resumes_idle]
  | hit s => simp [ends, resumes_hit_iff]
  | seq m n ihm ihn =>
      simp [ends, resumes_seq_iff, cuts_nil_iff, ihm, ihn, nullable_iff, or_comm]
  | alt m n ihm ihn => simp [ends, resumes_alt_iff, ihm, ihn]
  | opt m ih => simp [ends, resumes_opt_iff, ih]
  | plus m ih =>
      rw [ends, ih, resumes_plus_iff, cuts_nil_iff]
      exact (and_iff_left .optNone).symm

/-- Whether a mark stands at the end, in front of a character that is there. -/
theorem ends_cons_iff (m : Marking) (before : List Char) (c : Char) (after : List Char) :
    m.ends ⟨before.head?, some c⟩ = true ↔ Resumes m before [] (c :: after) :=
  @ends_iff m before (c :: after)

theorem nullable_cons_iff (m : Marking) (before : List Char) (c : Char) (after : List Char) :
    m.nullable ⟨before.head?, some c⟩ = true ↔ Spans m.erase before [] (c :: after) :=
  @nullable_iff m before (c :: after)

theorem erase_enter (place : Place) (c : Char) (p : Pattern) : (enter place c p).erase = p := by
  induction p with
  | empty => rfl
  | look l => rfl
  | set s =>
      rw [enter]
      split <;> rfl
  | seq p q ihp ihq =>
      rw [enter, erase_joinSeq, ihp]
      split
      · rw [ihq]
      · rfl
  | alt p q ihp ihq => rw [enter, erase_joinAlt, ihp, ihq]
  | opt p ih => rw [enter, erase_joinOpt, ih]
  | plus p ih => rw [enter, erase_joinPlus, ih]

theorem erase_advance (place : Place) (c : Char) (fresh : Bool) (m : Marking) :
    (advance place c fresh m).erase = m.erase := by
  induction m generalizing fresh with
  | idle p =>
      rw [advance]
      split
      · exact erase_enter place c p
      · rfl
  | hit s =>
      rw [advance]
      split <;> rfl
  | seq m n ihm ihn => rw [advance, erase_joinSeq, ihm, ihn, erase]
  | alt m n ihm ihn => rw [advance, erase_joinAlt, ihm, ihn, erase]
  | opt m ih => rw [advance, erase_joinOpt, ih, erase]
  | plus m ih => rw [advance, erase_joinPlus, ih, erase]

/-- A pattern that has been entered with a character resumes where it covers that character
and what follows it. -/
theorem resumes_enter_iff :
    Resumes (enter ⟨before.head?, some c⟩ c p) (c :: before) middle after ↔
      Spans p before (c :: middle) after := by
  induction p generalizing middle after with
  | empty => simp [enter, not_resumes_idle, spans_empty_iff]
  | look l => simp [enter, not_resumes_idle, spans_look_iff]
  | set s =>
      rw [enter, spans_set_iff]
      split
      case isTrue hmem => simp [resumes_hit_iff, hmem]
      case isFalse hmem => simp [not_resumes_idle, hmem]
  | seq p q ihp ihq =>
      have herase : (if p.nullable ⟨before.head?, some c⟩ then enter ⟨before.head?, some c⟩ c q
          else idle q).erase = q := by
        split
        · exact erase_enter _ c q
        · rfl
      have hfirst : Cuts (fun first second =>
          Resumes (enter ⟨before.head?, some c⟩ c p) (c :: before) first (second ++ after) ∧
            Spans q (first.reverse ++ c :: before) second after) middle ↔
          Cuts (fun first second => Spans p before (c :: first) (second ++ after) ∧
            Spans q ((c :: first).reverse ++ before) second after) middle := by
        apply cuts_congr
        intro first second
        rw [ihp, reverse_cons_append]
      have hsecond : Resumes (if p.nullable ⟨before.head?, some c⟩ then
          enter ⟨before.head?, some c⟩ c q else idle q) (c :: before) middle after ↔
          Spans p before [] (c :: (middle ++ after)) ∧ Spans q before (c :: middle) after := by
        have hnullable : p.nullable ⟨before.head?, some c⟩ = true ↔
            Spans p before [] (c :: (middle ++ after)) :=
          @Pattern.nullable_iff p before (c :: (middle ++ after))
        rw [← hnullable]
        split
        case isTrue hskips => rw [ihq, and_iff_right hskips]
        case isFalse hskips => simp [not_resumes_idle, hskips]
      rw [enter, resumes_joinSeq_iff, resumes_seq_iff, herase, hfirst, hsecond, spans_seq_iff,
        cuts_cons_iff, or_comm]
      rfl
  | alt p q ihp ihq => rw [enter, resumes_joinAlt_iff, resumes_alt_iff, ihp, ihq, spans_alt_iff]
  | opt p ih =>
      rw [enter, resumes_joinOpt_iff, resumes_opt_iff, ih, spans_opt_iff,
        or_iff_right (List.cons_ne_nil _ _)]
  | plus p ih =>
      rw [enter, resumes_joinPlus_iff, resumes_plus_iff, erase_enter, spans_plus_cons_iff]
      apply cuts_congr
      intro first second
      rw [ih]

/-- The step of the search.  After one more character the marks stand for what they stood for
with that character in front, and for what the pattern covers if it may start here. -/
theorem resumes_advance_iff {fresh : Bool} :
    Resumes (advance ⟨before.head?, some c⟩ c fresh m) (c :: before) middle after ↔
      Resumes m before (c :: middle) after ∨
        fresh = true ∧ Spans m.erase before (c :: middle) after := by
  induction m generalizing fresh middle after with
  | idle p =>
      rw [advance, or_iff_right not_resumes_idle, erase]
      split
      case isTrue hfresh => rw [resumes_enter_iff, and_iff_right hfresh]
      case isFalse hfresh => simp [not_resumes_idle, hfresh]
  | hit s =>
      rw [advance, erase, spans_set_iff, resumes_hit_iff, or_iff_right (List.cons_ne_nil _ _)]
      split
      case isTrue hmem => simp_all [resumes_hit_iff]
      case isFalse hmem => simp_all [not_resumes_idle]
  | seq m n ihm ihn =>
      have hends := m.ends_cons_iff before c (middle ++ after)
      have hnullable := m.nullable_cons_iff before c (middle ++ after)
      rw [advance, resumes_joinSeq_iff, resumes_seq_iff, erase_advance, resumes_seq_iff, erase,
        spans_seq_iff, cuts_cons_iff, cuts_cons_iff, ihn]
      simp only [ihm, Bool.or_eq_true, Bool.and_eq_true, hends, hnullable, or_and_right,
        cuts_or_iff, and_assoc, cuts_and_left_iff, reverse_cons_append, List.cons_append,
        List.reverse_nil, List.nil_append]
      grind
  | alt m n ihm ihn =>
      rw [advance, resumes_joinAlt_iff, resumes_alt_iff, ihm, ihn, resumes_alt_iff, erase,
        spans_alt_iff]
      grind
  | opt m ih =>
      rw [advance, resumes_joinOpt_iff, resumes_opt_iff, ih, resumes_opt_iff, erase,
        spans_opt_iff, or_iff_right (List.cons_ne_nil _ _)]
  | plus m ih =>
      have hends := m.ends_cons_iff before c (middle ++ after)
      rw [advance, resumes_joinPlus_iff, resumes_plus_iff, erase_advance, resumes_plus_iff, erase,
        spans_plus_cons_iff, cuts_cons_iff]
      simp only [ih, Bool.or_eq_true, hends, or_and_right, cuts_or_iff, and_assoc,
        cuts_and_left_iff, reverse_cons_append, List.cons_append, List.reverse_nil,
        List.nil_append, spans_star_cons_iff, spans_plus_cons_iff]
      grind

/-! ## Reading a text -/

/-- The search succeeds if the rest of the text begins with what completes the pattern from its
marks, or holds what the whole pattern covers. -/
theorem search_iff {text : List Char} :
    m.search before.head? text = true ↔
      Cuts (Resumes m before) text ∨
        Cuts (fun skipped rest => Cuts (Spans m.erase (skipped.reverse ++ before)) rest) text := by
  induction text generalizing m before with
  | nil =>
      have hends : m.ends ⟨before.head?, none⟩ = true ↔ Resumes m before [] [] :=
        @ends_iff m before []
      have hnullable : m.nullable ⟨before.head?, none⟩ = true ↔ Spans m.erase before [] [] :=
        @nullable_iff m before []
      rw [search, Bool.or_eq_true, hends, hnullable, cuts_nil_iff, cuts_nil_iff, cuts_nil_iff]
      rfl
  | cons c text ih =>
      have hends := m.ends_cons_iff before c text
      have hnullable := m.nullable_cons_iff before c text
      have hrest := @ih (m.advance ⟨before.head?, some c⟩ c true) (c :: before)
      rw [List.head?_cons] at hrest
      rw [search, Bool.or_eq_true, Bool.or_eq_true, hends, hnullable, hrest, cuts_cons_iff,
        cuts_cons_iff, cuts_cons_iff]
      simp only [erase_advance, reverse_cons_append, List.reverse_nil, List.nil_append]
      have hstep : Cuts (Resumes (m.advance ⟨before.head?, some c⟩ c true) (c :: before)) text ↔
          Cuts (fun middle after => Resumes m before (c :: middle) after) text ∨
            Cuts (fun middle after => Spans m.erase before (c :: middle) after) text := by
        rw [← cuts_or_iff]
        apply cuts_congr
        intro middle after
        rw [resumes_advance_iff, and_iff_right rfl]
      rw [hstep]
      grind

end Marking

namespace Pattern

theorem occurs_iff {p : Pattern} {text : List Char} :
    p.Occurs text ↔ Cuts (fun skipped rest => Cuts (Spans p skipped.reverse) rest) text := by
  constructor
  · rintro ⟨before, middle, after, rfl, spans⟩
    refine ⟨before.reverse, middle ++ after, rfl, middle, after, rfl, ?_⟩
    rwa [List.reverse_reverse]
  · rintro ⟨skipped, rest, rfl, middle, after, rfl, spans⟩
    exact ⟨skipped.reverse, middle, after, by rw [List.reverse_reverse], spans⟩

/-- The search succeeds exactly on the texts in which the pattern occurs. -/
theorem occursIn_iff_occurs {p : Pattern} {text : List Char} :
    p.occursIn text = true ↔ p.Occurs text := by
  have hsearch := @Marking.search_iff (.idle p) [] text
  have hresumes : ¬ Cuts (Marking.Resumes (.idle p) []) text := by
    rintro ⟨_, _, -, resumes⟩
    exact Marking.not_resumes_idle resumes
  rw [or_iff_right hresumes] at hsearch
  simpa only [occursIn, occurs_iff, List.append_nil, List.head?_nil, Marking.erase] using hsearch

end Pattern

end Polyglot
