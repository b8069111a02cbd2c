/-
# The lines that a text writes

A text writes some lines if it consists of them in their order, with a run of
breaks between each two neighbours.  The same text writes several lists of lines
in this sense, since two runs with an empty line between them are one run as well.
Only one of the lists has no empty line but at its ends, and it is the one that
`Lines.normalize` gives.

So what `Lines.normalize` answers is known without a look at how it is computed:
which lists of lines are answers, that nothing of a text is lost but its breaks,
and that lines which are written out again, with whatever breaks, are read back.
-/

import Mathlib.Data.List.Basic
import Polyglot.Proofs.Lines.Breaks

namespace Polyglot

namespace Lines

/-- `Writes lines text` says that a text consists of some lines in their order, with a run
of breaks between each two neighbours. -/
inductive Writes : List Line → List Char → Prop
  /-- A line alone is its text. -/
  | last (line : Line) : Writes [line] line
  /-- A line, a run of breaks, and the text of further lines. -/
  | next {lines : List Line} {text : List Char} (line : Line) (run : BreakRun)
      (rest : Writes lines text) : Writes (line :: lines) (line ++ (run.chars ++ text))

/-- What holds of the lines of a snippet. -/
structure Normal (lines : List Line) : Prop where
  /-- There is at least one. -/
  ne_nil : lines ≠ []
  /-- No line holds a break. -/
  isBreak_eq_false : ∀ line ∈ lines, ∀ c ∈ line, isBreak c = false
  /-- Only the first and the last one may be empty. -/
  inner_ne_nil : ∀ line ∈ lines.tail.dropLast, line ≠ []

variable {line : Line} {lines : List Line} {text : List Char} {c : Char}

theorem Writes.lines_ne_nil (writes : Writes lines text) : lines ≠ [] := by
  cases writes <;> exact List.cons_ne_nil _ _

/-! ## A text has the lines that it writes -/

/-- Characters that are no breaks belong to the first line. -/
theorem normalize_append (hline : ∀ c ∈ line, isBreak c = false) {first : Line}
    (htext : normalize text = first :: lines) :
    normalize (line ++ text) = (line ++ first) :: lines := by
  induction line with
  | nil => exact htext
  | cons c line ih =>
      rw [List.forall_mem_cons] at hline
      have hrest : (scan (line ++ text)).1 = (line ++ first) :: lines := ih hline.2
      rw [List.cons_append, normalize_eq_fst_scan, scan_cons, prepend, hline.1, hrest]
      rfl

/-- A run of breaks that ends where it is cut off opens one line. -/
theorem BreakRun.normalize_append (run : BreakRun) (htext : text.head?.any isBreak = false) :
    normalize (run.chars ++ text) = [] :: normalize text := by
  have hflag : (scan text).2 = false := (snd_scan text).trans htext
  rw [normalize_eq_fst_scan, run.scan_append, prepend, hflag]
  rfl

/-- Behind a run the next line begins, or the text ends. -/
theorem Writes.head?_any_isBreak (writes : Writes lines text)
    (hlines : ∀ line ∈ lines, ∀ c ∈ line, isBreak c = false)
    (hinner : ∀ line ∈ lines.dropLast, line ≠ []) : text.head?.any isBreak = false := by
  have hhead {line : Line} (hline : line ∈ lines) {after : List Char} (hne : line ≠ []) :
      (line ++ after).head?.any isBreak = false := by
    obtain ⟨c, rest, rfl⟩ := List.exists_cons_of_ne_nil hne
    exact hlines _ hline c List.mem_cons_self
  cases writes with
  | last =>
      by_cases hne : text = []
      · rw [hne]
        rfl
      · have hlast : (text ++ []).head?.any isBreak = false := hhead List.mem_cons_self hne
        rwa [List.append_nil] at hlast
  | next line run rest =>
      apply hhead List.mem_cons_self
      apply hinner
      rw [List.dropLast_cons_of_ne_nil rest.lines_ne_nil]
      exact List.mem_cons_self

/-- A text has the lines that it writes, if only the first and the last one may be empty. -/
theorem Writes.normalize_eq (writes : Writes lines text) (normal : Normal lines) :
    normalize text = lines := by
  -- The induction is on the lines from the first one on, so it needs that all lines but the
  -- last are not empty of those behind the first one.
  obtain ⟨-, hlines, hinner⟩ := normal
  induction writes with
  | last line =>
      have hline : normalize (line ++ []) = [line ++ []] :=
        normalize_append (hlines line List.mem_cons_self) rfl
      rwa [List.append_nil] at hline
  | @next lines text line run rest ih =>
      rw [List.forall_mem_cons] at hlines
      have hrest : normalize text = lines := by
        apply ih hlines.2
        intro other hmem
        rw [← List.tail_dropLast] at hmem
        exact hinner other (List.mem_of_mem_tail hmem)
      have hrun := run.normalize_append (rest.head?_any_isBreak hlines.2 hinner)
      rw [normalize_append hlines.1 hrun, List.append_nil, hrest]

/-! ## Every text writes some lines -/

theorem Writes.pushFront (writes : Writes lines text) (c : Char) :
    Writes (pushFront c lines) (c :: text) := by
  cases writes with
  | last => exact .last (c :: text)
  | next line run rest => exact .next (c :: line) run rest

theorem Normal.pushFront (normal : Normal lines) (hc : isBreak c = false) :
    Normal (pushFront c lines) := by
  obtain ⟨line, rest, rfl⟩ := List.exists_cons_of_ne_nil normal.ne_nil
  obtain ⟨-, hlines, hinner⟩ := normal
  rw [List.forall_mem_cons] at hlines
  refine ⟨List.cons_ne_nil _ _, ?_, hinner⟩
  rw [Lines.pushFront, List.forall_mem_cons]
  exact ⟨List.forall_mem_cons.mpr ⟨hc, hlines.1⟩, hlines.2⟩

/-- A break in front of a run belongs to the run. -/
theorem Writes.cons_break (writes : Writes lines text)
    (hlines : ∀ line ∈ lines, ∀ c ∈ line, isBreak c = false) (hc : isBreak c = true)
    (htext : text.head?.any isBreak = true) : Writes lines (c :: text) := by
  cases writes with
  | last =>
      cases text with
      | nil => contradiction
      | cons d text =>
          have hd := hlines _ List.mem_cons_self d List.mem_cons_self
          exact absurd htext (by simp [hd])
  | next line run rest =>
      cases line with
      | nil =>
          have hrun : ∀ d ∈ c :: run.chars, isBreak d = true :=
            List.forall_mem_cons.mpr ⟨hc, run.isBreak_of_mem⟩
          exact .next [] ⟨c :: run.chars, List.cons_ne_nil _ _, hrun⟩ rest
      | cons d line =>
          have hd := hlines _ List.mem_cons_self d List.mem_cons_self
          exact absurd htext (by simp [hd])

/-- In front of a break that begins a run stands a line of its own. -/
theorem Normal.cons_nil (normal : Normal lines) (writes : Writes lines text)
    (htext : text.head?.any isBreak = false) : Normal ([] :: lines) := by
  obtain ⟨hne, hlines, hinner⟩ := normal
  refine ⟨List.cons_ne_nil _ _, List.forall_mem_cons.mpr ⟨nofun, hlines⟩, ?_⟩
  cases writes with
  | last => exact nofun
  | next line run rest =>
      rw [List.tail_cons, List.dropLast_cons_of_ne_nil rest.lines_ne_nil, List.forall_mem_cons]
      refine ⟨?_, hinner⟩
      rintro rfl
      obtain ⟨d, more, hrun⟩ := List.exists_cons_of_ne_nil run.ne_nil
      have hd : isBreak d = true := run.isBreak_of_mem d (hrun ▸ List.mem_cons_self)
      rw [hrun] at htext
      exact absurd htext (by simp [hd])

theorem exists_writes (text : List Char) : ∃ lines, Normal lines ∧ Writes lines text := by
  induction text with
  | nil => exact ⟨[[]], ⟨List.cons_ne_nil _ _, by simp, nofun⟩, .last []⟩
  | cons c text ih =>
      obtain ⟨lines, normal, writes⟩ := ih
      cases hc : isBreak c with
      | false => exact ⟨pushFront c lines, normal.pushFront hc, writes.pushFront c⟩
      | true =>
          cases htext : text.head?.any isBreak with
          | true => exact ⟨lines, normal, writes.cons_break normal.isBreak_eq_false hc htext⟩
          | false =>
              have hrun : ∀ d ∈ [c], isBreak d = true := List.forall_mem_singleton.mpr hc
              exact ⟨[] :: lines, normal.cons_nil writes htext,
                .next [] ⟨[c], List.cons_ne_nil _ _, hrun⟩ writes⟩

theorem normal_normalize (text : List Char) : Normal (normalize text) := by
  obtain ⟨lines, normal, writes⟩ := exists_writes text
  rwa [writes.normalize_eq normal]

theorem writes_normalize (text : List Char) : Writes (normalize text) text := by
  obtain ⟨lines, normal, writes⟩ := exists_writes text
  rwa [writes.normalize_eq normal]

/-! ## What is read back, and what is lost -/

/-- Lines with a line feed between each two neighbours are written. -/
theorem writes_intercalate (hne : lines ≠ []) : Writes lines (['\n'].intercalate lines) := by
  induction lines with
  | nil => contradiction
  | cons line rest ih =>
      by_cases hrest : rest = []
      · rw [hrest, List.intercalate_singleton]
        exact .last line
      · rw [List.intercalate_cons_of_ne_nil hrest, List.append_assoc]
        exact .next line ⟨['\n'], List.cons_ne_nil _ _, by simp [isBreak]⟩ (ih hrest)

theorem normalize_intercalate (normal : Normal lines) :
    normalize (['\n'].intercalate lines) = lines :=
  (writes_intercalate normal.ne_nil).normalize_eq normal

/-- Between lines without breaks stand only breaks. -/
theorem Writes.flatten_eq (writes : Writes lines text)
    (hlines : ∀ line ∈ lines, ∀ c ∈ line, isBreak c = false) :
    lines.flatten = text.filter fun c => !isBreak c := by
  have hkept {line : Line} (hline : ∀ c ∈ line, isBreak c = false) :
      line.filter (fun c => !isBreak c) = line := by
    rw [List.filter_eq_self]
    intro c hmem
    rw [hline c hmem, Bool.not_false]
  induction writes with
  | last line =>
      rw [List.forall_mem_singleton] at hlines
      rw [List.flatten_singleton, hkept hlines]
  | next line run _ ih =>
      rw [List.forall_mem_cons] at hlines
      have hrun : run.chars.filter (fun c => !isBreak c) = [] := by
        rw [List.filter_eq_nil_iff]
        intro c hmem
        simp [run.isBreak_of_mem c hmem]
      rw [List.flatten_cons, ih hlines.2, List.filter_append, List.filter_append, hkept hlines.1,
        hrun, List.nil_append]

/-- The lines of a text are the only ones without breaks, and without empty lines but at the
ends, that the text writes.  All lists of such lines are the lines of some text.  With a
line feed between each two neighbours the lines of a text are its lines again, and
together they hold its characters in their order, except for the breaks.  They are what
two rewrites and a split leave: every carriage return, with a line feed behind it or
without, becomes a line feed, every run of line feeds becomes one, and the text is split
at these. -/
theorem normalize_eq_iff_writes :
    (∀ text lines, normalize text = lines ↔ Normal lines ∧ Writes lines text) ∧
    (∀ lines, (∃ text, normalize text = lines) ↔ Normal lines) ∧
    (∀ text, normalize (['\n'].intercalate (normalize text)) = normalize text) ∧
    (∀ text, (normalize text).flatten = text.filter fun c => !isBreak c) ∧
    ∀ text, normalize text = (collapseBreaks (unifyBreaks text)).splitOn '\n' := by
  refine ⟨?_, ?_, ?_, ?_, normalize_eq_splitOn⟩
  · intro text lines
    constructor
    · rintro rfl
      exact ⟨normal_normalize text, writes_normalize text⟩
    · rintro ⟨normal, writes⟩
      exact writes.normalize_eq normal
  · intro lines
    constructor
    · rintro ⟨text, rfl⟩
      exact normal_normalize text
    · intro normal
      exact ⟨_, normalize_intercalate normal⟩
  · intro text
    exact normalize_intercalate (normal_normalize text)
  · intro text
    exact (writes_normalize text).flatten_eq (normal_normalize text).isBreak_eq_false

end Lines

end Polyglot
