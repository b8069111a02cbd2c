/-
# Line breaks

How the breaks between the lines of a snippet are written does not matter.  Two
forms of this are shown.  The lines are those of two rewrites and a split, in
which first every carriage return, with a line feed behind it or not, becomes a
line feed, and then every run of line feeds becomes one.  And a snippet in which
each run of breaks is replaced by another one has the same lines, so the same is
detected in it.

Both go through the state of the scan from the right, `Lines.scan`: what a break
adds to it neither depends on which break it is, nor is added twice.
-/

import Polyglot.Detection

namespace Polyglot

namespace Lines

/-- The lines of a text, and whether it begins with a break. -/
def scan (text : List Char) : List Line × Bool := text.foldr prepend ([[]], false)

@[simp]
theorem scan_nil : scan [] = ([[]], false) := rfl

@[simp]
theorem scan_cons (c : Char) (text : List Char) : scan (c :: text) = prepend c (scan text) := rfl

theorem normalize_eq_fst_scan (text : List Char) : normalize text = (scan text).1 := rfl

/-- All breaks are alike. -/
theorem prepend_eq_prepend {first second : Char} (hfirst : isBreak first = true)
    (hsecond : isBreak second = true) (state : List Line × Bool) :
    prepend first state = prepend second state := by
  simp only [prepend, hfirst, hsecond, if_true]

/-- A break in front of a break adds nothing. -/
theorem prepend_prepend {first second : Char} (hfirst : isBreak first = true)
    (hsecond : isBreak second = true) (state : List Line × Bool) :
    prepend first (prepend second state) = prepend second state := by
  simp [prepend, hfirst, hsecond]

/-- The flag of the scan says whether the text begins with a break. -/
theorem snd_scan (text : List Char) : (scan text).2 = text.head?.any isBreak := by
  cases text with
  | nil => rfl
  | cons c text =>
      rw [scan_cons, prepend, List.head?_cons, Option.any_some]
      split
      case isTrue hbreak => exact hbreak.symm
      case isFalse hbreak => exact (Bool.eq_false_iff.mpr hbreak).symm

theorem mem_of_mem_pushFront {c d : Char} {lines : List Line} {line : Line}
    (hline : line ∈ pushFront c lines) (hmem : d ∈ line) :
    d = c ∨ ∃ other ∈ lines, d ∈ other := by
  cases lines with
  | nil =>
      obtain rfl := List.mem_singleton.mp hline
      exact Or.inl (List.mem_singleton.mp hmem)
  | cons first rest =>
      rcases List.mem_cons.mp hline with rfl | hrest
      · exact (List.mem_cons.mp hmem).imp_right fun hfirst => ⟨first, List.mem_cons_self, hfirst⟩
      · exact Or.inr ⟨line, List.mem_cons_of_mem _ hrest, hmem⟩

/-- A character seen by the scan adds no other character to the lines. -/
theorem mem_of_mem_prepend {c d : Char} {state : List Line × Bool} {line : Line}
    (hline : line ∈ (prepend c state).1) (hmem : d ∈ line) :
    d = c ∨ ∃ other ∈ state.1, d ∈ other := by
  rw [prepend] at hline
  split at hline
  case isTrue =>
      dsimp only at hline
      split at hline
      case isTrue => exact Or.inr ⟨line, hline, hmem⟩
      case isFalse =>
          rcases List.mem_cons.mp hline with rfl | hrest
          · exact absurd hmem List.not_mem_nil
          · exact Or.inr ⟨line, hrest, hmem⟩
  case isFalse => exact mem_of_mem_pushFront hline hmem

/-- The lines of a text have its characters only. -/
theorem mem_of_mem_normalize {text : List Char} {line : Line} (hline : line ∈ normalize text)
    {c : Char} (hmem : c ∈ line) : c ∈ text := by
  rw [normalize_eq_fst_scan] at hline
  induction text generalizing line with
  | nil =>
      obtain rfl := List.mem_singleton.mp hline
      exact hmem
  | cons d text ih =>
      rcases mem_of_mem_prepend hline hmem with rfl | ⟨other, hother, hc⟩
      · exact List.mem_cons_self
      · exact List.mem_cons_of_mem _ (ih hother hc)

/-! ## Two rewrites and a split -/

/-- Every carriage return becomes a line feed, together with the line feed behind it
if there is one. -/
def unifyBreaks : List Char → List Char
  | [] => []
  | '\r' :: '\n' :: text => '\n' :: unifyBreaks text
  | '\r' :: text => '\n' :: unifyBreaks text
  | c :: text => c :: unifyBreaks text

/-- Every run of line feeds becomes one line feed. -/
def collapseBreaks : List Char → List Char
  | [] => []
  | '\n' :: '\n' :: text => collapseBreaks ('\n' :: text)
  | c :: text => c :: collapseBreaks text

theorem scan_unifyBreaks (text : List Char) : scan (unifyBreaks text) = scan text := by
  induction text using unifyBreaks.induct with
  | case1 => rfl
  | case2 text ih =>
      rw [unifyBreaks, scan_cons, scan_cons, scan_cons, ih]
      exact (prepend_prepend rfl rfl (scan text)).symm
  | case3 text hlineFeed ih =>
      rw [unifyBreaks, scan_cons, scan_cons, ih]
      · exact prepend_eq_prepend rfl rfl (scan text)
      · exact hlineFeed
  | case4 c text hlineFeed hreturn ih =>
      rw [unifyBreaks, scan_cons, scan_cons, ih]
      · exact hlineFeed
      · exact hreturn

theorem notMem_unifyBreaks (text : List Char) : '\r' ∉ unifyBreaks text := by
  induction text using unifyBreaks.induct with
  | case1 => simp [unifyBreaks]
  | case2 text ih => simpa [unifyBreaks] using ih
  | case3 text hlineFeed ih => simpa [unifyBreaks] using ih
  | case4 c text hlineFeed hreturn ih =>
      have hc : c ≠ '\r' := fun heq => hreturn heq
      simpa [unifyBreaks, hc.symm] using ih

/-- Splitting at line feeds puts a character that is none in front of the first line. -/
theorem modifyHead_cons_eq_pushFront (c : Char) {lines : List Line} (hne : lines ≠ []) :
    lines.modifyHead (List.cons c) = pushFront c lines := by
  cases lines with
  | nil => contradiction
  | cons line rest => rfl

/-- In a text without carriage returns the lines are those between single line feeds. -/
theorem splitOn_collapseBreaks {text : List Char} (hreturn : '\r' ∉ text) :
    (collapseBreaks text).splitOn '\n' = (scan text).1 := by
  induction text using collapseBreaks.induct with
  | case1 => rfl
  | case2 text ih =>
      have hrest : '\r' ∉ '\n' :: text := fun hmem => hreturn (List.mem_cons_of_mem _ hmem)
      rw [collapseBreaks, ih hrest, scan_cons, scan_cons]
      exact congrArg Prod.fst (prepend_prepend rfl rfl (scan text)).symm
  | case3 c text hpair ih =>
      obtain ⟨hc, hrest⟩ := not_or.mp (mt List.mem_cons.mpr hreturn)
      have hlines := ih hrest
      rw [collapseBreaks, scan_cons, List.splitOn, List.splitOnP_cons_eq_if_modifyHead,
        ← List.splitOn, hlines, prepend]
      · by_cases hfeed : c = '\n'
        · subst hfeed
          have hflag : (scan text).2 = false := by
            rw [snd_scan]
            cases text with
            | nil => rfl
            | cons d text =>
                have hd : d ≠ '\n' := fun heq => hpair text rfl (by rw [heq])
                have hd' : d ≠ '\r' := fun heq => hrest (heq ▸ List.mem_cons_self)
                simp [isBreak, hd, hd']
          simp [isBreak, hflag]
        · have hbreak : isBreak c = false := by simp [isBreak, hfeed, Ne.symm hc]
          have hlines' : (scan text).1 ≠ [] := hlines ▸ List.splitOnP_ne_nil _ _
          simp [hbreak, hfeed, modifyHead_cons_eq_pushFront c hlines']
      · exact hpair

/-- The lines of a text are read off in two rewrites and a split. -/
theorem normalize_eq_splitOn (text : List Char) :
    normalize text = (collapseBreaks (unifyBreaks text)).splitOn '\n' := by
  rw [splitOn_collapseBreaks (notMem_unifyBreaks text), scan_unifyBreaks, normalize_eq_fst_scan]

/-! ## Replacing breaks -/

/-- A run of line breaks. -/
structure BreakRun where
  /-- The characters of the run. -/
  chars : List Char
  /-- There is at least one. -/
  ne_nil : chars ≠ []
  /-- All of them are breaks. -/
  isBreak_of_mem : ∀ c ∈ chars, isBreak c = true

/-- Replace the runs of breaks in a text by others, the first one by the run at a place
and each further one by the run at the next place.  Inside a run that was replaced
already what is left of it is dropped. -/
def replaceBreaksFrom (runs : Nat → BreakRun) (place : Nat) (inside : Bool) :
    List Char → List Char
  | [] => []
  | c :: text =>
    if isBreak c then
      if inside then replaceBreaksFrom runs place true text
      else (runs place).chars ++ replaceBreaksFrom runs (place + 1) true text
    else c :: replaceBreaksFrom runs place false text

/-- Replace the runs of breaks in a text, each by a run of its own. -/
def replaceBreaks (runs : Nat → BreakRun) (text : List Char) : List Char :=
  replaceBreaksFrom runs 0 false text

/-- A run is one break. -/
theorem BreakRun.scan_append (run : BreakRun) (text : List Char) :
    scan (run.chars ++ text) = prepend '\n' (scan text) := by
  obtain ⟨chars, hne, hbreaks⟩ := run
  induction chars with
  | nil => contradiction
  | cons c chars ih =>
      rw [List.forall_mem_cons] at hbreaks
      simp only [List.cons_append, scan_cons]
      cases chars with
      | nil => exact prepend_eq_prepend hbreaks.1 rfl (scan text)
      | cons d chars =>
          have hrest : scan (d :: chars ++ text) = prepend '\n' (scan text) :=
            ih (List.cons_ne_nil d chars) hbreaks.2
          rw [hrest, prepend_prepend hbreaks.1 rfl]

/-- The scan does not see which runs stand in a text.  Inside a run that was replaced
already it does not see what is left of the run either, since a break stands in
front. -/
theorem scan_replaceBreaksFrom (runs : Nat → BreakRun) (text : List Char) (place : Nat) :
    scan (replaceBreaksFrom runs place false text) = scan text ∧
      prepend '\n' (scan (replaceBreaksFrom runs place true text)) =
        prepend '\n' (scan text) := by
  induction text generalizing place with
  | nil => exact ⟨rfl, rfl⟩
  | cons c text ih =>
      by_cases hbreak : isBreak c = true
      · have hsame : prepend '\n' (scan text) = scan (c :: text) :=
          prepend_eq_prepend rfl hbreak (scan text)
        constructor
        · rw [replaceBreaksFrom, if_pos hbreak, if_neg Bool.false_ne_true,
            BreakRun.scan_append, (ih (place + 1)).2, hsame]
        · rw [replaceBreaksFrom, if_pos hbreak, if_pos rfl, (ih place).2, ← hsame,
            prepend_prepend rfl rfl]
      · have hkept (inside : Bool) : scan (replaceBreaksFrom runs place inside (c :: text)) =
            scan (c :: text) := by
          rw [replaceBreaksFrom, if_neg hbreak, scan_cons, (ih place).1, scan_cons]
        exact ⟨hkept false, by rw [hkept true]⟩

theorem normalize_replaceBreaks (runs : Nat → BreakRun) (text : List Char) :
    normalize (replaceBreaks runs text) = normalize text :=
  congrArg Prod.fst (scan_replaceBreaksFrom runs text 0).1

end Lines

open Lines

/-- What is detected in a snippet, and with which scores, does not depend on how its runs
of line breaks are written. -/
theorem detect_replaceBreaks (runs : Nat → BreakRun) (snippet : List Char)
    (options : DetectOptions) (registry : Registry) :
    detect (replaceBreaks runs snippet) options registry = detect snippet options registry := by
  have hlines : scoredLines (replaceBreaks runs snippet) options.heuristic =
      scoredLines snippet options.heuristic := by
    rw [scoredLines, scoredLines, normalize_replaceBreaks]
  have hscores : scoreAll (replaceBreaks runs snippet) options.heuristic registry =
      scoreAll snippet options.heuristic registry := by
    simp only [scoreAll, hlines]
  simp only [detect, hscores]

/-- The runs of a text are replaced one by one, whatever breaks they are made of. -/
example : replaceBreaks
    (fun place => if place = 0 then ⟨['\n', '\r'], by decide, by simp [isBreak]⟩
      else ⟨['\r'], by decide, by simp [isBreak]⟩)
    ['a', '\r', '\n', '\n', 'b', '\n', 'c'] = ['a', '\n', '\r', 'b', '\r', 'c'] := by decide

end Polyglot
