/-
# Reading the listing back

The listing has a row for each candidate: the name as it is, a tab, the number of rules
in digits, and a line feed.  Nothing in a name is escaped, so a name that holds what
ends a row looks like two rows, and then two rule files that differ in their languages
can have the same listing.  This is the only way for it to happen: where no name holds
the end of a row, each row of a listing can be told from the next, and the rows of two
rule files are the same if their listings are.
-/

import Polyglot.Proofs.Command.Answers
import Polyglot.Proofs.RuleFile.Registry

namespace Polyglot

namespace Registry

/-- The names of the candidates with the number of their rules. -/
def rows (registry : Registry) : List (String × Nat) :=
  registry.candidates.map fun candidate => (candidate.name, candidate.rules.length)

variable {entries : List Entry} {groups : List LanguageRules} {registry : Registry}

theorem map_fst_rows (registry : Registry) : registry.rows.map Prod.fst = registry.languages := by
  rw [rows, List.map_map]
  rfl

theorem rows_eq_map_entries (built : build entries = .ok registry) :
    registry.rows = (withUnknownEntry entries).map fun entry => (entry.name, entry.rules.length) := by
  have registers := forall₂_registers_of_build built
  rw [rows]
  generalize withUnknownEntry entries = listed, registry.candidates = candidates at registers
  induction registers with
  | nil => rfl
  | cons first _ ih =>
      rw [List.map_cons, List.map_cons, ih, first.name_eq, ← first.rules_eq, List.length_map]

/-- Where all groups have rules, none is for Unknown, which has a row without rules behind
theirs. -/
theorem rows_ofLanguageRules (built : ofLanguageRules groups = .ok registry)
    (hrules : ∀ group ∈ groups, group.rules ≠ []) :
    registry.rows =
      (groups.map fun group => (group.language, group.rules.length)) ++ [(unknownName, 0)] := by
  have habsent : unknownName ∉ (groups.map Entry.ofLanguageRules).map Entry.name := by
    rw [RuleFile.map_name_ofLanguageRules]
    intro hmem
    obtain ⟨group, hgroup, hname⟩ := List.mem_map.mp hmem
    have hsound := sound_of_build built _ (List.mem_map_of_mem hgroup)
    exact hrules group hgroup (hsound.rules_of_unknown hname)
  rw [rows_eq_map_entries built, withUnknownEntry, if_neg habsent, List.map_append, List.map_map]
  rfl

end Registry

namespace RuleFile

theorem exists_entries_of_ofBytes {bytes : List UInt8} {groups : List LanguageRules}
    (hread : ofBytes bytes = .ok groups) : ∃ entries, groups = group entries := by
  rw [ofBytes] at hread
  split at hread
  · cases hread
  · split at hread
    case h_1 => cases hread
    case h_2 htext =>
        cases hread
        obtain ⟨entries, -, heq⟩ := Option.map_eq_some_iff.mp htext
        exact ⟨entries, heq.symm⟩

theorem exists_entries_of_load {w : Workspace} {path : Path} {groups : List LanguageRules}
    (hload : load w path = .ok groups) : ∃ entries, groups = group entries := by
  rw [load] at hload
  split at hload
  · cases hload
  · exact exists_entries_of_ofBytes hload

end RuleFile

namespace Command

/-! ## Rows -/

/-- What ends a row. -/
def rowEnd (count : Nat) : List Char := '\t' :: asLine (Nat.toDigits 10 count)

/-- A row of the listing. -/
def rowText (row : String × Nat) : List Char := row.1.toList ++ rowEnd row.2

/-- A text that holds the end of a row of a language with rules. -/
def HoldsRowEnd (text : List Char) : Prop := ∃ count, 0 < count ∧ rowEnd count <:+: text

theorem listing_eq_flatMap_rows (registry : Registry) :
    listing registry = registry.rows.flatMap rowText := by
  rw [Registry.rows, List.flatMap_map]
  rfl

theorem toDigits_injective {m n : Nat} (heq : Nat.toDigits 10 m = Nat.toDigits 10 n) : m = n :=
  calc m
    _ = Nat.ofDigitChars 10 (Nat.toDigits 10 m) 0 := Nat.ofDigitChars_ten_toDigits.symm
    _ = Nat.ofDigitChars 10 (Nat.toDigits 10 n) 0 := by rw [heq]
    _ = n := Nat.ofDigitChars_ten_toDigits

theorem notMem_toDigits {c : Char} (hc : c.isDigit = false) (n : Nat) : c ∉ Nat.toDigits 10 n := by
  intro hmem
  have hdigit := Nat.isDigit_of_mem_toDigits (by decide) (by decide) hmem
  exact Bool.false_ne_true (hc.symm.trans hdigit)

variable {name other text rest more : List Char} {count n : Nat}

theorem HoldsRowEnd.mem (holds : HoldsRowEnd text) : '\t' ∈ text ∧ '\n' ∈ text := by
  obtain ⟨count, -, hinfix⟩ := holds
  constructor
  · exact hinfix.subset List.mem_cons_self
  · exact hinfix.subset (List.mem_cons_of_mem _ (List.mem_append_right _ List.mem_cons_self))

/-! ## Where a row ends -/

/-- What stands in front of a character that is not in it is a part of what stands in front of
the character. -/
theorem exists_eq_append_of_notMem {c : Char} {front before after : List Char}
    (hfront : c ∉ front) (heq : front ++ text = before ++ c :: after) :
    ∃ more, before = front ++ more ∧ text = more ++ c :: after := by
  rcases List.append_eq_append_iff.mp heq with ⟨more, hbefore, htext⟩ | ⟨more, rfl, hafter⟩
  · exact ⟨more, hbefore, htext⟩
  · cases more with
    | nil => exact ⟨[], by simp, hafter.symm⟩
    | cons d more =>
        obtain ⟨rfl, -⟩ := List.cons_eq_cons.mp hafter
        exact absurd (List.mem_append_right before List.mem_cons_self) hfront

/-- A row end and the text behind it are read off the text that they make. -/
theorem rowEnd_append_inj (heq : rowEnd count ++ text = rowEnd n ++ rest) :
    count = n ∧ text = rest := by
  simp only [rowEnd, asLine, List.cons_append, List.append_assoc, List.nil_append,
    List.cons_inj_right] at heq
  obtain ⟨more, hdigits, hrest⟩ := exists_eq_append_of_notMem (notMem_toDigits rfl count) heq
  cases more with
  | nil =>
      rw [List.append_nil] at hdigits
      exact ⟨(toDigits_injective hdigits).symm, List.cons_injective hrest⟩
  | cons c more =>
      obtain ⟨rfl, -⟩ := List.cons_eq_cons.mp hrest
      have hmem : '\n' ∈ Nat.toDigits 10 n := hdigits ▸ List.mem_append_right _ List.mem_cons_self
      exact absurd hmem (notMem_toDigits rfl n)

/-- A row end that begins in a name ends in it. -/
theorem rowEnd_isPrefix (heq : rowEnd count ++ text = more ++ (rowEnd n ++ rest))
    (hne : more ≠ []) : rowEnd count <+: more := by
  cases more with
  | nil => contradiction
  | cons c more =>
      rw [rowEnd, List.cons_append, List.cons_append] at heq
      obtain ⟨rfl, hrest⟩ := List.cons_eq_cons.mp heq
      have htab : '\t' ∉ asLine (Nat.toDigits 10 count) := by
        rw [asLine, List.mem_append, not_or]
        exact ⟨notMem_toDigits rfl count, by decide⟩
      obtain ⟨behind, rfl, -⟩ := exists_eq_append_of_notMem htab hrest
      exact ⟨behind, rfl⟩

/-- Behind the beginning of a name that holds no row end, a row ends only where the name does. -/
theorem eq_nil_of_rowEnd_append (hcount : 0 < count) (hname : ¬ HoldsRowEnd (name ++ more))
    (heq : rowEnd count ++ text = more ++ (rowEnd n ++ rest)) :
    more = [] ∧ count = n ∧ text = rest := by
  by_cases hmore : more = []
  · rw [hmore, List.nil_append] at heq
    exact ⟨hmore, rowEnd_append_inj heq⟩
  · have hprefix := rowEnd_isPrefix heq hmore
    exact absurd ⟨count, hcount, hprefix.isInfix.trans (List.suffix_append _ _).isInfix⟩ hname

/-- A row and the text behind it are read off the text that they make. -/
theorem rowText_append_inj {row next : String × Nat} (hrow : 0 < row.2) (hnext : 0 < next.2)
    (hname : ¬ HoldsRowEnd row.1.toList) (hother : ¬ HoldsRowEnd next.1.toList)
    (heq : rowText row ++ text = rowText next ++ rest) : row = next ∧ text = rest := by
  rw [rowText, rowText, List.append_assoc, List.append_assoc] at heq
  -- One of the names is the beginning of the other.
  rcases List.append_eq_append_iff.mp heq with ⟨more, hlonger, hrest⟩ | ⟨more, hlonger, hrest⟩
  · rw [hlonger] at hother
    obtain ⟨rfl, hcount, htext⟩ := eq_nil_of_rowEnd_append hrow hother hrest
    rw [List.append_nil] at hlonger
    exact ⟨Prod.ext (String.toList_inj.mp hlonger.symm) hcount, htext⟩
  · rw [hlonger] at hname
    obtain ⟨rfl, hcount, htext⟩ := eq_nil_of_rowEnd_append hnext hname hrest
    rw [List.append_nil] at hlonger
    exact ⟨Prod.ext (String.toList_inj.mp hlonger) hcount.symm, htext.symm⟩

/-- Rows with rules and without a row end in a name are read off the text of all of them. -/
theorem flatMap_rowText_inj {rows others : List (String × Nat)}
    (hrows : ∀ row ∈ rows, 0 < row.2 ∧ ¬ HoldsRowEnd row.1.toList)
    (hothers : ∀ row ∈ others, 0 < row.2 ∧ ¬ HoldsRowEnd row.1.toList)
    (heq : rows.flatMap rowText = others.flatMap rowText) : rows = others := by
  have hne (row : String × Nat) (more : List Char) : rowText row ++ more ≠ [] := by
    simp [rowText, rowEnd]
  induction rows generalizing others with
  | nil =>
      cases others with
      | nil => rfl
      | cons next others => exact absurd heq.symm (hne next _)
  | cons row rows ih =>
      cases others with
      | nil => exact absurd heq (hne row _)
      | cons next others =>
          rw [List.forall_mem_cons] at hrows hothers
          obtain ⟨rfl, hrest⟩ :=
            rowText_append_inj hrows.1.1 hothers.1.1 hrows.1.2 hothers.1.2 heq
          rw [ih hrows.2 hothers.2 hrest]

/-! ## Listings of rule files -/

variable {w v : Workspace} {path : String} {registry : Registry}

/-- The registry of a rule file is built from groups of its entries. -/
theorem exists_entries_of_loadRegistry (hload : loadRegistry w (some path) = .ok registry) :
    ∃ entries, Registry.ofLanguageRules (RuleFile.group entries) = .ok registry := by
  rw [loadRegistry, RuleFile.loadRegistry] at hload
  cases hgroups : RuleFile.load w (Path.ofText path) with
  | error fault =>
      rw [hgroups] at hload
      cases hload
  | ok groups =>
      obtain ⟨entries, rfl⟩ := RuleFile.exists_entries_of_load hgroups
      rw [hgroups] at hload
      cases built : Registry.ofLanguageRules (RuleFile.group entries) with
      | error fault => simp [Except.bind, RuleFile.build, built, Except.mapError] at hload
      | ok other =>
          simp only [Except.bind, RuleFile.build, built, Except.mapError] at hload
          rw [← Except.ok.inj hload]
          exact ⟨entries, built⟩

/-- The rows of a rule file are those of languages with rules, and that of Unknown behind them. -/
theorem exists_rows_eq_of_loadRegistry (hload : loadRegistry w (some path) = .ok registry) :
    ∃ rows, registry.rows = rows ++ [(unknownName, 0)] ∧ ∀ row ∈ rows, 0 < row.2 := by
  obtain ⟨entries, built⟩ := exists_entries_of_loadRegistry hload
  have hrules := (RuleFile.groups_group entries).ne_nil
  refine ⟨_, Registry.rows_ofLanguageRules built hrules, ?_⟩
  rw [List.forall_mem_map]
  intro group hgroup
  exact List.length_pos_of_ne_nil (hrules group hgroup)

theorem stdout_languages (hload : loadRegistry w (some path) = .ok registry)
    (stdin : List UInt8) :
    ((Command.languages (some path)).run w stdin).stdout = registry.rows.flatMap rowText := by
  simp only [run, hload, listing_eq_flatMap_rows]

/-- Two rule files without a row end in the name of a language have the same listing exactly
if they have the same rows. -/
theorem listing_determines_rows {other : Registry} {otherPath : String}
    (hload : loadRegistry w (some path) = .ok registry)
    (hother : loadRegistry v (some otherPath) = .ok other)
    (hnames : ∀ name ∈ registry.languages, ¬ HoldsRowEnd name.toList)
    (hotherNames : ∀ name ∈ other.languages, ¬ HoldsRowEnd name.toList)
    (stdin otherStdin : List UInt8) :
    ((Command.languages (some path)).run w stdin).stdout =
        ((Command.languages (some otherPath)).run v otherStdin).stdout ↔
      registry.rows = other.rows := by
  rw [stdout_languages hload, stdout_languages hother]
  constructor
  · intro heq
    obtain ⟨rows, hrows, hpos⟩ := exists_rows_eq_of_loadRegistry hload
    obtain ⟨others, hothers, hotherPos⟩ := exists_rows_eq_of_loadRegistry hother
    rw [← Registry.map_fst_rows, List.forall_mem_map, hrows, List.forall_mem_append] at hnames
    rw [← Registry.map_fst_rows, List.forall_mem_map, hothers, List.forall_mem_append]
      at hotherNames
    rw [hrows, hothers] at heq ⊢
    -- The row of Unknown is the last one of both, so it can be left away.
    rw [List.flatMap_append, List.flatMap_append, List.append_cancel_right_eq] at heq
    rw [flatMap_rowText_inj (fun row hmem => ⟨hpos row hmem, hnames.1 row hmem⟩)
      (fun row hmem => ⟨hotherPos row hmem, hotherNames.1 row hmem⟩) heq]
  · intro heq
    rw [heq]

/-! ## Two rule files in a workspace -/

/-- A workspace with the rule files `r` and `s`. -/
def ruleFiles (first second : List Char) : Workspace :=
  ((⟨.directory [], []⟩ : Workspace).makeFile (Path.ofText "r") (Utf8.encode first)).makeFile
    (Path.ofText "s") (Utf8.encode second)

theorem loadRegistry_ruleFiles {first second : List Char} {groups others : List LanguageRules}
    {other : Registry} (hfirst : RuleFile.ofText? first = some groups)
    (hsecond : RuleFile.ofText? second = some others)
    (built : RuleFile.build groups = .ok registry) (builtOther : RuleFile.build others = .ok other) :
    loadRegistry (ruleFiles first second) (some "r") = .ok registry ∧
      loadRegistry (ruleFiles first second) (some "s") = .ok other :=
  ⟨loadRegistry_of_find rfl hfirst built, loadRegistry_of_find rfl hsecond builtOther⟩

/-- Different rules for the same two languages, with a tab and with a line feed in their names. -/
theorem listing_determines_rows_of_tab_and_feed :
    ∃ w registry other, loadRegistry w (some "r") = .ok registry ∧
      loadRegistry w (some "s") = .ok other ∧
      registry.rows = [("a\tb", 1), ("c\nd", 1), ("Unknown", 0)] ∧
      ((Command.languages (some "r")).run w []).stdout =
        ((Command.languages (some "s")).run w []).stdout := by
  have hfirst : RuleFile.ofText? "rules=[[\"a\\tb\",'x','',1],[\"c\\nd\",'y','',2]]".toList =
      some [⟨"a\tb", [⟨"x", 1, false⟩]⟩, ⟨"c\nd", [⟨"y", 2, false⟩]⟩] := by
    decide +kernel
  have hsecond : RuleFile.ofText? "rules=[[\"a\\tb\",'y','',3],[\"c\\nd\",'z','',4]]".toList =
      some [⟨"a\tb", [⟨"y", 3, false⟩]⟩, ⟨"c\nd", [⟨"z", 4, false⟩]⟩] := by
    decide +kernel
  obtain ⟨hload, hother⟩ := loadRegistry_ruleFiles hfirst hsecond rfl rfl
  have hnames : ∀ name ∈ ["a\tb", "c\nd", "Unknown"], ¬ HoldsRowEnd name.toList := by
    simp only [List.forall_mem_cons, List.not_mem_nil, false_implies, implies_true, and_true]
    exact ⟨fun holds => absurd holds.mem.2 (by decide), fun holds => absurd holds.mem.1 (by decide),
      fun holds => absurd holds.mem.1 (by decide)⟩
  exact ⟨_, _, _, hload, hother, rfl,
    (listing_determines_rows hload hother hnames hnames [] []).mpr rfl⟩

/-! ## A row end in a name -/

/-- A row end in a name is not told from the end of a row: two languages in the place of one
have the same listing. -/
theorem listing_eq_of_rowEnd {before after : List LanguageRules} {first second : LanguageRules}
    {other : Registry}
    (built : Registry.ofLanguageRules
      (before ++ ⟨String.ofList (rowText (first.language, first.rules.length) ++
        second.language.toList), second.rules⟩ :: after) = .ok registry)
    (builtOther : Registry.ofLanguageRules (before ++ first :: second :: after) = .ok other)
    (hrules : ∀ group ∈ before ++ first :: second :: after, group.rules ≠ []) :
    listing registry = listing other ∧ registry.rows ≠ other.rows := by
  rw [List.forall_mem_append, List.forall_mem_cons, List.forall_mem_cons] at hrules
  obtain ⟨hbefore, hfirst, hsecond, hafter⟩ := hrules
  have hotherRows := Registry.rows_ofLanguageRules builtOther
    (List.forall_mem_append.mpr ⟨hbefore, List.forall_mem_cons.mpr
      ⟨hfirst, List.forall_mem_cons.mpr ⟨hsecond, hafter⟩⟩⟩)
  have hrows := Registry.rows_ofLanguageRules built
    (List.forall_mem_append.mpr ⟨hbefore, List.forall_mem_cons.mpr ⟨hsecond, hafter⟩⟩)
  constructor
  · rw [listing_eq_flatMap_rows, listing_eq_flatMap_rows, hrows, hotherRows]
    simp only [List.map_append, List.map_cons, List.flatMap_append, List.flatMap_cons, rowText,
      String.toList_ofList, List.append_assoc]
  · intro heq
    rw [hrows, hotherRows] at heq
    have hlength := congrArg List.length heq
    simp only [List.length_append, List.length_map, List.length_cons] at hlength
    omega

/-- One language whose name holds the row of another one, and two languages. -/
theorem listing_of_rowEnd_in_name :
    ∃ w registry other, loadRegistry w (some "r") = .ok registry ∧
      loadRegistry w (some "s") = .ok other ∧
      ((Command.languages (some "r")).run w []).stdout = "A\t1\nB\t1\nUnknown\t0\n".toList ∧
      ((Command.languages (some "s")).run w []).stdout = "A\t1\nB\t1\nUnknown\t0\n".toList ∧
      registry.rows = [("A\t1\nB", 1), ("Unknown", 0)] ∧
      other.rows = [("A", 1), ("B", 1), ("Unknown", 0)] := by
  have hfirst : RuleFile.ofText?
      "[[rules]]\nlanguage=\"A\\t1\\nB\"\npattern='x'\npoints=1\n".toList =
        some [⟨"A\t1\nB", [⟨"x", 1, false⟩]⟩] := by
    decide +kernel
  have hsecond : RuleFile.ofText? ("[[rules]]\nlanguage='A'\npattern='x'\npoints=1\n" ++
      "[[rules]]\nlanguage='B'\npattern='x'\npoints=1\n").toList =
        some [⟨"A", [⟨"x", 1, false⟩]⟩, ⟨"B", [⟨"x", 1, false⟩]⟩] := by
    decide +kernel
  obtain ⟨hload, hother⟩ := loadRegistry_ruleFiles hfirst hsecond rfl rfl
  refine ⟨_, _, _, hload, hother, ?_, ?_, rfl, rfl⟩
  · rw [stdout_languages hload]
    decide +kernel
  · rw [stdout_languages hother]
    decide +kernel

end Command

end Polyglot
