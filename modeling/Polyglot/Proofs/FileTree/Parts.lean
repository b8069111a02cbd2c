/-
# Names behind a path

However a path is written, writing names behind it gives the steps of the path
followed by these names.  So the parts of the longer path are those of the path
followed by the names: this is what taking the path off the front leaves, and two
longer paths compare like the names behind them.
-/

import Polyglot.FileTree.Parts
import Mathlib.Data.List.Basic

namespace Polyglot

namespace Unicode

/-! ## Cutting a list -/

variable {α : Type} {isCut : α → Bool} {item cut : α} {items part : List α} {rest : List (List α)}

theorem cutAt_cons_of_cut (hcut : isCut item = true) (items : List α) :
    cutAt isCut (item :: items) = [] :: cutAt isCut items := by
  simp [cutAt, hcut]

theorem cutAt_cons_of_not_cut (hcut : isCut item = false)
    (hitems : cutAt isCut items = part :: rest) :
    cutAt isCut (item :: items) = (item :: part) :: rest := by
  rw [cutAt] at hitems ⊢
  rw [List.foldr_cons, hitems, hcut]

theorem exists_cutAt_eq_cons (isCut : α → Bool) (items : List α) :
    ∃ part rest, cutAt isCut items = part :: rest := by
  induction items with
  | nil => exact ⟨[], [], rfl⟩
  | cons item items ih =>
      obtain ⟨part, rest, hitems⟩ := ih
      cases hcut : isCut item with
      | true => exact ⟨[], _, cutAt_cons_of_cut hcut items⟩
      | false => exact ⟨_, _, cutAt_cons_of_not_cut hcut hitems⟩

/-- What stands before a cut and what stands behind it are cut on their own. -/
theorem cutAt_append_cut (hcut : isCut cut = true) (items others : List α) :
    cutAt isCut (items ++ cut :: others) = cutAt isCut items ++ cutAt isCut others := by
  induction items with
  | nil => exact cutAt_cons_of_cut hcut others
  | cons item items ih =>
      cases hitem : isCut item with
      | true => rw [List.cons_append, cutAt_cons_of_cut hitem, cutAt_cons_of_cut hitem, ih,
          List.cons_append]
      | false =>
          obtain ⟨part, rest, hitems⟩ := exists_cutAt_eq_cons isCut items
          rw [hitems, List.cons_append] at ih
          rw [List.cons_append, cutAt_cons_of_not_cut hitem ih, cutAt_cons_of_not_cut hitem hitems,
            List.cons_append]

theorem cutAt_eq_singleton (hplain : ∀ item ∈ items, isCut item = false) :
    cutAt isCut items = [items] := by
  induction items with
  | nil => rfl
  | cons item items ih =>
      rw [List.forall_mem_cons] at hplain
      exact cutAt_cons_of_not_cut hplain.1 (ih hplain.2)

end Unicode

namespace Path

/-! ## Names -/

/-- What can be the name of a directory entry: no dots that stand for a directory, and nothing
that a slash would cut. -/
structure IsName (name : Name) : Prop where
  /-- It is not empty. -/
  ne_nil : name ≠ []
  /-- It has no slash. -/
  slash_notMem : slash ∉ name
  /-- It is not the dot. -/
  ne_here : name ≠ here
  /-- It is not the double dot. -/
  ne_above : name ≠ above

instance (name : Name) : Decidable (IsName name) :=
  decidable_of_iff (name ≠ [] ∧ slash ∉ name ∧ name ≠ here ∧ name ≠ above)
    ⟨fun ⟨hnil, hslash, hhere, habove⟩ => ⟨hnil, hslash, hhere, habove⟩,
      fun ⟨hnil, hslash, hhere, habove⟩ => ⟨hnil, hslash, hhere, habove⟩⟩

variable {name : Name} {names names' : List Name} {path : Path}

/-- The path with names behind it. -/
def join (path : Path) (names : List Name) : Path :=
  ⟨path.absolute, path.steps ++ names, path.trailing && names.isEmpty⟩

/-! ## Written paths -/

/-- What stands before a slash and what stands behind it have steps of their own. -/
theorem steps_ofBytes_append (written other : List UInt8) :
    (ofBytes (written ++ slash :: other)).steps =
      (ofBytes written).steps ++ (ofBytes other).steps := by
  have hcut := @Unicode.cutAt_append_cut UInt8 (· == slash) slash (beq_self_eq_true slash)
  simp only [ofBytes, hcut, List.filter_append]

theorem absolute_ofBytes_append {written : List UInt8} (hne : written ≠ []) (other : List UInt8) :
    (ofBytes (written ++ other)).absolute = (ofBytes written).absolute := by
  obtain ⟨first, rest, rfl⟩ := List.exists_cons_of_ne_nil hne
  rfl

namespace IsName

theorem head?_ne (named : IsName name) : name.head? ≠ some slash :=
  fun hhead => named.slash_notMem (List.mem_of_head? hhead)

theorem getLast?_ne (named : IsName name) : name.getLast? ≠ some slash :=
  fun hlast => named.slash_notMem (List.mem_of_getLast? hlast)

theorem steps_ofBytes (named : IsName name) : (ofBytes name).steps = [name] := by
  have hplain : ∀ b ∈ name, (b == slash) = false := by
    intro b hmem
    rw [beq_eq_false_iff_ne]
    rintro rfl
    exact named.slash_notMem hmem
  simp [ofBytes, Unicode.cutAt_eq_singleton hplain, named.ne_nil]

theorem ofBytes_eq (named : IsName name) : ofBytes name = ⟨false, [name], false⟩ := by
  have hsteps := named.steps_ofBytes
  have habsolute : (name.head? == some slash) = false := beq_eq_false_iff_ne.mpr named.head?_ne
  have htrailing : (name.getLast? == some slash) = false :=
    beq_eq_false_iff_ne.mpr named.getLast?_ne
  simp only [ofBytes] at hsteps ⊢
  simp only [hsteps, habsolute, htrailing, Bool.and_false]

/-- Behind a slash, a name is one more step, and the path ends with it. -/
theorem ofBytes_append (named : IsName name) (written : List UInt8) :
    ofBytes (written ++ slash :: name) =
      ⟨(ofBytes (written ++ [slash])).absolute, (ofBytes written).steps ++ [name], false⟩ := by
  have habsolute : (ofBytes (written ++ slash :: name)).absolute =
      (ofBytes (written ++ [slash])).absolute := by
    rw [List.append_cons]
    exact absolute_ofBytes_append (by simp) name
  have hsteps : (ofBytes (written ++ slash :: name)).steps = (ofBytes written).steps ++ [name] := by
    rw [steps_ofBytes_append, named.steps_ofBytes]
  have hlast : (written ++ slash :: name).getLast? ≠ some slash := by
    rw [List.append_cons, List.getLast?_append_of_ne_nil _ named.ne_nil]
    exact named.getLast?_ne
  have htrailing : (ofBytes (written ++ slash :: name)).trailing = false := by
    simp only [ofBytes, beq_eq_false_iff_ne.mpr hlast, Bool.and_false]
  rw [← habsolute, ← hsteps, ← htrailing]

end IsName

/-- Writing a name behind a path adds a step to it, whatever the path ends in. -/
theorem ofBytes_addName (named : IsName name) (written : List UInt8) :
    ofBytes (addName written name) = (ofBytes written).join [name] := by
  rcases List.eq_nil_or_concat written with rfl | ⟨front, last, hconcat⟩
  · exact named.ofBytes_eq
  · rw [List.concat_eq_append] at hconcat
    rw [hconcat, addName, List.getLast?_concat, join, List.isEmpty_cons, Bool.and_false]
    by_cases hlast : last = slash
    · have hsteps : (ofBytes (front ++ [slash])).steps = (ofBytes front).steps := by
        rw [steps_ofBytes_append]
        exact List.append_nil _
      subst hlast
      simp only [if_true, List.append_assoc, List.singleton_append, named.ofBytes_append, hsteps]
    · have habsolute := absolute_ofBytes_append (List.append_ne_nil_of_right_ne_nil front
        (List.cons_ne_nil last [])) [slash]
      simp only [if_neg hlast, named.ofBytes_append, habsolute]

/-- Writing names behind a path adds steps to it. -/
theorem ofBytes_foldl_addName (named : ∀ name ∈ names, IsName name) (written : List UInt8) :
    ofBytes (names.foldl addName written) = (ofBytes written).join names := by
  induction names generalizing written with
  | nil => simp [join]
  | cons name rest ih =>
      rw [List.forall_mem_cons] at named
      rw [List.foldl_cons, ih named.2, ofBytes_addName named.1]
      simp [join]

/-! ## Parts -/

theorem ofStep?_of_isName (named : IsName name) : Part.ofStep? name = some (.name name) := by
  rw [Part.ofStep?, if_neg named.ne_here, if_neg named.ne_above]

/-- The parts of a path with names behind it are its parts and the names. -/
theorem parts_join (named : ∀ name ∈ names, IsName name) (path : Path) :
    (path.join names).parts = path.parts ++ names.map .name := by
  have hhead : (path.steps ++ names).head? = some here ↔ path.steps.head? = some here := by
    cases path.steps with
    | cons step rest => rfl
    | nil =>
        cases names with
        | nil => rfl
        | cons name rest => simp [(named name List.mem_cons_self).ne_here]
  have hfront : (path.join names).front = path.front := by
    simp only [front, join, hhead]
  have hnames : names.filterMap Part.ofStep? = names.map .name := by
    rw [List.filterMap_eq_map_iff_forall_eq_some]
    intro name hmem
    exact ofStep?_of_isName (named name hmem)
  rw [parts, hfront, parts, join, List.filterMap_append, hnames, List.append_assoc]

theorem keys_join (named : ∀ name ∈ names, IsName name) (path : Path) :
    (path.join names).keys = path.keys ++ names.map (List.cons 3) := by
  rw [keys, parts_join named, List.map_append, List.map_map, keys]
  rfl

/-- Names behind a path are compared like the names alone. -/
theorem keys_join_le_iff (named : ∀ name ∈ names, IsName name)
    (named' : ∀ name ∈ names', IsName name) (path : Path) :
    (path.join names).keys ≤ (path.join names').keys ↔ names ≤ names' := by
  have hcons (first second : Name) (hlt : first < second) : 3 :: first < 3 :: second :=
    List.cons_lt_cons_self.mpr hlt
  rw [keys_join named, keys_join named']
  constructor
  · intro hle
    refine List.not_lt.mp fun hlt => List.not_lt.mpr hle ?_
    exact List.append_left_lt (List.map_lt hcons hlt)
  · intro hle
    exact List.append_left_le (List.map_le hcons hle)

theorem writeParts_map_name (names : List Name) :
    writeParts (names.map .name) = [slash].intercalate names := by
  have hwords : (names.map Part.name).map Part.word = names := by
    rw [List.map_map]
    exact List.map_id _
  cases names with
  | nil => rfl
  | cons name rest => exact congrArg [slash].intercalate hwords

/-- Taking a path off the front of one with names behind it leaves the names. -/
theorem below?_foldl_addName (named : ∀ name ∈ names, IsName name) (written : List UInt8) :
    below? written (names.foldl addName written) = some ([slash].intercalate names) := by
  have hprefix : (ofBytes written).parts.isPrefixOf? (ofBytes (names.foldl addName written)).parts =
      some (names.map .name) := by
    rw [List.isPrefixOf?_eq_some_iff_append_eq, ofBytes_foldl_addName named, parts_join named]
  rw [below?, hprefix, Option.map_some, writeParts_map_name]

end Path

end Polyglot
