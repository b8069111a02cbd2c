/-
# A file at a location

What is found in a tree after a file was put at a location.  `Node.Takes` says
that the location can hold one: directories lead to it, and nothing is there yet
or a file.  Then the file is found there, and nothing else has changed: every
other location holds what it held, and a directory on the way to the file holds
the same entries but for the one that leads there.
-/

import Polyglot.Proofs.FileTree.Distinct

namespace Polyglot

namespace Node

/-! ## Entries -/

variable {name other : Name} {node old : Node} {entries : List (Name × Node)}

@[simp]
theorem lookup_putEntry_self (name : Name) (node : Node) (entries : List (Name × Node)) :
    (putEntry name node entries).lookup name = some node := by
  induction entries with
  | nil => simp [putEntry]
  | cons entry rest ih =>
      by_cases heq : entry.1 = name
      · simp [putEntry, heq]
      · have hne : (name == entry.1) = false := by simpa using Ne.symm heq
        rw [putEntry, if_neg heq, List.lookup_cons, hne, ih]

theorem lookup_putEntry_of_ne (hne : other ≠ name) :
    (putEntry name node entries).lookup other = entries.lookup other := by
  induction entries with
  | nil =>
      have hother : (other == name) = false := by simpa using hne
      rw [putEntry, List.lookup_cons, hother, List.lookup_nil]
  | cons entry rest ih =>
      by_cases heq : entry.1 = name
      · have hother : (other == name) = false := by simpa using hne
        have hentry : (other == entry.1) = false := heq ▸ hother
        rw [putEntry, if_pos heq, List.lookup_cons, List.lookup_cons, hother, hentry]
      · rw [putEntry, if_neg heq, List.lookup_cons, List.lookup_cons, ih]

/-- The last entry put under a name counts. -/
theorem putEntry_putEntry : putEntry name node (putEntry name old entries) =
    putEntry name node entries := by
  induction entries with
  | nil => simp [putEntry]
  | cons entry rest ih =>
      by_cases heq : entry.1 = name
      · simp [putEntry, heq]
      · simp only [putEntry, if_neg heq, ih]

/-! ## Locations -/

@[simp]
theorem lookup_nil (node : Node) : node.lookup [] = some node := by
  rw [lookup]

theorem lookup_directory_cons (entries : List (Name × Node)) (name : Name) (rest : List Name) :
    (directory entries).lookup (name :: rest) =
      (entries.lookup name).bind fun node => node.lookup rest := by
  rw [lookup]
  cases entries.lookup name <;> rfl

/-- What is at a location is looked up from any directory on the way. -/
theorem lookup_append (node : Node) (location rest : List Name) :
    node.lookup (location ++ rest) = (node.lookup location).bind fun found =>
      found.lookup rest := by
  induction location generalizing node with
  | nil => simp
  | cons name location ih =>
      cases node with
      | file content => rfl
      | link target => rfl
      | directory entries =>
          rw [List.cons_append, lookup_directory_cons, lookup_directory_cons]
          cases entries.lookup name with
          | none => rfl
          | some child => exact ih child

theorem lookup_concat {location : List Name}
    (hlookup : node.lookup location = some (.directory entries)) (name : Name) :
    node.lookup (location ++ [name]) = entries.lookup name := by
  rw [lookup_append, hlookup, Option.bind_some, lookup_directory_cons]
  cases entries.lookup name <;> simp

/-- What leads to something is a directory. -/
theorem exists_directory_of_lookup_append {location rest : List Name} (hne : rest ≠ [])
    (hlookup : node.lookup (location ++ rest) = some old) :
    ∃ entries, node.lookup location = some (.directory entries) := by
  obtain ⟨name, rest, rfl⟩ := List.exists_cons_of_ne_nil hne
  rw [lookup_append] at hlookup
  obtain ⟨found, hfound, hrest⟩ := Option.bind_eq_some_iff.mp hlookup
  cases found with
  | directory entries => exact ⟨entries, hfound⟩
  | file content => cases hrest
  | link target => cases hrest

theorem put_singleton (entries : List (Name × Node)) (name : Name) (node : Node) :
    (directory entries).put [name] node = .directory (putEntry name node entries) := by
  cases hlookup : entries.lookup name <;> simp [put, hlookup]

/-- The last node put at a location counts. -/
theorem put_put (tree : Node) (location : List Name) (old node : Node) :
    (tree.put location old).put location node = tree.put location node := by
  induction location generalizing tree with
  | nil => simp [put]
  | cons name rest ih =>
      cases tree with
      | file content => rfl
      | link target => rfl
      | directory entries =>
          cases hlookup : entries.lookup name with
          | some child => simp [put, hlookup, ih, putEntry_putEntry]
          | none =>
              cases rest with
              | nil => simp [put, hlookup, putEntry_putEntry]
              | cons next rest => simp [put, hlookup]

theorem putEntry_of_lookup (hlookup : entries.lookup name = some node) :
    putEntry name node entries = entries := by
  induction entries with
  | nil => cases hlookup
  | cons entry rest ih =>
      by_cases heq : entry.1 = name
      · subst heq
        rw [List.lookup_cons_self, Option.some.injEq] at hlookup
        rw [putEntry, if_pos rfl, ← hlookup]
      · have hne : (name == entry.1) = false := by simpa using Ne.symm heq
        rw [List.lookup_cons, hne] at hlookup
        rw [putEntry, if_neg heq, ih hlookup]

/-- Putting a node where it is changes nothing. -/
theorem put_of_lookup {tree : Node} {location : List Name}
    (hlookup : tree.lookup location = some node) : tree.put location node = tree := by
  induction location generalizing tree with
  | nil =>
      rw [lookup_nil, Option.some.injEq] at hlookup
      rw [put, hlookup]
  | cons name rest ih =>
      cases tree with
      | file content => cases hlookup
      | link target => cases hlookup
      | directory entries =>
          rw [lookup_directory_cons] at hlookup
          obtain ⟨child, hchild, hrest⟩ := Option.bind_eq_some_iff.mp hlookup
          rw [put_cons_of_lookup_eq_some hchild, ih hrest, putEntry_of_lookup hchild]

/-- Seen from a directory on the way, a node is put at the rest of the location. -/
theorem lookup_put_append (tree : Node) (location : List Name) {rest : List Name}
    (hne : rest ≠ []) (node : Node) :
    (tree.put (location ++ rest) node).lookup location =
      (tree.lookup location).map fun found => found.put rest node := by
  induction location generalizing tree with
  | nil => simp
  | cons name location ih =>
      cases tree with
      | file content => rfl
      | link target => rfl
      | directory entries =>
          cases hlookup : entries.lookup name with
          | some child => simp [put, hlookup, lookup_directory_cons, ih]
          | none =>
              obtain ⟨next, last, hrest⟩ : ∃ next last, location ++ rest = next :: last :=
                List.exists_cons_of_ne_nil (by simp [hne])
              simp [put, hlookup, lookup_directory_cons, hrest]

/-! ## Putting a file -/

/-- A location of a tree that can hold a file: directories lead to it, and nothing is there
or a file. -/
inductive Takes : Node → List Name → Prop
  /-- The file is an entry of the directory. -/
  | entry {entries : List (Name × Node)} {name : Name}
      (hfree : ∀ node, entries.lookup name = some node → ∃ content, node = .file content) :
      Takes (.directory entries) [name]
  /-- The file is below an entry of the directory. -/
  | deeper {entries : List (Name × Node)} {name : Name} {node : Node} {rest : List Name}
      (hlookup : entries.lookup name = some node) (takes : Takes node rest) :
      Takes (.directory entries) (name :: rest)

namespace Takes

variable {tree : Node} {location : List Name}

theorem ne_nil (takes : tree.Takes location) : location ≠ [] := by
  cases takes <;> simp

/-- A directory takes a file under a name that is free or names a file. -/
theorem of_lookup (hlookup : tree.lookup location = some (.directory entries))
    (hfree : ∀ node, entries.lookup name = some node → ∃ content, node = .file content) :
    tree.Takes (location ++ [name]) := by
  induction location generalizing tree with
  | nil =>
      rw [lookup_nil, Option.some.injEq] at hlookup
      subst hlookup
      exact .entry hfree
  | cons first rest ih =>
      cases tree with
      | file content => cases hlookup
      | link target => cases hlookup
      | directory others =>
          rw [lookup_directory_cons] at hlookup
          obtain ⟨child, hchild, hrest⟩ := Option.bind_eq_some_iff.mp hlookup
          exact .deeper hchild (ih hrest)

/-- A file can be replaced where it is. -/
theorem of_lookup_file {content : List UInt8} (hdirectory : tree.isDirectory = true)
    (hlookup : tree.lookup location = some (.file content)) : tree.Takes location := by
  rcases List.eq_nil_or_concat location with rfl | ⟨above, name, hconcat⟩
  · rw [lookup_nil, Option.some.injEq] at hlookup
    rw [hlookup] at hdirectory
    cases hdirectory
  · rw [List.concat_eq_append] at hconcat
    subst hconcat
    obtain ⟨entries, habove⟩ := exists_directory_of_lookup_append (List.cons_ne_nil _ _) hlookup
    refine of_lookup habove ?_
    intro node hnode
    rw [lookup_concat habove, hnode, Option.some.injEq] at hlookup
    exact ⟨content, hlookup⟩

/-- Seen from a directory on the way, the rest of the location can hold the file. -/
theorem of_append {above rest : List Name} (takes : tree.Takes (above ++ rest)) (hne : rest ≠ [])
    (hlookup : tree.lookup above = some node) : node.Takes rest := by
  induction above generalizing tree with
  | nil =>
      rw [lookup_nil, Option.some.injEq] at hlookup
      exact hlookup ▸ takes
  | cons name above ih =>
      generalize hlocation : name :: above ++ rest = whole at takes
      cases takes with
      | entry hfree => simp [hne] at hlocation
      | deeper hchild takes =>
          rw [List.cons_append, List.cons.injEq] at hlocation
          obtain ⟨rfl, rfl⟩ := hlocation
          rw [lookup_directory_cons, hchild] at hlookup
          exact ih takes hlookup

/-- What was at the location is a file. -/
theorem exists_content (takes : tree.Takes location) (hlookup : tree.lookup location = some old) :
    ∃ content, old = .file content := by
  induction takes with
  | @entry entries name hfree =>
      rw [lookup_directory_cons] at hlookup
      obtain ⟨child, hchild, hnil⟩ := Option.bind_eq_some_iff.mp hlookup
      rw [lookup_nil, Option.some.injEq] at hnil
      exact hnil ▸ hfree child hchild
  | deeper hchild takes ih =>
      rw [lookup_directory_cons, hchild] at hlookup
      exact ih hlookup

/-- The file is found where it was put. -/
theorem lookup_put_self (takes : tree.Takes location) (node : Node) :
    (tree.put location node).lookup location = some node := by
  induction takes with
  | entry hfree => simp [put_singleton, lookup_directory_cons]
  | deeper hlookup takes ih => simp [put, hlookup, lookup_directory_cons, ih]

/-- A tree that takes something below it stays a directory. -/
theorem exists_put_eq_directory (takes : tree.Takes location) (node : Node) :
    ∃ entries, tree.put location node = .directory entries := by
  cases takes with
  | entry hfree => exact ⟨_, put_singleton _ _ _⟩
  | deeper hlookup takes => exact ⟨_, put_cons_of_lookup_eq_some hlookup _⟩

/-- What is not on the way to the file is what it was. -/
theorem lookup_put_of_not_prefix (takes : tree.Takes location) {other : List Name}
    (hother : ¬ other <+: location) (content : List UInt8) :
    (tree.put location (.file content)).lookup other = tree.lookup other := by
  induction takes generalizing other with
  | @entry entries name hfree =>
      obtain ⟨first, rest, rfl⟩ := List.exists_cons_of_ne_nil
        (fun hnil : other = [] => hother (hnil ▸ List.nil_prefix))
      rw [put_singleton, lookup_directory_cons, lookup_directory_cons]
      by_cases hname : first = name
      · -- Nothing is below a file, before or after.
        subst hname
        obtain ⟨next, rest, rfl⟩ := List.exists_cons_of_ne_nil
          (fun hnil : rest = [] => hother (hnil ▸ List.prefix_refl _))
        rw [lookup_putEntry_self, Option.bind_some]
        cases hlookup : entries.lookup first with
        | none => rfl
        | some node =>
            obtain ⟨old, rfl⟩ := hfree node hlookup
            rfl
      · rw [lookup_putEntry_of_ne hname]
  | @deeper entries name node rest hlookup takes ih =>
      obtain ⟨first, others, rfl⟩ := List.exists_cons_of_ne_nil
        (fun hnil : other = [] => hother (hnil ▸ List.nil_prefix))
      rw [put_cons_of_lookup_eq_some hlookup, lookup_directory_cons, lookup_directory_cons]
      by_cases hname : first = name
      · subst hname
        rw [lookup_putEntry_self, hlookup, Option.bind_some, Option.bind_some]
        exact ih fun hbegins => hother (List.cons_prefix_cons.mpr ⟨rfl, hbegins⟩)
      · rw [lookup_putEntry_of_ne hname]

/-- The nodes on the way to the location are directories, before and after. -/
theorem exists_directory (takes : tree.Takes location) {above : List Name}
    (hbegins : above <+: location) (hne : above ≠ location) (node : Node) :
    ∃ entries entries', tree.lookup above = some (.directory entries) ∧
      (tree.put location node).lookup above = some (.directory entries') := by
  obtain ⟨rest, rfl⟩ := hbegins
  have hrest : rest ≠ [] := fun hnil => hne (by rw [hnil, List.append_nil])
  obtain ⟨entries', hafter⟩ := exists_directory_of_lookup_append hrest (takes.lookup_put_self node)
  have hput := lookup_put_append tree above hrest node
  rw [hafter] at hput
  obtain ⟨found, hfound, hdirectory⟩ := Option.map_eq_some_iff.mp hput.symm
  obtain ⟨name, rest, rfl⟩ := List.exists_cons_of_ne_nil hrest
  cases found with
  | directory entries => exact ⟨entries, entries', hfound, hafter⟩
  | file content => cases hdirectory
  | link target => cases hdirectory

end Takes

/-! ## What has not changed -/

/-- What a node is, the entries of a directory left out. -/
inductive Kind
  /-- A file with its content. -/
  | file (content : List UInt8)
  /-- A link with its target. -/
  | link (target : Path)
  /-- A directory. -/
  | directory
  deriving DecidableEq, Repr

/-- The kind of a node. -/
def kind : Node → Kind
  | file content => .file content
  | link target => .link target
  | directory _ => .directory

theorem lookup_eq_some_file_iff {tree : Node} {location : List Name} {content : List UInt8} :
    tree.lookup location = some (.file content) ↔
      (tree.lookup location).map kind = some (.file content) := by
  rcases tree.lookup location with _ | (_ | _ | _) <;> simp [kind]

/-- Putting a file changes nothing at another location, except that a directory on the way may
have one more entry. -/
theorem Takes.kind_lookup_put {tree : Node} {location : List Name} (takes : tree.Takes location)
    {other : List Name} (hne : other ≠ location) (content : List UInt8) :
    ((tree.put location (.file content)).lookup other).map kind =
      (tree.lookup other).map kind := by
  by_cases hbegins : other <+: location
  · obtain ⟨entries, entries', hbefore, hafter⟩ :=
      takes.exists_directory hbegins hne (.file content)
    rw [hbefore, hafter]
    rfl
  · rw [takes.lookup_put_of_not_prefix hbegins]

/-- Nodes of one form lead a path the same way: two files, two directories, or two links with
one target. -/
inductive SameForm : Node → Node → Prop
  /-- Two files. -/
  | file (content content' : List UInt8) : SameForm (.file content) (.file content')
  /-- Two links with one target. -/
  | link (target : Path) : SameForm (.link target) (.link target)
  /-- Two directories. -/
  | directory (entries entries' : List (Name × Node)) :
      SameForm (.directory entries) (.directory entries')

theorem SameForm.of_kind_eq {node node' : Node} (hkind : node.kind = node'.kind) :
    SameForm node node' := by
  cases node <;> cases node' <;> cases hkind
  · exact .file _ _
  · exact .link _
  · exact .directory _ _

/-- Whatever a tree has at a location, the other tree has too, in the same form. -/
def Keeps (tree tree' : Node) : Prop :=
  ∀ location node, tree.lookup location = some node →
    ∃ node', tree'.lookup location = some node' ∧ SameForm node node'

/-- Putting a file keeps what is there. -/
theorem Takes.keeps_put {tree : Node} {location : List Name} (takes : tree.Takes location)
    (content : List UInt8) : tree.Keeps (tree.put location (.file content)) := by
  intro other node hlookup
  by_cases heq : other = location
  · subst heq
    obtain ⟨old, rfl⟩ := takes.exists_content hlookup
    exact ⟨_, takes.lookup_put_self _, .file old content⟩
  · have hkind := takes.kind_lookup_put heq content
    rw [hlookup, Option.map_some] at hkind
    obtain ⟨node', hlookup', hkind'⟩ := Option.map_eq_some_iff.mp hkind
    exact ⟨node', hlookup', .of_kind_eq hkind'.symm⟩

end Node

end Polyglot
