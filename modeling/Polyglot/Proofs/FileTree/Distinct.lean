/-
# Trees with distinct names

In a file system the names in a directory are distinct.  A tree is a list of
entries for every directory, so this is a property of trees here, and every
change that a workspace makes keeps it.  All changes go through `Node.put`, so
the step that carries the development is `Node.Distinct.put`.
-/

import Mathlib.Data.List.Nodup
import Polyglot.FileTree.Workspace
import Polyglot.Proofs.Entries

namespace Polyglot

namespace Node

/-- No directory in a tree has two entries with one name. -/
inductive Distinct : Node → Prop
  /-- A file has no entries. -/
  | file (content : List UInt8) : Distinct (.file content)
  /-- A link has no entries. -/
  | link (target : Path) : Distinct (.link target)
  /-- The names in a directory are distinct, and those below its entries are. -/
  | directory {entries : List (Name × Node)} (nodup : (entries.map Prod.fst).Nodup)
      (distinct : ∀ entry ∈ entries, Distinct entry.2) : Distinct (.directory entries)

/-! ## Entries -/

variable {name : Name} {node : Node} {entries : List (Name × Node)}

/-- Putting an entry under a name that is there changes no name. -/
theorem map_fst_putEntry_of_mem (hmem : name ∈ entries.map Prod.fst) :
    (putEntry name node entries).map Prod.fst = entries.map Prod.fst := by
  induction entries with
  | nil => cases hmem
  | cons entry rest ih =>
      by_cases heq : entry.1 = name
      · rw [putEntry, if_pos heq, List.map_cons, List.map_cons, heq]
      · have hrest : name ∈ rest.map Prod.fst :=
          (List.mem_cons.mp hmem).resolve_left (Ne.symm heq)
        rw [putEntry, if_neg heq, List.map_cons, List.map_cons, ih hrest]

/-- Putting an entry under a new name adds the name. -/
theorem map_fst_putEntry_of_notMem (hnew : name ∉ entries.map Prod.fst) :
    (putEntry name node entries).map Prod.fst = entries.map Prod.fst ++ [name] := by
  induction entries with
  | nil => rfl
  | cons entry rest ih =>
      rw [List.map_cons, List.mem_cons, not_or] at hnew
      rw [putEntry, if_neg (Ne.symm hnew.1), List.map_cons, List.map_cons, ih hnew.2]
      rfl

theorem nodup_putEntry (nodup : (entries.map Prod.fst).Nodup) :
    ((putEntry name node entries).map Prod.fst).Nodup := by
  by_cases hmem : name ∈ entries.map Prod.fst
  · rw [map_fst_putEntry_of_mem hmem]
    exact nodup
  · rw [map_fst_putEntry_of_notMem hmem, List.nodup_append]
    refine ⟨nodup, List.nodup_singleton name, ?_⟩
    intro other hother last hlast heq
    rw [heq, List.mem_singleton.mp hlast] at hother
    exact hmem hother

theorem mem_of_mem_putEntry {entry : Name × Node} (hmem : entry ∈ putEntry name node entries) :
    entry = (name, node) ∨ entry ∈ entries := by
  induction entries with
  | nil => exact Or.inl (List.mem_singleton.mp hmem)
  | cons other rest ih =>
      rw [putEntry] at hmem
      split at hmem
      · exact (List.mem_cons.mp hmem).imp_right (List.mem_cons_of_mem other)
      · rcases List.mem_cons.mp hmem with rfl | hrest
        · exact Or.inr List.mem_cons_self
        · exact (ih hrest).imp_right (List.mem_cons_of_mem other)

theorem put_cons_of_lookup_eq_some {old : Node} (hlookup : entries.lookup name = some old)
    (rest : List Name) : (Node.directory entries).put (name :: rest) node =
      .directory (putEntry name (old.put rest node) entries) := by
  rw [put]
  exact hlookup

/-! ## Trees -/

namespace Distinct

theorem nodup_entries (distinct : (Node.directory entries).Distinct) :
    (entries.map Prod.fst).Nodup := by
  cases distinct with
  | directory nodup _ => exact nodup

theorem of_mem (distinct : (Node.directory entries).Distinct) (hmem : (name, node) ∈ entries) :
    node.Distinct := by
  cases distinct with
  | directory _ distinct => exact distinct _ hmem

theorem empty : (Node.directory []).Distinct := .directory (by simp) (by simp)

/-- What is at a location of a tree has distinct names. -/
theorem of_lookup (distinct : node.Distinct) {location : List Name} {found : Node}
    (hlookup : node.lookup location = some found) : found.Distinct := by
  induction location generalizing node with
  | nil =>
      rw [Node.lookup] at hlookup
      exact Option.some.inj hlookup ▸ distinct
  | cons name rest ih =>
      cases node with
      | file content => cases hlookup
      | link target => cases hlookup
      | directory entries =>
          rw [Node.lookup] at hlookup
          split at hlookup
          · next child hchild =>
              exact ih (distinct.of_mem (mem_of_lookup_eq_some hchild)) hlookup
          · cases hlookup

theorem putEntry (distinct : (Node.directory entries).Distinct) (hnode : node.Distinct) :
    (Node.directory (Node.putEntry name node entries)).Distinct := by
  apply Distinct.directory (nodup_putEntry distinct.nodup_entries)
  intro entry hmem
  rcases mem_of_mem_putEntry hmem with rfl | hmem
  · exact hnode
  · exact distinct.of_mem hmem

/-- Putting a tree with distinct names somewhere keeps the names distinct. -/
theorem put {tree : Node} (distinct : tree.Distinct) (hnode : node.Distinct)
    (location : List Name) : (tree.put location node).Distinct := by
  induction location generalizing tree with
  | nil => exact hnode
  | cons name rest ih =>
      cases tree with
      | file content => exact distinct
      | link target => exact distinct
      | directory entries =>
          cases hlookup : entries.lookup name with
          | some old =>
              have hold := distinct.of_mem (mem_of_lookup_eq_some hlookup)
              rw [put_cons_of_lookup_eq_some hlookup]
              exact distinct.putEntry (ih hold)
          | none =>
              cases rest with
              | nil =>
                  simp only [Node.put, hlookup]
                  exact distinct.putEntry hnode
              | cons next rest =>
                  simp only [Node.put, hlookup]
                  exact distinct

end Distinct

end Node

/-! ## Workspaces -/

namespace Workspace

variable {w : Workspace}

theorem distinct_of_find (distinct : w.tree.Distinct) {path : Path} {node : Node}
    (hfind : w.find path = .ok node) : node.Distinct := by
  rw [find] at hfind
  split at hfind
  · cases hfind
  · cases hfind
  · split at hfind
    · next hlookup => exact Except.ok.inj hfind ▸ distinct.of_lookup hlookup
    · cases hfind

theorem distinct_write (distinct : w.tree.Distinct) (location : List Name)
    (content : List UInt8) : (w.write location content).tree.Distinct :=
  distinct.put (.file content) location

theorem distinct_create (distinct : w.tree.Distinct) {path : Path} {created : Workspace}
    {location : List Name} (hcreate : w.create path = .ok (created, location)) :
    created.tree.Distinct := by
  rw [create] at hcreate
  split at hcreate
  · cases hcreate
  · cases hcreate
    exact distinct_write distinct _ _
  · split at hcreate
    · cases hcreate
    · cases hcreate
      exact distinct_write distinct _ _

theorem distinct_makeDirectory (distinct : w.tree.Distinct) (path : Path) :
    (w.makeDirectory path).tree.Distinct := by
  rw [makeDirectory]
  split
  · exact distinct.put Node.Distinct.empty _
  · exact distinct

theorem distinct_makeDirectories (distinct : w.tree.Distinct) (path : Path) :
    (w.makeDirectories path).tree.Distinct := by
  rw [makeDirectories]
  generalize List.range path.steps.length = counts
  induction counts generalizing w with
  | nil => exact distinct
  | cons count rest ih => exact ih (distinct_makeDirectory distinct _)

theorem distinct_makeFile (distinct : w.tree.Distinct) (path : Path) (content : List UInt8) :
    (w.makeFile path content).tree.Distinct := by
  have hdirectories := distinct_makeDirectories distinct path.parent
  simp only [makeFile]
  split
  · next hcreate => exact distinct_write (distinct_create hdirectories hcreate) _ _
  · exact hdirectories

theorem distinct_makeLink (distinct : w.tree.Distinct) (path target : Path) :
    (w.makeLink path target).tree.Distinct := by
  have hdirectories := distinct_makeDirectories distinct path.parent
  simp only [makeLink]
  split
  · exact hdirectories.put (.link target) _
  · exact hdirectories

end Workspace

end Polyglot
