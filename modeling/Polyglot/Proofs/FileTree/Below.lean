/-
# Files below a directory

In a file system, the name of an entry is neither empty nor made of the dots that
stand for a directory, and it has no slash.  In a tree with such names, a path to
a directory with the names behind it that lead down to a file is a path to this
file, however the path to the directory is written and whatever links it goes
through.
-/

import Polyglot.Proofs.FileTree.Creation
import Polyglot.Proofs.FileTree.Parts

namespace Polyglot

open Polyglot.Path (IsName)

namespace Node

/-- Every entry of every directory in a tree has a proper name. -/
inductive Named : Node → Prop
  /-- A file has no entries. -/
  | file (content : List UInt8) : Named (.file content)
  /-- A link has no entries. -/
  | link (target : Path) : Named (.link target)
  /-- The names in a directory are proper, and those below its entries are. -/
  | directory {entries : List (Name × Node)} (names : ∀ entry ∈ entries, IsName entry.1)
      (named : ∀ entry ∈ entries, Named entry.2) : Named (.directory entries)

namespace Named

variable {node found : Node} {entries : List (Name × Node)} {location : List Name}

theorem of_mem (named : (Node.directory entries).Named) {entry : Name × Node}
    (hmem : entry ∈ entries) : IsName entry.1 ∧ entry.2.Named := by
  cases named with
  | directory names named => exact ⟨names _ hmem, named _ hmem⟩

/-- Proper names lead to everything in the tree, and the names below it are proper too. -/
theorem of_lookup (named : node.Named) (hlookup : node.lookup location = some found) :
    (∀ name ∈ location, IsName name) ∧ found.Named := by
  induction location generalizing node with
  | nil =>
      rw [lookup_nil, Option.some.injEq] at hlookup
      exact ⟨nofun, hlookup ▸ named⟩
  | cons name rest ih =>
      cases node with
      | file content => cases hlookup
      | link target => cases hlookup
      | directory entries =>
          rw [lookup_directory_cons] at hlookup
          obtain ⟨child, hchild, hrest⟩ := Option.bind_eq_some_iff.mp hlookup
          obtain ⟨hname, hbelow⟩ := named.of_mem (mem_of_lookup_eq_some hchild)
          obtain ⟨hnames, hfound⟩ := ih hbelow hrest
          exact ⟨List.forall_mem_cons.mpr ⟨hname, hnames⟩, hfound⟩

end Named

end Node

namespace Workspace

variable {tree node : Node} {trailing : Bool} {onLink onLink' : LinkHandler}
  {location top steps names : List Name} {entries : List (Name × Node)} {content : List UInt8}

/-! ## One walk -/

/-- Proper names lead down to a file without a link on the way. -/
theorem walk_names (named : ∀ name ∈ names, IsName name) (onLink : LinkHandler)
    (hlookup : tree.lookup location = some node)
    (hfile : node.lookup names = some (.file content)) :
    walk tree false onLink names false location = .ok (.existing (location ++ names)) := by
  induction names generalizing location node with
  | nil =>
      rw [Node.lookup_nil, Option.some.injEq] at hfile
      subst hfile
      rw [walk, hlookup, List.append_nil]
      rfl
  | cons name rest ih =>
      rw [List.forall_mem_cons] at named
      cases node with
      | file content => cases hfile
      | link target => cases hfile
      | directory entries =>
          rw [Node.lookup_directory_cons] at hfile
          obtain ⟨child, hchild, hrest⟩ := Option.bind_eq_some_iff.mp hfile
          have hnext : tree.lookup (location ++ [name]) = some child := by
            rw [Node.lookup_concat hlookup, hchild]
          have hplain (target : Path) : child ≠ .link target := by
            rintro rfl
            cases rest <;> cases hrest
          refine WalkStep.walk_eq_ok ?_ hlookup
          refine .enter named.1.ne_here named.1.ne_above rfl hchild hplain ?_
          rw [List.append_cons location name rest]
          exact ih named.2 hnext hrest

/-- A walk can be continued from where it ends, if the handler of the links continues too. -/
theorem walk_append (hnames : ∀ onLink, walk tree false onLink names false top =
      .ok (.existing (top ++ names)))
    (hlink : ∀ location target rest, onLink location target rest trailing = .ok (.existing top) →
      onLink' location target (rest ++ names) false = .ok (.existing (top ++ names)))
    (hwalk : walk tree false onLink steps trailing location = .ok (.existing top)) :
    walk tree false onLink' (steps ++ names) false location = .ok (.existing (top ++ names)) := by
  induction steps generalizing location with
  | nil =>
      have htop : location = top := by
        rw [walk] at hwalk
        split at hwalk
        · exact Resolved.existing.inj (Except.ok.inj hwalk)
        · split at hwalk
          · cases hwalk
          · exact Resolved.existing.inj (Except.ok.inj hwalk)
        · cases hwalk
      rw [htop]
      exact hnames onLink'
  | cons step rest ih =>
      obtain ⟨entries, hlookup, walks⟩ := exists_walkStep hwalk
      refine WalkStep.walk_eq_ok ?_ hlookup
      cases walks with
      | stay hstep hwalk => exact .stay hstep (ih hwalk)
      | up hstep hwalk => exact .up hstep (ih hwalk)
      | free _ _ _ _ _ hresult => cases hresult
      | link hhere habove _ hentry hwalk => exact .link hhere habove rfl hentry (hlink _ _ _ hwalk)
      | enter hhere habove _ hentry hnode hwalk =>
          exact .enter hhere habove rfl hentry hnode (ih hwalk)

/-! ## Paths -/

/-- Steps can be continued from where they lead, since no links are left to follow. -/
theorem resolveSteps_append (hne : names ≠ [])
    (hnames : ∀ onLink, walk tree false onLink names false top = .ok (.existing (top ++ names)))
    {links : Nat}
    (hresolve : resolveSteps tree false links steps trailing location = .ok (.existing top)) :
    resolveSteps tree false links (steps ++ names) false location =
      .ok (.existing (top ++ names)) := by
  induction links generalizing steps trailing location with
  | zero => exact walk_append hnames (fun _ _ _ herror => by cases herror) hresolve
  | succ links ih =>
      refine walk_append hnames (fun location target rest hlink => ?_) hresolve
      split at hlink
      · cases hlink
      · next hempty =>
          have hmore : (rest ++ names).isEmpty = false := by simpa using fun _ => hne
          rw [if_neg hempty, ← List.append_assoc, hmore, Bool.false_and, Bool.or_false]
          exact ih hlink

variable {w : Workspace} {path : Path}

/-- Behind a path to a directory, the names that lead down to a file make a path to the
file. -/
theorem find_join (named : ∀ name ∈ names, IsName name)
    (hfind : w.find path = .ok (.directory entries))
    (hfile : (Node.directory entries).lookup names = some (.file content)) :
    w.find (path.join names) = .ok (.file content) := by
  obtain ⟨top, hresolve, hlookup⟩ := find_eq_ok_iff.mp hfind
  have hne : names ≠ [] := by
    rintro rfl
    cases hfile
  refine find_eq_ok_iff.mpr ⟨top ++ names, ?_, ?_⟩
  · rw [resolve] at hresolve ⊢
    split at hresolve
    · cases hresolve
    · have hempty : (path.join names).isEmpty = false := by
        simp [Path.isEmpty, Path.join, hne]
      have htrailing : (path.trailing && names.isEmpty) = false := by simp [hne]
      rw [hempty, Path.join, htrailing]
      exact resolveSteps_append hne (fun onLink => walk_names named onLink hlookup hfile) hresolve
  · rw [Node.lookup_append, hlookup, Option.bind_some, hfile]

end Workspace

end Polyglot
