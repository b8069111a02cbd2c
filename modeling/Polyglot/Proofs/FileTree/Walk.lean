/-
# Walking a directory

A walk of a directory yields every entry below it once, in whatever order:
`Node.IsWalk` says no more than that.  Links are entries like any other and are
not followed.  In a tree with distinct names there is a walk, which goes through
each directory before what follows it, and the files that the tree lists are the
regular files of this walk.
-/

import Mathlib.Data.List.Nodup
import Polyglot.Proofs.FileTree.Distinct

namespace Polyglot

namespace FoundFile

/-- The regular file that an entry of a walk is, if it is one. -/
def ofNode? : List Name × Node → Option FoundFile
  | (path, .file content) => some ⟨path, content⟩
  | (_, .link _) => none
  | (_, .directory _) => none

theorem ofNode?_eq_some_iff {location : List Name} {node : Node} {file : FoundFile} :
    ofNode? (location, node) = some file ↔
      location = file.path ∧ node = .file file.content := by
  obtain ⟨path, content⟩ := file
  cases node <;> simp [ofNode?]

end FoundFile

namespace Node

/-- What a walk of a node yields: every entry below it, once, in whatever order. -/
structure IsWalk (node : Node) (walked : List (List Name × Node)) : Prop where
  /-- No entry comes twice. -/
  nodup : (walked.map Prod.fst).Nodup
  /-- What comes is what is at the locations below the node. -/
  mem_iff : ∀ location found, (location, found) ∈ walked ↔
    location ≠ [] ∧ node.lookup location = some found

/-- An entry as seen from a directory further up. -/
def entryBelow (name : Name) (entry : List Name × Node) : List Name × Node :=
  (name :: entry.1, entry.2)

mutual

/-- The entries below a node. -/
def walk : Node → List (List Name × Node)
  | directory entries => walkIn entries
  | file _ => []
  | link _ => []

/-- Directory entries, each with everything below it. -/
def walkIn : List (Name × Node) → List (List Name × Node)
  | [] => []
  | (name, node) :: rest => (([], node) :: walk node).map (entryBelow name) ++ walkIn rest

end

/-! ## There is a walk -/

theorem walkIn_eq_flatMap (entries : List (Name × Node)) :
    walkIn entries = entries.flatMap fun entry =>
      (([], entry.2) :: entry.2.walk).map (entryBelow entry.1) := by
  induction entries with
  | nil => rw [walkIn, List.flatMap_nil]
  | cons entry rest ih => rw [walkIn, ih, List.flatMap_cons]

/-- An entry with everything below it is at the locations that begin with its name. -/
theorem mem_walkIn_iff {entries : List (Name × Node)} {location : List Name} {found : Node} :
    (location, found) ∈ walkIn entries ↔ ∃ name node rest, (name, node) ∈ entries ∧
      location = name :: rest ∧ (rest, found) ∈ ([], node) :: node.walk := by
  rw [walkIn_eq_flatMap, List.mem_flatMap]
  constructor
  · rintro ⟨⟨name, node⟩, hmem, hfound⟩
    obtain ⟨⟨rest, below⟩, hbelow, heq⟩ := List.mem_map.mp hfound
    cases heq
    exact ⟨name, node, rest, hmem, rfl, hbelow⟩
  · rintro ⟨name, node, rest, hmem, rfl, hfound⟩
    exact ⟨(name, node), hmem, List.mem_map.mpr ⟨(rest, found), hfound, rfl⟩⟩

/-- A location behind a name is a location below the entry of that name. -/
theorem lookup_cons_eq_some_iff {entries : List (Name × Node)}
    (nodup : (entries.map Prod.fst).Nodup) {name : Name} {rest : List Name} {found : Node} :
    (directory entries).lookup (name :: rest) = some found ↔
      ∃ node, (name, node) ∈ entries ∧ node.lookup rest = some found := by
  simp only [← lookup_eq_some_iff_mem nodup]
  cases hlookup : entries.lookup name <;> simp [lookup, hlookup]

namespace IsWalk

variable {node : Node} {walked : List (List Name × Node)}

/-- With the node itself, a walk yields what is at every location. -/
theorem mem_cons_iff (walks : node.IsWalk walked) {location : List Name} {found : Node} :
    (location, found) ∈ ([], node) :: walked ↔ node.lookup location = some found := by
  rw [List.mem_cons, walks.mem_iff]
  cases location with
  | nil => simp [lookup, eq_comm]
  | cons name rest => simp

theorem nil_notMem (walks : node.IsWalk walked) : [] ∉ walked.map Prod.fst := by
  intro hmem
  obtain ⟨⟨location, found⟩, hfound, rfl⟩ := List.mem_map.mp hmem
  exact ((walks.mem_iff _ _).mp hfound).1 rfl

/-- The locations of an entry and of what is below it are distinct. -/
theorem nodup_map_entryBelow (walks : node.IsWalk walked) (name : Name) :
    (((([], node) :: walked).map (entryBelow name)).map Prod.fst).Nodup := by
  have hlocations : ((([], node) :: walked).map Prod.fst).Nodup :=
    List.nodup_cons.mpr ⟨walks.nil_notMem, walks.nodup⟩
  have hbelow := hlocations.map (List.cons_injective (a := name))
  rw [List.map_map] at hbelow ⊢
  exact hbelow

end IsWalk

/-- Directory entries with distinct names, each with everything below it, have distinct
locations. -/
theorem nodup_walkIn {entries : List (Name × Node)} (nodup : (entries.map Prod.fst).Nodup)
    (walks : ∀ entry ∈ entries, entry.2.IsWalk entry.2.walk) :
    ((walkIn entries).map Prod.fst).Nodup := by
  rw [walkIn_eq_flatMap, List.map_flatMap, List.nodup_flatMap]
  constructor
  · intro entry hmem
    exact (walks entry hmem).nodup_map_entryBelow entry.1
  · -- Locations that begin with different names differ.
    refine (List.pairwise_map.mp nodup).imp ?_
    intro first second hne location hfirst hsecond
    obtain ⟨_, hbelow, rfl⟩ := List.mem_map.mp hfirst
    obtain ⟨one, _, rfl⟩ := List.mem_map.mp hbelow
    obtain ⟨_, hbelow', heq⟩ := List.mem_map.mp hsecond
    obtain ⟨other, _, rfl⟩ := List.mem_map.mp hbelow'
    exact hne (List.cons.inj heq).1.symm

/-- What has no entries has an empty walk. -/
theorem isWalk_nil {node : Node} (hlookup : ∀ name rest, node.lookup (name :: rest) = none) :
    node.IsWalk [] := by
  refine ⟨List.nodup_nil, ?_⟩
  intro location found
  cases location with
  | nil => simp
  | cons name rest => simp [hlookup]

/-- In a tree with distinct names, the entries below a node are a walk. -/
theorem Distinct.isWalk_walk {node : Node} (distinct : node.Distinct) :
    node.IsWalk node.walk := by
  induction distinct with
  | file content =>
      rw [walk]
      exact isWalk_nil fun _ _ => rfl
  | link target =>
      rw [walk]
      exact isWalk_nil fun _ _ => rfl
  | @directory entries nodup _ ih =>
      rw [walk]
      refine ⟨nodup_walkIn nodup ih, ?_⟩
      intro location found
      rw [mem_walkIn_iff]
      cases location with
      | nil => simp
      | cons name rest =>
          rw [lookup_cons_eq_some_iff nodup]
          constructor
          · rintro ⟨_, node, _, hmem, heq, hfound⟩
            cases heq
            exact ⟨List.cons_ne_nil _ _, node, hmem, (ih _ hmem).mem_cons_iff.mp hfound⟩
          · rintro ⟨_, node, hmem, hfound⟩
            exact ⟨name, node, rest, hmem, rfl, (ih _ hmem).mem_cons_iff.mpr hfound⟩

/-! ## The regular files of a walk -/

/-- The regular files among the entries of a walk. -/
def regularFiles (walked : List (List Name × Node)) : List FoundFile :=
  walked.filterMap FoundFile.ofNode?

theorem mem_regularFiles_iff {walked : List (List Name × Node)} {file : FoundFile} :
    file ∈ regularFiles walked ↔ (file.path, .file file.content) ∈ walked := by
  rw [regularFiles, List.mem_filterMap]
  constructor
  · rintro ⟨⟨location, node⟩, hmem, hfile⟩
    obtain ⟨rfl, rfl⟩ := FoundFile.ofNode?_eq_some_iff.mp hfile
    exact hmem
  · intro hmem
    exact ⟨_, hmem, rfl⟩

/-- The regular files seen from a directory further up. -/
theorem regularFiles_map_entryBelow (name : Name) (walked : List (List Name × Node)) :
    regularFiles (walked.map (entryBelow name)) =
      (regularFiles walked).map (FoundFile.below name) := by
  rw [regularFiles, regularFiles, List.filterMap_map, List.map_filterMap]
  congr 1
  funext entry
  obtain ⟨location, node⟩ := entry
  cases node <;> rfl

theorem regularFiles_walkIn_cons (name : Name) (node : Node) (rest : List (Name × Node)) :
    regularFiles (walkIn ((name, node) :: rest)) =
      (regularFiles (([], node) :: node.walk)).map (FoundFile.below name) ++
        regularFiles (walkIn rest) := by
  rw [walkIn, ← regularFiles_map_entryBelow]
  exact List.filterMap_append

mutual

/-- The files that a tree lists are the regular files of the walk that goes through each
directory before what follows it. -/
theorem files_eq_regularFiles_walk : ∀ node : Node, node.files = regularFiles node.walk
  | .directory entries => by
      rw [files, walk]
      exact filesIn_eq_regularFiles_walkIn entries
  | .file _ => by rw [files, walk]; rfl
  | .link _ => by rw [files, walk]; rfl

theorem filesIn_eq_regularFiles_walkIn :
    ∀ entries : List (Name × Node), filesIn entries = regularFiles (walkIn entries)
  | [] => by rw [filesIn, walkIn]; rfl
  | (name, .file content) :: rest => by
      rw [filesIn, regularFiles_walkIn_cons, walk, filesIn_eq_regularFiles_walkIn rest]
      rfl
  | (name, .link target) :: rest => by
      rw [filesIn, regularFiles_walkIn_cons, walk, filesIn_eq_regularFiles_walkIn rest]
      rfl
  | (name, .directory entries) :: rest => by
      rw [filesIn, regularFiles_walkIn_cons, walk, filesIn_eq_regularFiles_walkIn entries,
        filesIn_eq_regularFiles_walkIn rest]
      rfl

end

/-- Each regular file stands at the location of its entry. -/
theorem map_path_regularFiles_sublist (walked : List (List Name × Node)) :
    ((regularFiles walked).map FoundFile.path).Sublist (walked.map Prod.fst) := by
  induction walked with
  | nil => exact List.Sublist.slnil
  | cons entry rest ih =>
      obtain ⟨location, node⟩ := entry
      cases node with
      | file content => exact ih.cons_cons location
      | link target => exact ih.cons location
      | directory entries => exact ih.cons location

namespace IsWalk

variable {entries : List (Name × Node)} {walked : List (List Name × Node)}

/-- The regular files of a walk of a directory are the files at the locations below it. -/
theorem mem_regularFiles_iff (walks : (directory entries).IsWalk walked) {file : FoundFile} :
    file ∈ regularFiles walked ↔
      (directory entries).lookup file.path = some (.file file.content) := by
  rw [Node.mem_regularFiles_iff, walks.mem_iff, and_iff_right_iff_imp]
  intro hfound hnil
  rw [hnil] at hfound
  cases hfound

/-- No two regular files of a walk have one path. -/
theorem nodup_path (walks : (directory entries).IsWalk walked) :
    ((regularFiles walked).map FoundFile.path).Nodup :=
  walks.nodup.sublist (map_path_regularFiles_sublist walked)

end IsWalk

end Node

end Polyglot
