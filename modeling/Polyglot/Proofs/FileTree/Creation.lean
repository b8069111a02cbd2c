/-
# Creating a file

Creating a file leaves everything else in the tree as it was, so the path of the
file leads to it, and a path that was in use leads to the same node as before
unless the file is that node or below it.
-/

import Polyglot.Proofs.FileTree.Resolution

namespace Polyglot

namespace Workspace

variable {w created : Workspace} {path : Path} {node : Node} {location : List Name}

/-! ## What a path leads to -/

theorem find_eq_ok_iff : w.find path = .ok node ↔
    ∃ location, w.resolve false path = .ok (.existing location) ∧
      w.tree.lookup location = some node := by
  rw [find]
  constructor
  · intro hfind
    split at hfind
    · cases hfind
    · cases hfind
    · next location hresolve =>
        split at hfind
        · next found hlookup =>
            cases hfind
            exact ⟨location, hresolve, hlookup⟩
        · cases hfind
  · rintro ⟨location, hresolve, hlookup⟩
    simp only [hresolve, hlookup]

theorem read_of_find {content : List UInt8} (hfind : w.find path = .ok (.file content)) :
    w.read path = .ok content := by
  rw [read, hfind]

theorem directory?_of_find (hfind : w.find path = .ok node) :
    w.directory? path = if node.isDirectory then some node else none := by
  rw [directory?, hfind]
  cases node <;> rfl

/-- A location is within a path if the path leads there or to a directory above. -/
def Within (w : Workspace) (path : Path) (location : List Name) : Prop :=
  ∃ top, w.resolve false path = .ok (.existing top) ∧ top <+: location

/-! ## The file that is created -/

@[simp]
theorem write_tree (w : Workspace) (location : List Name) (content : List UInt8) :
    (w.write location content).tree = w.tree.put location (.file content) := rfl

/-- The last content written counts. -/
theorem write_write (w : Workspace) (location : List Name) (old content : List UInt8) :
    (w.write location old).write location content = w.write location content := by
  simp only [write, Node.put_put]

/-- A file is created empty, at the location that its path leads to, where the tree takes it. -/
theorem create_eq_ok (hroot : w.tree.isDirectory = true)
    (hcreate : w.create path = .ok (created, location)) :
    created = w.write location [] ∧ w.tree.Takes location ∧
      ∃ result, w.resolve true path = .ok result ∧ result.location = location := by
  rw [create] at hcreate
  split at hcreate
  · cases hcreate
  · next directory name hresolve =>
      cases hcreate
      refine ⟨rfl, ?_, _, hresolve, rfl⟩
      cases isIn_of_resolve hroot hresolve with
      | missing hlookup hfree => exact .of_lookup hlookup (by simp [hfree])
  · next found hresolve =>
      split at hcreate
      · cases hcreate
      · next hdirectory =>
          cases hcreate
          refine ⟨rfl, ?_, _, hresolve, rfl⟩
          cases isIn_of_resolve hroot hresolve with
          | file hlookup => exact .of_lookup_file hroot hlookup
          | directory hlookup => exact absurd hlookup (hdirectory _)

/-- The path that a file was created under leads to it. -/
theorem find_write_of_create (hroot : w.tree.isDirectory = true)
    (hcreate : w.create path = .ok (created, location)) (content : List UInt8) :
    (w.write location content).find path = .ok (.file content) := by
  obtain ⟨-, takes, result, hresolve, rfl⟩ := create_eq_ok hroot hcreate
  have hfile := takes.lookup_put_self (.file content)
  refine find_eq_ok_iff.mpr ⟨result.location, ?_, hfile⟩
  refine resolve_of_keeps (takes.keeps_put content) (fun directory name hmissing => ?_) hresolve
  exact ⟨content, hmissing ▸ hfile⟩

/-! ## Other paths -/

/-- A path in use leads where it led. -/
theorem resolve_write (takes : w.tree.Takes location) {top : List Name}
    (hresolve : w.resolve false path = .ok (.existing top)) (content : List UInt8) :
    (w.write location content).resolve false path = .ok (.existing top) :=
  resolve_of_keeps (takes.keeps_put content) (fun _ _ hmissing => by cases hmissing) hresolve

/-- A path in use leads to the same node if the file is not within it. -/
theorem find_write_of_not_within (takes : w.tree.Takes location)
    (hfind : w.find path = .ok node) (houtside : ¬ w.Within path location)
    (content : List UInt8) : (w.write location content).find path = .ok node := by
  obtain ⟨top, hresolve, hlookup⟩ := find_eq_ok_iff.mp hfind
  refine find_eq_ok_iff.mpr ⟨top, resolve_write takes hresolve content, ?_⟩
  rw [write_tree, takes.lookup_put_of_not_prefix fun hbegins => houtside ⟨top, hresolve, hbegins⟩]
  exact hlookup

/-- A path that led to the file leads to the new content. -/
theorem find_write_self (takes : w.tree.Takes location)
    (hresolve : w.resolve false path = .ok (.existing location)) (content : List UInt8) :
    (w.write location content).find path = .ok (.file content) :=
  find_eq_ok_iff.mpr
    ⟨location, resolve_write takes hresolve content, takes.lookup_put_self (.file content)⟩

/-- A path that leads to a directory above the file leads to this directory with the file in
it. -/
theorem find_write_append {top rest : List Name} (takes : w.tree.Takes (top ++ rest))
    (hne : rest ≠ []) (hresolve : w.resolve false path = .ok (.existing top))
    (hlookup : w.tree.lookup top = some node) (content : List UInt8) :
    (w.write (top ++ rest) content).find path = .ok (node.put rest (.file content)) := by
  refine find_eq_ok_iff.mpr ⟨top, resolve_write takes hresolve content, ?_⟩
  rw [write_tree, Node.lookup_put_append _ _ hne, hlookup, Option.map_some]

end Workspace

end Polyglot
