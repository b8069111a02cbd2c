/-
# Where paths lead after a file was created

A path that leads somewhere leads to the same place in every tree that keeps what
was there: resolving a path never asks for what is absent, except for the last
name of a file that is to be created.  So a path that a file was created under
leads to this file, and every other path that was in use leads where it led.

Each of these facts is proved for the walk over the steps of one path, with
whatever handles the links, and then by induction on the number of links that may
be followed.
-/

import Polyglot.Proofs.FileTree.Put

namespace Polyglot

namespace Resolved

/-- The location that a path leads to, be something there or not. -/
def location : Resolved → List Name
  | existing location => location
  | missing directory name => directory ++ [name]

/-- What a tree has where a path leads: a file, a directory, or a directory in which the last
name is free.  A link is followed, so none is left. -/
inductive IsIn (tree : Node) : Resolved → Prop
  /-- A file. -/
  | file {location : List Name} {content : List UInt8}
      (hlookup : tree.lookup location = some (.file content)) : IsIn tree (.existing location)
  /-- A directory. -/
  | directory {location : List Name} {entries : List (Name × Node)}
      (hlookup : tree.lookup location = some (.directory entries)) : IsIn tree (.existing location)
  /-- A free name. -/
  | missing {location : List Name} {name : Name} {entries : List (Name × Node)}
      (hlookup : tree.lookup location = some (.directory entries))
      (hfree : entries.lookup name = none) : IsIn tree (.missing location name)

end Resolved

namespace Workspace

variable {tree tree' : Node} {creating trailing : Bool} {onLink onLink' : LinkHandler}
  {location rest : List Name} {step : Name} {entries : List (Name × Node)} {result : Resolved}

/-! ## One step -/

/-- What a walk does at one step from a directory when it succeeds. -/
inductive WalkStep (tree : Node) (creating : Bool) (onLink : LinkHandler)
    (entries : List (Name × Node)) (location : List Name) (step : Name) (rest : List Name)
    (trailing : Bool) (result : Resolved) : Prop
  /-- It stays where it is. -/
  | stay (hstep : step = Path.here)
      (hwalk : walk tree creating onLink rest trailing location = .ok result)
  /-- It goes to the directory above. -/
  | up (hstep : step = Path.above)
      (hwalk : walk tree creating onLink rest trailing location.dropLast = .ok result)
  /-- It ends at a name that is free. -/
  | free (hhere : step ≠ Path.here) (habove : step ≠ Path.above)
      (hlookup : entries.lookup step = none) (hrest : rest = []) (htrailing : trailing = false)
      (hresult : result = .missing location step)
  /-- It leaves the rest to what handles the links. -/
  | link {target : Path} (hhere : step ≠ Path.here) (habove : step ≠ Path.above)
      (hplain : (creating && trailing && rest.isEmpty) = false)
      (hlookup : entries.lookup step = some (.link target))
      (hlink : onLink location target rest trailing = .ok result)
  /-- It goes to the entry of that name. -/
  | enter {node : Node} (hhere : step ≠ Path.here) (habove : step ≠ Path.above)
      (hplain : (creating && trailing && rest.isEmpty) = false)
      (hlookup : entries.lookup step = some node) (hnode : ∀ target, node ≠ .link target)
      (hwalk : walk tree creating onLink rest trailing (location ++ [step]) = .ok result)

theorem exists_walkStep (hwalk : walk tree creating onLink (step :: rest) trailing location =
    .ok result) : ∃ entries, tree.lookup location = some (.directory entries) ∧
      WalkStep tree creating onLink entries location step rest trailing result := by
  rw [walk] at hwalk
  split at hwalk
  · cases hwalk
  · next entries hlookup =>
      refine ⟨entries, hlookup, ?_⟩
      split at hwalk
      · next hhere => exact .stay hhere hwalk
      next hhere =>
      split at hwalk
      · next habove => exact .up habove hwalk
      next habove =>
      split at hwalk
      · cases hwalk
      next hplain =>
      rw [Bool.not_eq_true] at hplain
      split at hwalk
      · next hfree =>
          split at hwalk
          · next hend =>
              rw [Bool.and_eq_true, List.isEmpty_iff, Bool.not_eq_true'] at hend
              exact .free hhere habove hfree hend.1 hend.2 (Except.ok.inj hwalk).symm
          · cases hwalk
      · next target hentry => exact .link hhere habove hplain hentry hwalk
      · next node hnode hentry => exact .enter hhere habove hplain hentry hnode hwalk
  · cases hwalk

/-- The walk that a step belongs to. -/
theorem WalkStep.walk_eq_ok
    (walks : WalkStep tree creating onLink entries location step rest trailing result)
    (hlookup : tree.lookup location = some (.directory entries)) :
    walk tree creating onLink (step :: rest) trailing location = .ok result := by
  rw [walk]
  simp only [hlookup]
  cases walks with
  | stay hstep hwalk => rw [if_pos hstep, hwalk]
  | up hstep hwalk =>
      have hhere : step ≠ Path.here := hstep ▸ by decide
      rw [if_neg hhere, if_pos hstep, hwalk]
  | free hhere habove hentry hrest htrailing hresult =>
      subst hrest htrailing hresult
      simp [hhere, habove, hentry]
  | link hhere habove hplain hentry hlink =>
      simp only [if_neg hhere, if_neg habove, hplain, Bool.false_eq_true, if_false, hentry, hlink]
  | @enter node hhere habove hplain hentry hnode hwalk =>
      simp only [if_neg hhere, if_neg habove, hplain, Bool.false_eq_true, if_false, hentry]
      cases node with
      | link target => exact absurd rfl (hnode target)
      | file content => exact hwalk
      | directory others => exact hwalk

/-! ## One walk -/

/-- The directory above a directory is there. -/
theorem exists_lookup_dropLast (hlookup : tree.lookup location = some (.directory entries)) :
    ∃ entries', tree.lookup location.dropLast = some (.directory entries') := by
  rcases List.eq_nil_or_concat location with rfl | ⟨above, name, hconcat⟩
  · exact ⟨entries, hlookup⟩
  · rw [List.concat_eq_append] at hconcat
    subst hconcat
    rw [List.dropLast_concat]
    exact Node.exists_directory_of_lookup_append (List.cons_ne_nil _ _) hlookup

/-- A walk ends at what is in the tree, if it does not begin at a link. -/
theorem isIn_of_walk (hlink : ∀ location entries target rest trailing,
      tree.lookup location = some (.directory entries) →
        onLink location target rest trailing = .ok result → result.IsIn tree)
    {steps : List Name} (hstart : steps = [] → ∀ target, tree.lookup location ≠ some (.link target))
    (hwalk : walk tree creating onLink steps trailing location = .ok result) :
    result.IsIn tree := by
  induction steps generalizing location with
  | nil =>
      rw [walk] at hwalk
      split at hwalk
      · next entries hlookup => exact Except.ok.inj hwalk ▸ .directory hlookup
      · next node hdirectory hlookup =>
          split at hwalk
          · cases hwalk
          · cases node with
            | file content => exact Except.ok.inj hwalk ▸ .file hlookup
            | link target => exact absurd hlookup (hstart rfl target)
            | directory entries => exact absurd rfl (hdirectory entries)
      · cases hwalk
  | cons step rest ih =>
      obtain ⟨entries, hlookup, walks⟩ := exists_walkStep hwalk
      cases walks with
      | stay hstep hwalk => exact ih (fun _ target => by simp [hlookup]) hwalk
      | up hstep hwalk =>
          obtain ⟨above, habove⟩ := exists_lookup_dropLast hlookup
          exact ih (fun _ target => by simp [habove]) hwalk
      | free hhere habove hfree hrest htrailing hresult => exact hresult ▸ .missing hlookup hfree
      | link hhere habove hplain hentry hwalk => exact hlink _ _ _ _ _ hlookup hwalk
      | enter hhere habove hplain hentry hnode hwalk =>
          refine ih (fun _ target => ?_) hwalk
          rw [Node.lookup_concat hlookup, hentry]
          exact fun heq => hnode target (Option.some.inj heq)

/-- What a tree that keeps another one has under a name of a directory. -/
theorem exists_entry_of_keeps (keeps : tree.Keeps tree') {entries' : List (Name × Node)}
    (hlookup : tree.lookup location = some (.directory entries))
    (hlookup' : tree'.lookup location = some (.directory entries')) {node : Node}
    (hentry : entries.lookup step = some node) :
    ∃ node', entries'.lookup step = some node' ∧ Node.SameForm node node' := by
  rw [← Node.lookup_concat hlookup] at hentry
  rw [← Node.lookup_concat hlookup']
  exact keeps _ _ hentry

/-- A walk that leads somewhere leads to the same place in a tree that keeps what was there, if
this has a file under the name that was free. -/
theorem walk_of_keeps (keeps : tree.Keeps tree')
    (hfilled : ∀ directory name, result = .missing directory name →
      ∃ content, tree'.lookup (directory ++ [name]) = some (.file content))
    (hlink : ∀ location target rest trailing, onLink location target rest trailing = .ok result →
      onLink' location target rest trailing = .ok (.existing result.location))
    {steps : List Name} (hwalk : walk tree creating onLink steps trailing location = .ok result) :
    walk tree' false onLink' steps trailing location = .ok (.existing result.location) := by
  induction steps generalizing location with
  | nil =>
      rw [walk] at hwalk ⊢
      split at hwalk
      · next entries hlookup =>
          obtain ⟨node', hlookup', hform⟩ := keeps _ _ hlookup
          cases hform
          cases hwalk
          simp only [hlookup', Resolved.location]
      · next node hdirectory hlookup =>
          obtain ⟨node', hlookup', hform⟩ := keeps _ _ hlookup
          split at hwalk
          · cases hwalk
          · next htrailing =>
              cases hwalk
              cases hform with
              | file content content' => simp only [hlookup', if_neg htrailing, Resolved.location]
              | link target => simp only [hlookup', if_neg htrailing, Resolved.location]
              | directory entries entries' => exact absurd rfl (hdirectory entries)
      · cases hwalk
  | cons step rest ih =>
      obtain ⟨entries, hlookup, walks⟩ := exists_walkStep hwalk
      obtain ⟨node', hlookup', hform⟩ := keeps _ _ hlookup
      cases hform with
      | directory _ entries' =>
      refine WalkStep.walk_eq_ok ?_ hlookup'
      cases walks with
      | stay hstep hwalk => exact .stay hstep (ih hwalk)
      | up hstep hwalk => exact .up hstep (ih hwalk)
      | free hhere habove hfree hrest htrailing hresult =>
          -- What is under the free name now is a file, and the walk ends there.
          obtain ⟨content, hfile⟩ := hfilled _ _ hresult
          have hentry := hfile
          rw [Node.lookup_concat hlookup'] at hentry
          refine .enter hhere habove rfl hentry (by simp) ?_
          rw [hrest, htrailing, hresult, walk, hfile]
          rfl
      | link hhere habove hplain hentry hwalk =>
          obtain ⟨node', hentry', hform⟩ := exists_entry_of_keeps keeps hlookup hlookup' hentry
          cases hform
          exact .link hhere habove rfl hentry' (hlink _ _ _ _ hwalk)
      | enter hhere habove hplain hentry hnode hwalk =>
          obtain ⟨node', hentry', hform⟩ := exists_entry_of_keeps keeps hlookup hlookup' hentry
          refine .enter hhere habove rfl hentry' ?_ (ih hwalk)
          rintro target rfl
          cases hform
          exact hnode target rfl

/-! ## Paths -/

/-- A relative path has a step. -/
theorem steps_ne_nil {path : Path} (hempty : path.isEmpty = false)
    (hrelative : path.absolute = false) : path.steps ≠ [] := by
  intro hsteps
  simp [Path.isEmpty, hrelative, hsteps] at hempty

theorem lookup_nil_ne_link (hroot : tree.isDirectory = true) (target : Path) :
    tree.lookup [] ≠ some (.link target) := by
  rw [Node.lookup_nil]
  rintro ⟨⟩
  cases hroot

/-- Resolving the steps of a path ends at what is in the tree, if it does not begin at a link. -/
theorem isIn_of_resolveSteps (hroot : tree.isDirectory = true) {links : Nat} {steps : List Name}
    (hstart : steps = [] → ∀ target, tree.lookup location ≠ some (.link target))
    (hresolve : resolveSteps tree creating links steps trailing location = .ok result) :
    result.IsIn tree := by
  induction links generalizing steps trailing location with
  | zero => exact isIn_of_walk (fun _ _ _ _ _ _ herror => by cases herror) hstart hresolve
  | succ links ih =>
      refine isIn_of_walk (fun location entries target rest trailing hlookup hlink => ?_) hstart
        hresolve
      split at hlink
      · cases hlink
      · next hempty =>
          refine ih (fun hnil => ?_) hlink
          cases habsolute : target.absolute with
          | true => exact lookup_nil_ne_link hroot
          | false =>
              have hsteps := steps_ne_nil (by simpa using hempty) habsolute
              simp [hsteps] at hnil

/-- Steps that lead somewhere lead to the same place in a tree that keeps what was there, if this
has a file under the name that was free. -/
theorem resolveSteps_of_keeps (keeps : tree.Keeps tree')
    (hfilled : ∀ directory name, result = .missing directory name →
      ∃ content, tree'.lookup (directory ++ [name]) = some (.file content))
    {links : Nat} {steps : List Name}
    (hresolve : resolveSteps tree creating links steps trailing location = .ok result) :
    resolveSteps tree' false links steps trailing location = .ok (.existing result.location) := by
  induction links generalizing steps trailing location with
  | zero => exact walk_of_keeps keeps hfilled (fun _ _ _ _ herror => by cases herror) hresolve
  | succ links ih =>
      refine walk_of_keeps keeps hfilled (fun location target rest trailing hlink => ?_) hresolve
      split at hlink
      · cases hlink
      · next hempty =>
          rw [if_neg hempty]
          exact ih hlink

variable {w : Workspace} {path : Path}

/-- A path leads to what is in the tree. -/
theorem isIn_of_resolve (hroot : w.tree.isDirectory = true)
    (hresolve : w.resolve creating path = .ok result) : result.IsIn w.tree := by
  rw [resolve] at hresolve
  split at hresolve
  · cases hresolve
  · next hempty =>
      refine isIn_of_resolveSteps hroot (fun hnil => ?_) hresolve
      cases habsolute : path.absolute with
      | true => exact lookup_nil_ne_link hroot
      | false => exact absurd hnil (steps_ne_nil (by simpa using hempty) habsolute)

/-- A path that leads somewhere leads to the same place after the tree was changed to one that
keeps what was there, and that has a file under the name that was free. -/
theorem resolve_of_keeps (keeps : w.tree.Keeps tree')
    (hfilled : ∀ directory name, result = .missing directory name →
      ∃ content, tree'.lookup (directory ++ [name]) = some (.file content))
    (hresolve : w.resolve creating path = .ok result) :
    resolve { w with tree := tree' } false path = .ok (.existing result.location) := by
  rw [resolve] at hresolve ⊢
  split at hresolve
  · cases hresolve
  · next hempty =>
      rw [if_neg hempty]
      exact resolveSteps_of_keeps keeps hfilled hresolve

end Workspace

end Polyglot
