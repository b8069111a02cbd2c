/-
# Entries with distinct keys

Directories and tables are lists of keys with their values, in which the first entry with a
key is found.  Where the keys are distinct, that is every entry with the key.
-/

import Mathlib.Data.List.Nodup

namespace Polyglot

variable {κ α : Type} {entries : List (κ × α)} {key : κ} {value : α}

/-- No key stands twice. -/
def KeysDistinct (entries : List (κ × α)) : Prop := (entries.map Prod.fst).Nodup

variable [BEq κ] [LawfulBEq κ]

theorem mem_of_lookup_eq_some (hlookup : entries.lookup key = some value) :
    (key, value) ∈ entries := by
  obtain ⟨before, after, hsplit, _⟩ := List.lookup_eq_some_iff.mp hlookup
  rw [hsplit]
  exact List.mem_append_right before List.mem_cons_self

/-- Where keys are distinct, every entry is found under its key. -/
theorem lookup_eq_some_iff_mem (hkeys : KeysDistinct entries) :
    entries.lookup key = some value ↔ (key, value) ∈ entries := by
  constructor
  · exact mem_of_lookup_eq_some
  · intro hmem
    obtain ⟨before, after, rfl⟩ := List.append_of_mem hmem
    rw [List.lookup_eq_some_iff]
    refine ⟨before, after, rfl, ?_⟩
    intro other hother
    rw [KeysDistinct, List.map_append, List.map_cons] at hkeys
    have hne : other.1 ≠ key :=
      (List.nodup_append.mp hkeys).2.2 _ (List.mem_map_of_mem hother) _ List.mem_cons_self
    simpa using hne.symm

/-- A key under which nothing is found can be added. -/
theorem KeysDistinct.concat (hkeys : KeysDistinct entries) (hfresh : entries.lookup key = none)
    (value : α) : KeysDistinct (entries ++ [(key, value)]) := by
  rw [KeysDistinct, List.map_append]
  refine List.nodup_append_comm.mp (List.nodup_cons.mpr ⟨?_, hkeys⟩)
  intro hmem
  obtain ⟨entry, hentry, heq⟩ := List.mem_map.mp hmem
  have hne := List.lookup_eq_none_iff.mp hfresh entry hentry
  simp [heq] at hne

end Polyglot
