/-
# Which rule files are accepted

An entry is a table with five keys that mean something; which values they need is said here
of what stands in the table.  A rule file is accepted exactly if every table under `rules`
is an entry, whether or not it has a pattern: all entries are read before any is skipped.

The keys of tables that are read are distinct, so what stands in a table is what is found
there, and keys that mean nothing cannot hide one that does.
-/

import Mathlib.Data.List.Forall2
import Polyglot.Proofs.Toml.Keys
import Polyglot.RuleFile

namespace Polyglot

namespace RuleEntry

/-- The keys of entries. -/
def keys : List String := ["language", "pattern", "regex", "points", "near_top"]

/-- Tables that are entries: a text for the language and an integer of 32 bits for the points
have to be there, and the other three keys hold values of their kinds if they are there. -/
structure IsEntry (table : List (String × Toml)) : Prop where
  /-- The language is a text. -/
  language : ∃ text, ("language", .string text) ∈ table
  /-- The pattern is a text. -/
  pattern : ∀ value, ("pattern", value) ∈ table → ∃ text, value = .string text
  /-- The other pattern is a text. -/
  regex : ∀ value, ("regex", value) ∈ table → ∃ text, value = .string text
  /-- The points fit. -/
  points : ∃ n : Int, ("points", .integer n) ∈ table ∧ -0x80000000 ≤ n ∧ n ≤ 0x7fffffff
  /-- The mark is a truth value. -/
  nearTop : ∀ value, ("near_top", value) ∈ table → ∃ b, value = .boolean b

/-- Two tables differ at most in keys that mean nothing. -/
def Agree (table other : List (String × Toml)) : Prop :=
  ∀ key ∈ keys, ∀ value, (key, value) ∈ table ↔ (key, value) ∈ other

variable {table other : List (String × Toml)} {key : String}

/-! ## One value -/

theorem isSome_text?_iff {value : Toml} :
    (text? value).isSome = true ↔ ∃ text, value = .string text := by
  cases value <;> simp [text?]

theorem isSome_bool?_iff {value : Toml} :
    (bool? value).isSome = true ↔ ∃ b, value = .boolean b := by
  cases value <;> simp [bool?]

theorem isSome_points?_iff {value : Toml} :
    (points? value).isSome = true ↔
      ∃ n : Int, value = .integer n ∧ -0x80000000 ≤ n ∧ n ≤ 0x7fffffff := by
  cases value with
  | integer n =>
      simp [points?]
      omega
  | _ => simp [points?]

/-! ## One table -/

/-- A value that has to be there. -/
theorem isSome_find?_bind_iff {α : Type} (hkeys : KeysDistinct table)
    {read : Toml → Option α} :
    ((Toml.find? table key).bind read).isSome = true ↔
      ∃ value, (key, value) ∈ table ∧ (read value).isSome = true := by
  simp only [Option.isSome_iff_exists, Option.bind_eq_some_iff, Toml.find?,
    lookup_eq_some_iff_mem hkeys]
  constructor
  · rintro ⟨result, value, hmem, hread⟩
    exact ⟨value, hmem, result, hread⟩
  · rintro ⟨value, hmem, result, hread⟩
    exact ⟨result, value, hmem, hread⟩

/-- A value that may be missing. -/
theorem isSome_optional?_iff {α : Type} (hkeys : KeysDistinct table)
    {read : Toml → Option α} :
    (optional? read (Toml.find? table key)).isSome = true ↔
      ∀ value, (key, value) ∈ table → (read value).isSome = true := by
  simp only [← lookup_eq_some_iff_mem hkeys, Toml.find?]
  cases table.lookup key with
  | none => simp [optional?]
  | some value => simp [optional?]

/-- A table is read exactly if it is an entry. -/
theorem isSome_ofTable?_iff (hkeys : KeysDistinct table) :
    (ofTable? table).isSome = true ↔ IsEntry table := by
  have hparts : (ofTable? table).isSome = true ↔
      ((Toml.find? table "language").bind text?).isSome = true ∧
      (optional? text? (Toml.find? table "pattern")).isSome = true ∧
      (optional? text? (Toml.find? table "regex")).isSome = true ∧
      ((Toml.find? table "points").bind points?).isSome = true ∧
      (optional? bool? (Toml.find? table "near_top")).isSome = true := by
    simp only [Option.isSome_iff_exists, ofTable?, Option.bind_eq_bind, Option.bind_eq_some_iff]
    constructor
    · rintro ⟨_, language, hlanguage, pattern, hpattern, regex, hregex, points, hpoints,
        nearTop, hnearTop, _⟩
      exact ⟨⟨language, hlanguage⟩, ⟨pattern, hpattern⟩, ⟨regex, hregex⟩, ⟨points, hpoints⟩,
        ⟨nearTop, hnearTop⟩⟩
    · rintro ⟨⟨language, hlanguage⟩, ⟨pattern, hpattern⟩, ⟨regex, hregex⟩, ⟨points, hpoints⟩,
        ⟨nearTop, hnearTop⟩⟩
      exact ⟨_, language, hlanguage, pattern, hpattern, regex, hregex, points, hpoints,
        nearTop, hnearTop, rfl⟩
  rw [hparts]
  simp only [isSome_find?_bind_iff hkeys, isSome_optional?_iff hkeys, isSome_text?_iff,
    isSome_points?_iff, isSome_bool?_iff]
  constructor
  · rintro ⟨⟨_, hlanguage, text, rfl⟩, hpattern, hregex, ⟨_, hpoints, n, rfl, hbounds⟩, hnearTop⟩
    exact ⟨⟨text, hlanguage⟩, hpattern, hregex, ⟨n, hpoints, hbounds⟩, hnearTop⟩
  · rintro ⟨⟨text, hlanguage⟩, hpattern, hregex, ⟨n, hpoints, hbounds⟩, hnearTop⟩
    exact ⟨⟨_, hlanguage, text, rfl⟩, hpattern, hregex, ⟨_, hpoints, n, rfl, hbounds⟩, hnearTop⟩

theorem Agree.find?_eq (agree : Agree table other) (hkeys : KeysDistinct table)
    (hkeysOther : KeysDistinct other) (hkey : key ∈ keys) :
    Toml.find? table key = Toml.find? other key := by
  ext value
  rw [Toml.find?, Toml.find?, lookup_eq_some_iff_mem hkeys,
    lookup_eq_some_iff_mem hkeysOther]
  exact agree key hkey value

/-- Other keys do not change what is read. -/
theorem Agree.ofTable?_eq (agree : Agree table other) (hkeys : KeysDistinct table)
    (hkeysOther : KeysDistinct other) : ofTable? table = ofTable? other := by
  have hfind : ∀ key ∈ keys, Toml.find? table key = Toml.find? other key :=
    fun key hkey => agree.find?_eq hkeys hkeysOther hkey
  simp only [keys, List.forall_mem_cons] at hfind
  obtain ⟨hlanguage, hpattern, hregex, hpoints, hnearTop, -⟩ := hfind
  rw [ofTable?, ofTable?, hlanguage, hpattern, hregex, hpoints, hnearTop]

end RuleEntry

namespace RuleFile

/-- The tables of entries in a document: those of the array under `rules`, or none if that
key is absent. -/
inductive HasTables (document : List (String × Toml)) : List (List (String × Toml)) → Prop
  | absent (habsent : ∀ value, ("rules", value) ∉ document) : HasTables document []
  | listed {tables : List (List (String × Toml))}
      (hrules : ("rules", .array (tables.map .table)) ∈ document) : HasTables document tables

variable {text : List Char} {document : List (String × Toml)}
  {tables : List (List (String × Toml))}

theorem HasTables.entriesOf?_eq (hasTables : HasTables document tables)
    (hkeys : KeysDistinct document) :
    entriesOf? document = tables.mapM RuleEntry.ofTable? := by
  cases hasTables with
  | absent habsent =>
      have hfind : Toml.find? document "rules" = none := by
        rw [Option.eq_none_iff_forall_ne_some]
        exact fun value hvalue => habsent value ((lookup_eq_some_iff_mem hkeys).mp hvalue)
      rw [entriesOf?, hfind]
      rfl
  | listed hrules =>
      have hfind : Toml.find? document "rules" = some (.array (tables.map .table)) :=
        (lookup_eq_some_iff_mem hkeys).mpr hrules
      rw [entriesOf?, hfind]
      exact List.mapM_map

/-- The tables of entries have distinct keys. -/
theorem HasTables.keysDistinct (hasTables : HasTables document tables)
    (wellKeyed : (Toml.table document).WellKeyed) :
    ∀ table ∈ tables, KeysDistinct table := by
  cases hasTables with
  | absent => nofun
  | listed hrules =>
      cases wellKeyed with
      | table _ hvalues =>
          cases hvalues _ hrules with
          | array hitems =>
              intro table hmem
              cases hitems _ (List.mem_map_of_mem hmem) with
              | table hkeys _ => exact hkeys

theorem isSome_mapM_iff {α β : Type} {read : α → Option β} {items : List α} :
    (items.mapM read).isSome = true ↔ ∀ item ∈ items, (read item).isSome = true := by
  induction items with
  | nil => simp
  | cons item items ih =>
      rw [List.forall_mem_cons, ← ih, List.mapM_cons]
      cases read item <;> cases items.mapM read <;> simp

/-- Other keys do not change what is read of many tables. -/
theorem mapM_ofTable?_eq {others : List (List (String × Toml))}
    (agree : List.Forall₂ RuleEntry.Agree tables others)
    (hkeys : ∀ table ∈ tables, KeysDistinct table)
    (hkeysOthers : ∀ other ∈ others, KeysDistinct other) :
    others.mapM RuleEntry.ofTable? = tables.mapM RuleEntry.ofTable? := by
  induction agree with
  | nil => rfl
  | cons hfirst _ ih =>
      obtain ⟨hkey, hkeys⟩ := List.forall_mem_cons.mp hkeys
      obtain ⟨hkeyOther, hkeysOthers⟩ := List.forall_mem_cons.mp hkeysOthers
      rw [List.mapM_cons, List.mapM_cons, hfirst.ofTable?_eq hkey hkeyOther, ih hkeys hkeysOthers]

/-- All tables are read before any entry is skipped. -/
theorem HasTables.ofText?_eq (hasTables : HasTables document tables)
    (read : Toml.ofText? text = some document) :
    ofText? text = (tables.mapM RuleEntry.ofTable?).map group := by
  cases Toml.wellKeyed_of_ofText? read with
  | table hkeys _ => rw [ofText?, entries?, read, Option.bind_some, hasTables.entriesOf?_eq hkeys]

/-- A rule file is accepted exactly if every table under `rules` is an entry.  Other keys, in
the tables and beside `rules`, do not change what is read. -/
theorem isSome_ofText?_iff_forall_isEntry (read : Toml.ofText? text = some document)
    (hasTables : HasTables document tables) :
    ((ofText? text).isSome = true ↔ ∀ table ∈ tables, RuleEntry.IsEntry table) ∧
    ∀ other otherDocument otherTables, Toml.ofText? other = some otherDocument →
      HasTables otherDocument otherTables → List.Forall₂ RuleEntry.Agree tables otherTables →
      ofText? other = ofText? text := by
  have hkeys := hasTables.keysDistinct (Toml.wellKeyed_of_ofText? read)
  rw [hasTables.ofText?_eq read, Option.isSome_map, isSome_mapM_iff]
  constructor
  · exact forall₂_congr fun table hmem => RuleEntry.isSome_ofTable?_iff (hkeys table hmem)
  · intro other otherDocument otherTables readOther hasOther agree
    have hkeysOther := hasOther.keysDistinct (Toml.wellKeyed_of_ofText? readOther)
    rw [hasOther.ofText?_eq readOther, mapM_ofTable?_eq agree hkeys hkeysOther]

/-- Points that do not fit make a file unreadable where the entry would be skipped, and what
stands under other keys does not matter. -/
theorem ofText?_of_skipped_entries :
    ofText? "rules=[\x7blanguage='a',points=2147483648\x7d]".toList = none ∧
      (ofText? "rules=[\x7blanguage='a',points=7\x7d]".toList).isSome = true ∧
      ofText? "n=[1]\nrules=[\x7bpoints=7,x.y=\x7b\x7d,language='a'\x7d]".toList =
        ofText? "rules=[\x7blanguage='a',points=7\x7d]".toList := by
  let large : List (String × Toml) := [("language", .string "a"), ("points", .integer 2147483648)]
  let plain : List (String × Toml) := [("language", .string "a"), ("points", .integer 7)]
  let extended : List (String × Toml) :=
    [("points", .integer 7), ("x", .table [("y", .table [])]), ("language", .string "a")]
  have readLarge : Toml.ofText? "rules=[\x7blanguage='a',points=2147483648\x7d]".toList =
      some [("rules", .array ([large].map .table))] := by
    simp only [String.reduceToList]
    rfl
  have readPlain : Toml.ofText? "rules=[\x7blanguage='a',points=7\x7d]".toList =
      some [("rules", .array ([plain].map .table))] := by
    simp only [String.reduceToList]
    rfl
  have readExtended :
      Toml.ofText? "n=[1]\nrules=[\x7bpoints=7,x.y=\x7b\x7d,language='a'\x7d]".toList =
        some [("n", .array [.integer 1]), ("rules", .array ([extended].map .table))] := by
    simp only [String.reduceToList]
    rfl
  obtain ⟨acceptsLarge, -⟩ :=
    isSome_ofText?_iff_forall_isEntry readLarge (.listed List.mem_cons_self)
  obtain ⟨acceptsPlain, same⟩ :=
    isSome_ofText?_iff_forall_isEntry readPlain (.listed List.mem_cons_self)
  refine ⟨?_, acceptsPlain.mpr ?_, same _ _ [extended] readExtended (.listed (by simp)) ?_⟩
  · rw [← Option.not_isSome_iff_eq_none, acceptsLarge, List.forall_mem_singleton]
    rintro ⟨_, _, _, ⟨n, hmem, _, hle⟩, _⟩
    have hpoints : n = 2147483648 := by simpa [large] using hmem
    omega
  · rw [List.forall_mem_singleton]
    exact ⟨⟨"a", by simp [plain]⟩, by simp [plain], by simp [plain],
      ⟨7, by simp [plain], by decide, by decide⟩, by simp [plain]⟩
  · simp [RuleEntry.Agree, RuleEntry.keys, plain, extended]

end RuleFile

end Polyglot
