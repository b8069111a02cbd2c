/-
# Distinct keys

A document that is read never gives a key of a table two values, in any table at any depth.
Headers and dotted keys change a growing table from inside, so the invariant is carried
through the tree: what a statement does at the end of its path keeps the keys distinct, and
then so does putting the changed table back under its key, all the way up.
-/

import Mathlib.Data.Option.Basic
import Polyglot.Proofs.Entries
import Polyglot.Toml.Parser

namespace Polyglot

namespace Toml

/-- The keys of every table in a value are distinct. -/
inductive WellKeyed : Toml → Prop
  | string (text : String) : WellKeyed (.string text)
  | integer (n : Int) : WellKeyed (.integer n)
  | float (literal : List Char) : WellKeyed (.float literal)
  | boolean (b : Bool) : WellKeyed (.boolean b)
  | datetime (literal : List Char) : WellKeyed (.datetime literal)
  | array {items : List Toml} (hitems : ∀ item ∈ items, WellKeyed item) :
      WellKeyed (.array items)
  | table {entries : List (String × Toml)} (hkeys : KeysDistinct entries)
      (hvalues : ∀ entry ∈ entries, WellKeyed entry.2) : WellKeyed (.table entries)

/-- The same of what still grows. -/
inductive Item.WellKeyed : Item → Prop
  | value {v : Toml} (hvalue : v.WellKeyed) : Item.WellKeyed (.value v)
  | table {origin : Origin} {entries : List (String × Item)} (hkeys : KeysDistinct entries)
      (hitems : ∀ entry ∈ entries, Item.WellKeyed entry.2) : Item.WellKeyed (.table origin entries)
  | tables {elements : List (List (String × Item))}
      (hkeys : ∀ entries ∈ elements, KeysDistinct entries)
      (hitems : ∀ entries ∈ elements, ∀ entry ∈ entries, Item.WellKeyed entry.2) :
      Item.WellKeyed (.tables elements)

/-- The entries of a table that grows: distinct keys, here and in every table inside. -/
structure AreWellKeyed (entries : List (String × Item)) : Prop where
  /-- The keys are distinct. -/
  keys : KeysDistinct entries
  /-- The keys inside are. -/
  items : ∀ entry ∈ entries, entry.2.WellKeyed

variable {origin : Origin} {entries : List (String × Item)}
  {elements : List (List (String × Item))} {key : String} {item : Item}

theorem AreWellKeyed.nil : AreWellKeyed [] := ⟨List.nodup_nil, nofun⟩

theorem wellKeyed_table_iff : (Item.table origin entries).WellKeyed ↔ AreWellKeyed entries := by
  constructor
  · rintro ⟨⟩
    exact ⟨‹_›, ‹_›⟩
  · exact fun wellKeyed => .table wellKeyed.keys wellKeyed.items

theorem wellKeyed_tables_iff :
    (Item.tables elements).WellKeyed ↔ ∀ entries ∈ elements, AreWellKeyed entries := by
  constructor
  · intro wellKeyed entries hmem
    cases wellKeyed with
    | tables hkeys hitems => exact ⟨hkeys entries hmem, hitems entries hmem⟩
  · intro wellKeyed
    exact .tables (fun entries hmem => (wellKeyed entries hmem).keys)
      fun entries hmem => (wellKeyed entries hmem).items

/-! ## Putting -/

theorem mem_of_mem_put {entry : String × Item} (hmem : entry ∈ Table.put entries key item) :
    entry = (key, item) ∨ entry ∈ entries := by
  induction entries with
  | nil => exact Or.inl (List.mem_singleton.mp hmem)
  | cons first rest ih =>
      obtain ⟨other, old⟩ := first
      unfold Table.put at hmem
      split at hmem
      · rename_i heq
        rw [heq] at hmem
        rcases List.mem_cons.mp hmem with rfl | hmem
        · exact Or.inl rfl
        · exact Or.inr (List.mem_cons_of_mem _ hmem)
      · rcases List.mem_cons.mp hmem with rfl | hmem
        · exact Or.inr List.mem_cons_self
        · exact (ih hmem).imp_right (List.mem_cons_of_mem _)

theorem keysDistinct_put (hkeys : KeysDistinct entries) (key : String) (item : Item) :
    KeysDistinct (Table.put entries key item) := by
  induction entries with
  | nil => exact List.nodup_singleton key
  | cons first rest ih =>
      obtain ⟨other, old⟩ := first
      unfold Table.put
      split
      · exact hkeys
      · rename_i hne
        obtain ⟨hnew, hkeys⟩ := List.nodup_cons.mp hkeys
        refine List.nodup_cons.mpr ⟨fun hmem => ?_, ih hkeys⟩
        obtain ⟨entry, hentry, heq⟩ := List.mem_map.mp hmem
        rcases mem_of_mem_put hentry with rfl | hrest
        · exact hne heq.symm
        · exact hnew (List.mem_map.mpr ⟨entry, hrest, heq⟩)

theorem AreWellKeyed.put (wellKeyed : AreWellKeyed entries) (hitem : item.WellKeyed) :
    AreWellKeyed (Table.put entries key item) := by
  refine ⟨keysDistinct_put wellKeyed.keys key item, fun entry hmem => ?_⟩
  rcases mem_of_mem_put hmem with rfl | hmem
  · exact hitem
  · exact wellKeyed.items entry hmem

/-- A new key goes to the end. -/
theorem AreWellKeyed.concat (wellKeyed : AreWellKeyed entries)
    (hfresh : entries.lookup key = none) (hitem : item.WellKeyed) :
    AreWellKeyed (entries ++ [(key, item)]) :=
  ⟨wellKeyed.keys.concat hfresh item,
    List.forall_mem_append.mpr ⟨wellKeyed.items, List.forall_mem_singleton.mpr hitem⟩⟩

theorem AreWellKeyed.of_lookup (wellKeyed : AreWellKeyed entries)
    (hfound : entries.lookup key = some item) : item.WellKeyed :=
  wellKeyed.items _ (mem_of_lookup_eq_some hfound)

/-! ## Statements -/

/-- A change keeps the keys distinct. -/
def Keeps (change : Table → Option Table) : Prop :=
  ∀ before after, AreWellKeyed before.entries → change before = some after →
    AreWellKeyed after.entries

/-- A change at the end of a path keeps the keys distinct if it does so there. -/
theorem Keeps.update? {change : Table → Option Table} (keeps : Keeps change) (origin : Origin)
    (path : List String) : Keeps (Table.update? origin change path) := by
  induction path with
  | nil => exact keeps
  | cons key path ih =>
      intro before after wellKeyed hafter
      rw [Table.update?] at hafter
      split at hafter
      case h_1 =>
        obtain ⟨inner, hinner, heq⟩ := Option.bind_eq_some_iff.mp hafter
        cases heq
        exact wellKeyed.put (wellKeyed_table_iff.mpr (ih _ _ .nil hinner))
      case h_2 => contradiction
      case h_3 found entries hfound =>
        split at hafter
        · contradiction
        · obtain ⟨inner, hinner, heq⟩ := Option.bind_eq_some_iff.mp hafter
          cases heq
          have hbefore := wellKeyed_table_iff.mp (wellKeyed.of_lookup hfound)
          exact wellKeyed.put (wellKeyed_table_iff.mpr (ih _ _ hbefore hinner))
      case h_4 elements hfound =>
        split at hafter
        · contradiction
        · rename_i last hlast
          obtain ⟨inner, hinner, heq⟩ := Option.bind_eq_some_iff.mp hafter
          cases heq
          have hbefore := wellKeyed_tables_iff.mp (wellKeyed.of_lookup hfound)
          have hinside := ih ⟨.named, last⟩ _ (hbefore last (List.mem_of_getLast? hlast)) hinner
          refine wellKeyed.put (wellKeyed_tables_iff.mpr (List.forall_mem_append.mpr ⟨?_, ?_⟩))
          · exact fun others hmem => hbefore others (List.dropLast_subset _ hmem)
          · exact List.forall_mem_singleton.mpr hinside

theorem keeps_define? {value : Toml} (hvalue : value.WellKeyed) (path : List String)
    (key : String) : Keeps (Table.define? path key value) := by
  apply Keeps.update?
  intro before after wellKeyed hafter
  dsimp only at hafter
  split at hafter
  · contradiction
  · split at hafter
    · contradiction
    · rename_i hfresh
      cases hafter
      exact wellKeyed.concat (Option.not_isSome_iff_eq_none.mp hfresh) (.value hvalue)

theorem keeps_begin? (key : String) : Keeps (Table.begin? key) := by
  intro before after wellKeyed hafter
  unfold Table.begin? at hafter
  split at hafter
  case h_1 hfresh =>
    cases hafter
    exact wellKeyed.concat hfresh (wellKeyed_table_iff.mpr .nil)
  case h_2 entries hfound =>
    cases hafter
    have hbefore := wellKeyed_table_iff.mp (wellKeyed.of_lookup hfound)
    exact wellKeyed.put (wellKeyed_table_iff.mpr hbefore)
  case h_3 => contradiction

theorem keeps_beginElement? (key : String) : Keeps (Table.beginElement? key) := by
  intro before after wellKeyed hafter
  have hnew : ∀ entries ∈ [([] : List (String × Item))], AreWellKeyed entries :=
    List.forall_mem_singleton.mpr .nil
  unfold Table.beginElement? at hafter
  split at hafter
  case h_1 hfresh =>
    cases hafter
    exact wellKeyed.concat hfresh (wellKeyed_tables_iff.mpr hnew)
  case h_2 elements hfound =>
    cases hafter
    have hbefore := wellKeyed_tables_iff.mp (wellKeyed.of_lookup hfound)
    exact wellKeyed.put (wellKeyed_tables_iff.mpr (List.forall_mem_append.mpr ⟨hbefore, hnew⟩))
  case h_3 => contradiction

/-- The value that a statement gives, if it gives one, has distinct keys. -/
def Statement.IsWellKeyed : Statement → Prop
  | .define _ _ value => value.WellKeyed
  | .table _ _ => True
  | .element _ _ => True

/-- A statement keeps the keys of the document distinct. -/
theorem Growing.areWellKeyed_of_add? {state next : Growing} {statement : Statement}
    (hvalue : statement.IsWellKeyed) (wellKeyed : AreWellKeyed state.document.entries)
    (hnext : state.add? statement = some next) : AreWellKeyed next.document.entries := by
  cases statement with
  | define path key value =>
      obtain ⟨document, hdocument, rfl⟩ := Option.map_eq_some_iff.mp hnext
      exact (keeps_define? hvalue path key).update? _ _ _ _ wellKeyed hdocument
  | table path key =>
      obtain ⟨document, hdocument, rfl⟩ := Option.map_eq_some_iff.mp hnext
      exact (keeps_begin? key).update? _ _ _ _ wellKeyed hdocument
  | element path key =>
      obtain ⟨document, hdocument, rfl⟩ := Option.map_eq_some_iff.mp hnext
      exact (keeps_beginElement? key).update? _ _ _ _ wellKeyed hdocument

/-! ## Finished tables -/

theorem finishEntries_eq_map (entries : List (String × Item)) :
    Item.finishEntries entries = entries.map fun entry => (entry.1, entry.2.finish) := by
  induction entries with
  | nil => rfl
  | cons entry entries ih => rw [Item.finishEntries, ih, List.map_cons]

theorem finishElements_eq_map (elements : List (List (String × Item))) :
    Item.finishElements elements =
      elements.map fun entries => .table (Item.finishEntries entries) := by
  induction elements with
  | nil => rfl
  | cons entries elements ih => rw [Item.finishElements, ih, List.map_cons]

theorem keysDistinct_finishEntries (hkeys : KeysDistinct entries) :
    KeysDistinct (Item.finishEntries entries) := by
  rwa [KeysDistinct, finishEntries_eq_map, List.map_map]

/-- The keys of a finished table are those of the growing one. -/
theorem wellKeyed_finishEntries (hkeys : KeysDistinct entries)
    (hvalues : ∀ entry ∈ entries, entry.2.finish.WellKeyed) :
    (Toml.table (Item.finishEntries entries)).WellKeyed := by
  refine .table (keysDistinct_finishEntries hkeys) ?_
  rw [finishEntries_eq_map]
  exact List.forall_mem_map.mpr hvalues

theorem Item.WellKeyed.finish (wellKeyed : item.WellKeyed) : item.finish.WellKeyed := by
  induction wellKeyed with
  | value hvalue => exact hvalue
  | table hkeys _ ih => exact wellKeyed_finishEntries hkeys ih
  | tables hkeys _ ih =>
      rw [Item.finish, finishElements_eq_map]
      exact .array (List.forall_mem_map.mpr fun entries hmem =>
        wellKeyed_finishEntries (hkeys entries hmem) (ih entries hmem))

theorem AreWellKeyed.finish {grown : Table} (wellKeyed : AreWellKeyed grown.entries) :
    (Toml.table grown.finish).WellKeyed :=
  wellKeyed_finishEntries wellKeyed.keys fun entry hmem => (wellKeyed.items entry hmem).finish

/-- An inline table has distinct keys. -/
theorem wellKeyed_of_inlineTable? {pairs : List (List String × String × Toml)} {value : Toml}
    (hvalues : ∀ pair ∈ pairs, pair.2.2.WellKeyed) (hvalue : inlineTable? pairs = some value) :
    value.WellKeyed := by
  obtain ⟨grown, hgrown, rfl⟩ := Option.map_eq_some_iff.mp hvalue
  suffices hrun : ∀ before : Table, AreWellKeyed before.entries →
      pairs.foldlM (fun grown pair => Table.define? pair.1 pair.2.1 pair.2.2 grown) before =
        some grown → AreWellKeyed grown.entries from (hrun _ .nil hgrown).finish
  clear hvalue hgrown
  induction pairs with
  | nil =>
      intro before wellKeyed heq
      cases heq
      exact wellKeyed
  | cons pair pairs ih =>
      obtain ⟨hpair, hpairs⟩ := List.forall_mem_cons.mp hvalues
      intro before wellKeyed hrun
      rw [List.foldlM_cons] at hrun
      obtain ⟨next, hnext, hrest⟩ := Option.bind_eq_some_iff.mp hrun
      exact ih hpairs next (keeps_define? hpair _ _ before next wellKeyed hnext) hrest

/-! ## Reading -/

theorem wellKeyed_of_bounded? {n : Int} {value : Toml} (read : bounded? n = some value) :
    value.WellKeyed := by
  unfold bounded? at read
  split at read
  · cases read
    exact .integer n
  · contradiction

theorem wellKeyed_of_basedInteger? {base : Nat} {text rest : List Char} {value : Toml}
    (read : basedInteger? base text = some (value, rest)) : value.WellKeyed := by
  obtain ⟨_, _, hbound⟩ := Option.bind_eq_some_iff.mp read
  obtain ⟨_, hvalue, heq⟩ := Option.bind_eq_some_iff.mp hbound
  cases heq
  exact wellKeyed_of_bounded? hvalue

theorem wellKeyed_of_integer? {text rest : List Char} {value : Toml}
    (read : integer? text = some (value, rest)) : value.WellKeyed := by
  unfold integer? at read
  split at read
  case h_4 =>
    obtain ⟨_, _, hbound⟩ := Option.bind_eq_some_iff.mp read
    obtain ⟨_, hvalue, heq⟩ := Option.bind_eq_some_iff.mp hbound
    cases heq
    exact wellKeyed_of_bounded? hvalue
  all_goals exact wellKeyed_of_basedInteger? read

theorem wellKeyed_of_datetime? {text rest : List Char} {value : Toml}
    (read : datetime? text = some (value, rest)) : value.WellKeyed := by
  unfold datetime? at read
  split at read
  · cases read
    exact .datetime _
  · obtain ⟨_, _, heq⟩ := Option.map_eq_some_iff.mp read
    cases heq
    exact .datetime _

theorem wellKeyed_of_decimalFloat? {text rest : List Char} {value : Toml}
    (read : decimalFloat? text = some (value, rest)) : value.WellKeyed := by
  unfold decimalFloat? at read
  generalize sign text = signed at read
  obtain ⟨_, _, hplaces⟩ := Option.bind_eq_some_iff.mp read
  obtain ⟨_, _, hexponent⟩ := Option.bind_eq_some_iff.mp hplaces
  obtain ⟨_, _, hchecked⟩ := Option.bind_eq_some_iff.mp hexponent
  dsimp only at hchecked
  split at hchecked
  · contradiction
  split at hchecked
  · contradiction
  · cases hchecked
    exact .float _

theorem wellKeyed_of_specialFloat? {text rest : List Char} {value : Toml}
    (read : specialFloat? text = some (value, rest)) : value.WellKeyed := by
  unfold specialFloat? at read
  split at read
  case h_3 => contradiction
  all_goals
    cases read
    exact .float _

theorem wellKeyed_of_numeric? {text rest : List Char} {value : Toml}
    (read : numeric? text = some (value, rest)) : value.WellKeyed := by
  simp only [numeric?, Option.orElse_eq_or, Option.or_eq_some_iff] at read
  rcases read with hdatetime | ⟨_, hfloat | ⟨_, hspecial | ⟨_, hinteger⟩⟩⟩
  · exact wellKeyed_of_datetime? hdatetime
  · exact wellKeyed_of_decimalFloat? hfloat
  · exact wellKeyed_of_specialFloat? hspecial
  · exact wellKeyed_of_integer? hinteger

theorem wellKeyed_of_boolean? {text rest : List Char} {value : Toml}
    (read : boolean? text = some (value, rest)) : value.WellKeyed := by
  unfold boolean? at read
  split at read <;> cases read <;> exact .boolean _

/-- What the readers of values, items and pairs answer within a number of steps has distinct
keys. -/
structure ReadsWellKeyed (steps : Nat) : Prop where
  /-- Of a value. -/
  value : ∀ {depth : Nat} {text : List Char} {value : Toml} {rest : List Char},
    value? steps depth text = some (value, rest) → value.WellKeyed
  /-- Of items. -/
  items : ∀ {depth : Nat} {text : List Char} {items : List Toml} {rest : List Char},
    items? steps depth text = some (items, rest) → ∀ item ∈ items, item.WellKeyed
  /-- Of pairs. -/
  pairs : ∀ {depth : Nat} {text : List Char} {pairs : List (List String × String × Toml)}
    {rest : List Char}, pairs? steps depth text = some (pairs, rest) →
      ∀ pair ∈ pairs, pair.2.2.WellKeyed

theorem ReadsWellKeyed.value?_succ {steps : Nat} (reads : ReadsWellKeyed steps) {depth : Nat}
    {text : List Char} {value : Toml} {rest : List Char}
    (read : value? (steps + 1) depth text = some (value, rest)) : value.WellKeyed := by
  unfold value? at read
  split at read
  case h_1 => contradiction
  case h_2 =>
    split at read
    · contradiction
    · obtain ⟨⟨items, _⟩, hitems, heq⟩ := Option.map_eq_some_iff.mp read
      cases heq
      exact .array (reads.items hitems)
  case h_3 =>
    split at read
    · contradiction
    · split at read
      · cases read
        exact .table List.nodup_nil nofun
      · split at read
        case h_1 => contradiction
        case h_2 _ pairs behind hpairs =>
          obtain ⟨table, htable, heq⟩ := Option.map_eq_some_iff.mp read
          cases heq
          exact wellKeyed_of_inlineTable? (reads.pairs hpairs) htable
  case h_4 =>
    split at read
    · obtain ⟨⟨content, _⟩, _, heq⟩ := Option.map_eq_some_iff.mp read
      cases heq
      exact .string _
    · split at read
      · exact wellKeyed_of_boolean? read
      · exact wellKeyed_of_numeric? read

theorem ReadsWellKeyed.items?_succ {steps : Nat} (reads : ReadsWellKeyed steps) {depth : Nat}
    {text : List Char} {items : List Toml} {rest : List Char}
    (read : items? (steps + 1) depth text = some (items, rest)) :
    ∀ item ∈ items, item.WellKeyed := by
  rw [items?] at read
  split at read
  case h_1 => contradiction
  case h_2 =>
    cases read
    nofun
  case h_3 =>
    split at read
    case h_1 => contradiction
    case h_2 _ item behind hitem =>
      have hfirst := reads.value hitem
      split at read
      case h_1 =>
        cases read
        exact List.forall_mem_singleton.mpr hfirst
      case h_2 =>
        obtain ⟨⟨others, _⟩, hothers, heq⟩ := Option.map_eq_some_iff.mp read
        cases heq
        exact List.forall_mem_cons.mpr ⟨hfirst, reads.items hothers⟩
      case h_3 => contradiction

theorem ReadsWellKeyed.pairs?_succ {steps : Nat} (reads : ReadsWellKeyed steps) {depth : Nat}
    {text : List Char} {pairs : List (List String × String × Toml)} {rest : List Char}
    (read : pairs? (steps + 1) depth text = some (pairs, rest)) :
    ∀ pair ∈ pairs, pair.2.2.WellKeyed := by
  rw [pairs?] at read
  split at read
  case h_2 => contradiction
  case h_1 =>
    split at read
    case h_1 => contradiction
    case h_2 _ value behind hvalue =>
      have hfirst := reads.value hvalue
      split at read
      case h_1 =>
        cases read
        exact List.forall_mem_singleton.mpr hfirst
      case h_2 =>
        obtain ⟨⟨others, _⟩, hothers, heq⟩ := Option.map_eq_some_iff.mp read
        cases heq
        exact List.forall_mem_cons.mpr ⟨hfirst, reads.pairs hothers⟩
      case h_3 => contradiction

theorem readsWellKeyed (steps : Nat) : ReadsWellKeyed steps := by
  induction steps with
  | zero => exact ⟨nofun, nofun, nofun⟩
  | succ steps ih => exact ⟨ih.value?_succ, ih.items?_succ, ih.pairs?_succ⟩

theorem isWellKeyed_of_statement? {text rest : List Char} {statement : Statement}
    (read : statement? text = some (statement, rest)) : statement.IsWellKeyed := by
  unfold statement? at read
  split at read
  · split at read
    · cases read
      trivial
    · contradiction
  · split at read
    · cases read
      trivial
    · contradiction
  · split at read
    · obtain ⟨⟨value, _⟩, hvalue, heq⟩ := Option.map_eq_some_iff.mp read
      cases heq
      exact (readsWellKeyed _).value hvalue
    · contradiction

/-- Reading statements keeps the keys of the document distinct. -/
theorem areWellKeyed_of_statements? {steps : Nat} {state final : Growing} {text : List Char}
    (wellKeyed : AreWellKeyed state.document.entries)
    (read : statements? steps state text = some final) :
    AreWellKeyed final.document.entries := by
  induction steps generalizing state text with
  | zero => contradiction
  | succ steps ih =>
      rw [statements?] at read
      split at read
      · cases read
        exact wellKeyed
      · split at read
        · exact ih wellKeyed read
        · split at read
          · contradiction
          · rename_i statement behind hstatement
            split at read
            · rename_i next _ hnext _
              exact ih (Growing.areWellKeyed_of_add? (isWellKeyed_of_statement? hstatement)
                wellKeyed hnext) read
            · contradiction

/-- A document that is read has distinct keys, in every table. -/
theorem wellKeyed_of_ofText? {text : List Char} {document : List (String × Toml)}
    (read : ofText? text = some document) : (Toml.table document).WellKeyed := by
  obtain ⟨state, hstate, rfl⟩ := Option.map_eq_some_iff.mp read
  exact (areWellKeyed_of_statements? .nil hstate).finish

end Toml

end Polyglot
