/-
# Options in an object

Two names of an object mean something.  Each may stand there once, with a truth value;
whatever stands under other names is read and forgotten.  A member only sees what the
members in front of it have given, so the members are followed one by one, and in the end
the values under each of the two names decide.
-/

import Mathlib.Data.List.Perm.Basic
import Polyglot.Options
import Polyglot.Proofs.Json.Recognition

namespace Polyglot

namespace DetectOptions

variable {given result : Given} {member : List JsonUnit × Json}
  {members others : List (List JsonUnit × Json)} {name : String}

/-! ## The values under a name -/

/-- Whether the name of a member, read as a text, is the given one. -/
def hasName (name : String) (member : List JsonUnit × Json) : Bool :=
  Json.textOf? member.1 == some name

/-- The values of the members with a name, in order. -/
def valuesOf (name : String) (members : List (List JsonUnit × Json)) : List Json :=
  (members.filter (hasName name)).map Prod.snd

/-- Whether the name of a member means something. -/
def isKnown (member : List JsonUnit × Json) : Bool :=
  hasName "heuristic" member || hasName "statistics" member

theorem valuesOf_cons (name : String) (member : List JsonUnit × Json)
    (members : List (List JsonUnit × Json)) :
    valuesOf name (member :: members) = valuesOf name [member] ++ valuesOf name members := by
  rw [valuesOf, valuesOf, valuesOf, ← List.map_append, ← List.filter_append,
    List.singleton_append]

theorem valuesOf_singleton_of_name (hname : Json.textOf? member.1 = some name) :
    valuesOf name [member] = [member.2] := by
  simp [valuesOf, hasName, hname]

theorem valuesOf_singleton_of_ne (hname : Json.textOf? member.1 ≠ some name) :
    valuesOf name [member] = [] := by
  simp [valuesOf, hasName, hname]

/-- Members whose names mean nothing do not change the values under a known name. -/
theorem valuesOf_filter_isKnown (hknown : name = "heuristic" ∨ name = "statistics")
    (members : List (List JsonUnit × Json)) :
    valuesOf name (members.filter isKnown) = valuesOf name members := by
  have hhas : ∀ member, (hasName name member && isKnown member) = hasName name member := by
    intro member
    rcases hknown with rfl | rfl <;> cases hhas : hasName _ member <;> simp [isKnown, hhas]
  rw [valuesOf, valuesOf, List.filter_filter, List.filter_congr fun member _ => hhas member]

/-! ## Taking in the values -/

/-- Take in a value, where none was given before. -/
def take? (before : Option Bool) (value : Json) : Option (Option Bool) :=
  if before.isSome then none else (bool? value).map some

theorem eq_of_bool? {value : Json} {b : Bool} (hvalue : bool? value = some b) :
    value = .bool b := by
  cases value with
  | bool b' => rw [Option.some.inj hvalue]
  | _ => contradiction

/-- Once something is given, nothing more is taken in. -/
theorem foldlM_take?_some {b : Bool} {values : List Json} {after : Option Bool} :
    values.foldlM take? (some b) = some after ↔ values = [] ∧ after = some b := by
  cases values with
  | nil => simp [eq_comm]
  | cons value values => simp [take?]

/-- What values give: one truth value, or nothing if there are none. -/
theorem foldlM_take?_none {values : List Json} {after : Option Bool} :
    values.foldlM take? none = some after ↔
      values = [] ∧ after = none ∨ ∃ b, values = [.bool b] ∧ after = some b := by
  cases values with
  | nil => simp [eq_comm]
  | cons value values =>
      rw [List.foldlM_cons, Option.bind_eq_bind, Option.bind_eq_some_iff]
      constructor
      · rintro ⟨between, htake, hmore⟩
        obtain ⟨b, hvalue, rfl⟩ := Option.map_eq_some_iff.mp htake
        obtain ⟨rfl, rfl⟩ := foldlM_take?_some.mp hmore
        exact Or.inr ⟨b, by rw [eq_of_bool? hvalue], rfl⟩
      · rintro (⟨hnil, _⟩ | ⟨b, hone, rfl⟩)
        · contradiction
        · cases hone
          exact ⟨some b, rfl, rfl⟩

/-- One member: its name decides which of the two it gives. -/
theorem member?_eq_some_iff (hname : (Json.textOf? member.1).isSome = true) :
    given.member? member = some result ↔
      (valuesOf "heuristic" [member]).foldlM take? given.heuristic = some result.heuristic ∧
      (valuesOf "statistics" [member]).foldlM take? given.statistics =
        some result.statistics := by
  obtain ⟨name, hname⟩ := Option.isSome_iff_exists.mp hname
  obtain ⟨heuristic, statistics⟩ := given
  obtain ⟨heuristic', statistics'⟩ := result
  by_cases hheuristic : name = "heuristic"
  · subst hheuristic
    rw [valuesOf_singleton_of_name hname, valuesOf_singleton_of_ne (by simp [hname])]
    cases heuristic <;> cases hvalue : bool? member.2 <;>
      simp [Given.member?, hname, take?, hvalue]
  by_cases hstatistics : name = "statistics"
  · subst hstatistics
    rw [valuesOf_singleton_of_ne (by simp [hname]), valuesOf_singleton_of_name hname]
    cases statistics <;> cases hvalue : bool? member.2 <;>
      simp [Given.member?, hname, take?, hvalue]
  · rw [valuesOf_singleton_of_ne (by simpa [hname]), valuesOf_singleton_of_ne (by simpa [hname])]
    simp [Given.member?, hname, hheuristic, hstatistics]

/-- All members: the values under each of the two names, one after the other. -/
theorem foldlM_member?_eq_some_iff
    (named : ∀ member ∈ members, (Json.textOf? member.1).isSome = true) :
    members.foldlM Given.member? given = some result ↔
      (valuesOf "heuristic" members).foldlM take? given.heuristic = some result.heuristic ∧
      (valuesOf "statistics" members).foldlM take? given.statistics =
        some result.statistics := by
  induction members generalizing given with
  | nil =>
      obtain ⟨heuristic, statistics⟩ := given
      obtain ⟨heuristic', statistics'⟩ := result
      simp [valuesOf]
  | cons member members ih =>
      obtain ⟨hname, named⟩ := List.forall_mem_cons.mp named
      simp only [List.foldlM_cons, valuesOf_cons _ member members, List.foldlM_append,
        Option.bind_eq_bind, Option.bind_eq_some_iff, member?_eq_some_iff hname, ih named]
      constructor
      · rintro ⟨next, ⟨hheuristic, hstatistic⟩, hheuristics, hstatistics⟩
        exact ⟨⟨_, hheuristic, hheuristics⟩, ⟨_, hstatistic, hstatistics⟩⟩
      · rintro ⟨⟨heuristic, hheuristic, hheuristics⟩, statistics, hstatistic, hstatistics⟩
        exact ⟨⟨heuristic, statistics⟩, ⟨hheuristic, hstatistic⟩, hheuristics, hstatistics⟩

/-! ## Reading an object -/

/-- At most one value stands under a name, and it is a truth value. -/
def GivesOnce (name : String) (members : List (List JsonUnit × Json)) : Prop :=
  (valuesOf name members).length ≤ 1 ∧ ∀ value ∈ valuesOf name members, ∃ b, value = .bool b

theorem givesOnce_iff :
    GivesOnce name members ↔ ∃ after, (valuesOf name members).foldlM take? none = some after := by
  unfold GivesOnce
  constructor
  · rintro ⟨hlength, hvalues⟩
    match hvaluesOf : valuesOf name members with
    | [] => exact ⟨none, rfl⟩
    | [value] =>
        obtain ⟨b, rfl⟩ := hvalues value (by rw [hvaluesOf]; exact List.mem_singleton_self value)
        exact ⟨some b, rfl⟩
    | _ :: _ :: _ => simp [hvaluesOf] at hlength
  · rintro ⟨after, hafter⟩
    obtain ⟨hnil, _⟩ | ⟨b, hone, _⟩ := foldlM_take?_none.mp hafter
    · simp [hnil]
    · simp [hone]

/-- The given value, or a standard one, is what the values under the name say. -/
theorem getD_of_foldlM_take? {after : Option Bool} {standard : Bool}
    (hafter : (valuesOf name members).foldlM take? none = some after) :
    (∀ b, .bool b ∈ valuesOf name members → after.getD standard = b) ∧
      (valuesOf name members = [] → after.getD standard = standard) := by
  obtain ⟨hnil, rfl⟩ | ⟨b, hone, rfl⟩ := foldlM_take?_none.mp hafter
  · simp [hnil]
  · simp [hone]

/-- The order of the values under a name does not matter. -/
theorem foldlM_take?_perm {values values' : List Json} (hperm : values.Perm values') :
    values.foldlM take? none = values'.foldlM take? none := by
  ext after
  have hnil : values = [] ↔ values' = [] :=
    ⟨fun h => (h ▸ hperm).nil_eq.symm, fun h => (h ▸ hperm).eq_nil⟩
  have hone : ∀ value, values = [value] ↔ values' = [value] := fun value =>
    ⟨fun h => List.perm_singleton.mp (h ▸ hperm.symm), fun h => List.perm_singleton.mp (h ▸ hperm)⟩
  rw [foldlM_take?_none, foldlM_take?_none, hnil]
  simp only [hone]

theorem valuesOf_perm (hknown : name = "heuristic" ∨ name = "statistics")
    (hperm : (others.filter isKnown).Perm (members.filter isKnown)) :
    (valuesOf name others).Perm (valuesOf name members) := by
  rw [← valuesOf_filter_isKnown hknown, ← valuesOf_filter_isKnown hknown members]
  exact (hperm.filter _).map _

theorem ofText?_eq_of_writes {text : List Char} (writes : Json.Writes (.object members) text) :
    ofText? text = (members.foldlM Given.member? {}).map Given.complete := by
  rw [ofText?, writes.ofText?_eq]
  rfl

/-- What is given by the members of an object, under known names in any order. -/
theorem foldlM_member?_perm
    (named : ∀ member ∈ members, (Json.textOf? member.1).isSome = true)
    (namedOthers : ∀ member ∈ others, (Json.textOf? member.1).isSome = true)
    (hperm : (others.filter isKnown).Perm (members.filter isKnown)) :
    others.foldlM Given.member? {} = members.foldlM Given.member? {} := by
  ext result
  rw [foldlM_member?_eq_some_iff named,
    foldlM_member?_eq_some_iff namedOthers, foldlM_take?_perm (valuesOf_perm (Or.inl rfl) hperm),
    foldlM_take?_perm (valuesOf_perm (Or.inr rfl) hperm)]

/-- A text of an object is read exactly if nothing but one truth value stands under each of
the two names.  These values are the options, with the defaults for those that are missing.
Other members, the order of the members and the white space never matter. -/
theorem ofText?_of_writes_object {text : List Char} (writes : Json.Writes (.object members) text)
    (named : ∀ member ∈ members, (Json.textOf? member.1).isSome = true) :
    ((ofText? text).isSome = true ↔
      GivesOnce "heuristic" members ∧ GivesOnce "statistics" members) ∧
    (∀ options, ofText? text = some options →
      (∀ b, .bool b ∈ valuesOf "heuristic" members → options.heuristic = b) ∧
      (valuesOf "heuristic" members = [] → options.heuristic = true) ∧
      (∀ b, .bool b ∈ valuesOf "statistics" members → options.statistics = b) ∧
      (valuesOf "statistics" members = [] → options.statistics = false)) ∧
    ∀ others other, Json.Writes (.object others) other →
      (∀ member ∈ others, (Json.textOf? member.1).isSome = true) →
      (others.filter isKnown).Perm (members.filter isKnown) → ofText? other = ofText? text := by
  rw [ofText?_eq_of_writes writes]
  refine ⟨?_, ?_, ?_⟩
  · rw [Option.isSome_map, Option.isSome_iff_exists, givesOnce_iff, givesOnce_iff]
    constructor
    · rintro ⟨given, hgiven⟩
      obtain ⟨hheuristic, hstatistics⟩ := (foldlM_member?_eq_some_iff named).mp hgiven
      exact ⟨⟨_, hheuristic⟩, ⟨_, hstatistics⟩⟩
    · rintro ⟨⟨heuristic, hheuristic⟩, statistics, hstatistics⟩
      exact ⟨⟨heuristic, statistics⟩,
        (foldlM_member?_eq_some_iff named).mpr ⟨hheuristic, hstatistics⟩⟩
  · intro options hoptions
    obtain ⟨given, hgiven, rfl⟩ := Option.map_eq_some_iff.mp hoptions
    obtain ⟨hheuristic, hstatistics⟩ := (foldlM_member?_eq_some_iff named).mp hgiven
    obtain ⟨heuristicGiven, heuristicMissing⟩ := getD_of_foldlM_take? hheuristic
    obtain ⟨statisticsGiven, statisticsMissing⟩ := getD_of_foldlM_take? hstatistics
    exact ⟨heuristicGiven, heuristicMissing, statisticsGiven, statisticsMissing⟩
  · intro others other writesOther namedOthers hperm
    rw [ofText?_eq_of_writes writesOther, foldlM_member?_perm named namedOthers hperm]

/-- A name written with an escape counts, a name inside another value does not, and neither
does a name that means nothing and stands there twice. -/
theorem ofText?_of_escaped_and_hidden_names :
    ofText?
      "\x7b \"x\":\x7b\"statistics\":\"\x7d\"\x7d,\"\\u0068euristic\":false ,\"x\":1\x7d".toList =
        some ⟨false, false⟩ ∧
      ofText? "\x7b\"heuristic\":false\x7d".toList = some ⟨false, false⟩ := by
  let members : List (List JsonUnit × Json) :=
    [(Json.unitsOf "x", .object [(Json.unitsOf "statistics", Json.ofText "\x7d")]),
      (Json.unitsOf "heuristic", .bool false), (Json.unitsOf "x", .number ['1'])]
  have writes : Json.Writes (.object members)
      "\x7b \"x\":\x7b\"statistics\":\"\x7d\"\x7d,\"\\u0068euristic\":false ,\"x\":1\x7d".toList :=
    Json.ofText?_eq_some_iff.mp (by simp only [String.reduceToList]; rfl)
  have writesOther : Json.Writes (.object [(Json.unitsOf "heuristic", .bool false)])
      "\x7b\"heuristic\":false\x7d".toList :=
    Json.ofText?_eq_some_iff.mp (by simp only [String.reduceToList]; rfl)
  have named : ∀ member ∈ members, (Json.textOf? member.1).isSome = true := by decide
  have hheuristic : valuesOf "heuristic" members = [.bool false] := rfl
  have hstatistics : valuesOf "statistics" members = [] := rfl
  obtain ⟨hread, hvalues, hsame⟩ := ofText?_of_writes_object writes named
  have hsome := hread.mpr ⟨by simp [GivesOnce, hheuristic], by simp [GivesOnce, hstatistics]⟩
  obtain ⟨⟨heuristic, statistics⟩, hoptions⟩ := Option.isSome_iff_exists.mp hsome
  obtain ⟨heuristicGiven, -, -, statisticsMissing⟩ := hvalues _ hoptions
  obtain rfl : heuristic = false := heuristicGiven false (by simp [hheuristic])
  obtain rfl : statistics = false := statisticsMissing hstatistics
  exact ⟨hoptions, (hsame _ _ writesOther (by decide) (List.Perm.of_eq rfl)).trans hoptions⟩

end DetectOptions

end Polyglot
