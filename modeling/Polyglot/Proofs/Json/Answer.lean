/-
# Reading answers

What an answer says, by the names of the members alone: neither their order nor
that of the program's writing is looked at.  A detection and the item for a file
are read back from the values that are written for them, so their texts determine
them.
-/

import Polyglot.Proofs.Json.RoundTrip

namespace Polyglot

namespace Json

/-! ## Parts of a value -/

/-- The value under a name of an object, the first one if the name is repeated. -/
def member? (name : String) : Json → Option Json
  | .object members => members.lookup (unitsOf name)
  | _ => none

/-- The text that a value is. -/
def text? : Json → Option String
  | .string units => textOf? units
  | _ => none

/-- The natural number that decimal digits write. -/
def natural? (digits : List Char) : Option Nat :=
  if !digits.isEmpty && digits.all isDigit then some (Nat.ofDigitChars 10 digits 0) else none

/-- The integer that a number without fraction and exponent writes. -/
def integer? : List Char → Option Int
  | '-' :: digits => (natural? digits).map fun n => -(n : Int)
  | digits => (natural? digits).map Int.ofNat

/-- The integer that a value is. -/
def int? : Json → Option Int
  | .number literal => integer? literal
  | _ => none

/-- The items of an array, each of them read. -/
def list? {α : Type} (read : Json → Option α) : Json → Option (List α)
  | .array items => items.mapM read
  | _ => none

/-- A name with its score. -/
def score? : Json → Option LanguageScore
  | .array [name, points] => do
    let name ← name.text?
    let points ← points.int?
    some (name, points)
  | _ => none

/-- Items that are read back one by one are read back together. -/
theorem mapM_map_eq_some {α β : Type} {write : α → β} {read : β → Option α}
    (hread : ∀ item, read (write item) = some item) (items : List α) :
    (items.map write).mapM read = some items := by
  induction items with
  | nil => rfl
  | cons item items ih => simp [hread, ih]

theorem text?_ofText (text : String) : (ofText text).text? = some text := by
  have hchar (c : Char) : unitChar? (.char c) = some c := rfl
  have hunits : (unitsOf text).mapM unitChar? = some text.toList :=
    mapM_map_eq_some hchar text.toList
  rw [ofText, text?, textOf?, hunits, Option.map_some, String.ofList_toList]

theorem natural?_toDigits (n : Nat) : natural? (Nat.toDigits 10 n) = some n := by
  have hne : (Nat.toDigits 10 n).isEmpty = false := by
    simp
  have hdigits : (Nat.toDigits 10 n).all isDigit = true :=
    List.all_eq_true.mpr fun c => isDigit_of_mem_toDigits
  rw [natural?, hne, hdigits, Nat.ofDigitChars_ten_toDigits]
  rfl

theorem int?_ofInt (n : Int) : (ofInt n).int? = some n := by
  cases n with
  | ofNat n =>
      obtain ⟨d, digits, hcons, hdigit⟩ := exists_toDigits_eq_cons n
      have hsign : d ≠ '-' := by
        rintro rfl
        exact absurd hdigit (by decide)
      have hread := natural?_toDigits n
      rw [hcons] at hread
      simp [ofInt, integerLiteral, int?, hcons, integer?, hsign, hread]
  | negSucc n =>
      simp [ofInt, integerLiteral, int?, integer?, natural?_toDigits, Int.negSucc_eq]

theorem score?_ofScore (score : LanguageScore) : (ofScore score).score? = some score := by
  simp [ofScore, score?, text?_ofText, int?_ofInt]

theorem list?_ofScores (scores : List LanguageScore) :
    (ofScores scores).list? score? = some scores :=
  mapM_map_eq_some score?_ofScore scores

end Json

/-! ## Detections -/

namespace Detection

open Json

/-- The detection that a value says: a name, or an object with a name and scores. -/
def ofJson? (value : Json) : Option Detection :=
  match value.text? with
  | some name => some (.language name)
  | none => do
    let detected ← (value.member? "detected").bind text?
    let statistics ← (value.member? "statistics").bind (list? score?)
    some (.report detected statistics)

/-- The detection that a text says. -/
def ofText? (text : List Char) : Option Detection := (Json.ofText? text).bind ofJson?

theorem plain_toJson (detection : Detection) : Plain detection.toJson := by
  cases detection with
  | language name => exact .text name
  | report detected statistics =>
      refine .object _ ?_ ?_ <;> simp only [List.forall_mem_cons]
      · exact ⟨⟨"detected", rfl⟩, ⟨"statistics", rfl⟩, by simp⟩
      · exact ⟨.text detected, plain_ofScores statistics, by simp⟩

theorem ofJson?_toJson (detection : Detection) : ofJson? detection.toJson = some detection := by
  cases detection with
  | language name => simp [toJson, ofJson?, text?_ofText]
  | report detected statistics =>
      have hnames : (unitsOf "statistics" == unitsOf "detected") = false := by decide
      have htext (members : List (List JsonUnit × Json)) : (object members).text? = none := rfl
      simp [toJson, ofJson?, htext, member?, List.lookup_cons, hnames, text?_ofText,
        list?_ofScores]

/-- A detection is read back from its text. -/
theorem ofText?_write (detection : Detection) : ofText? detection.write = some detection := by
  rw [ofText?, write, Json.ofText?_write detection.plain_toJson, Option.bind_some, ofJson?_toJson]

/-- Different detections have different texts. -/
theorem write_injective : Function.Injective write := by
  intro first second heq
  rw [← Option.some.injEq, ← ofText?_write first, heq, ofText?_write]

end Detection

/-! ## Items -/

namespace FileItem

open Json

/-- The item that a value says: an object with a path and a name, and scores if they are a
member. -/
def ofJson? (value : Json) : Option FileItem := do
  let path ← (value.member? "path").bind text?
  let detected ← (value.member? "detected").bind text?
  match value.member? "statistics" with
  | none => some ⟨path, .language detected⟩
  | some scores => do
    let statistics ← scores.list? score?
    some ⟨path, .report detected statistics⟩

/-- The items that a text lists. -/
def listOfText? (text : List Char) : Option (List FileItem) :=
  (Json.ofText? text).bind (list? ofJson?)

/-- Which members the value of an item has. -/
theorem members_toJson (item : FileItem) :
    item.toJson.member? "path" = some (ofText item.path) ∧
      item.toJson.member? "detected" = some (ofText item.detection.name) ∧
      item.toJson.member? "statistics" = item.detection.statistics?.map ofScores := by
  have hdetected : (unitsOf "detected" == unitsOf "path") = false := by decide
  have hstatistics : (unitsOf "statistics" == unitsOf "path") = false := by decide
  have hlast : (unitsOf "statistics" == unitsOf "detected") = false := by decide
  obtain ⟨path, detection⟩ := item
  cases detection with
  | language name =>
      simp [member?, List.lookup_cons, hdetected, hstatistics, hlast, Detection.name,
        Detection.statistics?]
  | report detected statistics =>
      simp [member?, List.lookup_cons, hdetected, hstatistics, hlast, Detection.name,
        Detection.statistics?]

theorem ofJson?_toJson (item : FileItem) : ofJson? item.toJson = some item := by
  obtain ⟨hpath, hdetected, hstatistics⟩ := members_toJson item
  rw [ofJson?, hpath, hdetected, hstatistics]
  obtain ⟨path, detection⟩ := item
  cases detection with
  | language name => simp [text?_ofText, Detection.name, Detection.statistics?]
  | report detected statistics =>
      simp [text?_ofText, list?_ofScores, Detection.name, Detection.statistics?]

/-- The text of an array of items lists them. -/
theorem listOfText?_write (items : List FileItem) :
    listOfText? (Json.array (items.map toJson)).write = some items := by
  rw [listOfText?, Json.ofText?_write (plain_array items), Option.bind_some]
  exact mapM_map_eq_some ofJson?_toJson items

/-- Different lists of items have different texts. -/
theorem writeArray_injective :
    Function.Injective fun items : List FileItem => (Json.array (items.map toJson)).write := by
  intro first second heq
  rw [← Option.some.injEq, ← listOfText?_write first, ← listOfText?_write second]
  exact congrArg listOfText? heq

end FileItem

end Polyglot
