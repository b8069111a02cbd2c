/-
# The registry of candidates

The candidates are the languages that a snippet may be detected as, in the
order in which they were registered, and one candidate, Unknown, that has no
rules.  A registry is built from a list of entries, or not at all: the first
fault in the list is the error.
-/

import Polyglot.Rule

namespace Polyglot

/-- The name of the candidate without rules. -/
def unknownName : String := "Unknown"

/-- What a snippet may be detected as. -/
inductive Candidate
  /-- A language with rules. -/
  | language (name : String) (rules : List Rule)
  /-- No language. -/
  | unknown

namespace Candidate

/-- The name of a candidate. -/
def name : Candidate → String
  | language name _ => name
  | unknown => unknownName

/-- The rules of a candidate. -/
def rules : Candidate → List Rule
  | language _ rules => rules
  | unknown => []

/-- Whether a candidate is the one without rules. -/
def isUnknown : Candidate → Bool
  | language _ _ => false
  | unknown => true

end Candidate

/-- What is registered. -/
inductive Entry
  /-- A language and its rules. -/
  | language (name : String) (rules : List RuleSpec)
  /-- The place of the candidate without rules. -/
  | unknown
  deriving DecidableEq, Repr

namespace Entry

/-- The name under which an entry is registered. -/
def name : Entry → String
  | language name _ => name
  | unknown => unknownName

/-- The rules registered with an entry. -/
def rules : Entry → List RuleSpec
  | language _ rules => rules
  | unknown => []

/-- The entry of a language and its rules. -/
def ofLanguageRules (group : LanguageRules) : Entry :=
  language group.language group.rules

end Entry

/-- Why a registry cannot be built. -/
inductive RegistryError
  /-- The pattern of a rule is none. -/
  | invalidPattern (language pattern : String)
  /-- A name is registered again. -/
  | duplicateLanguage (name : String)
  /-- The candidate without rules is given some. -/
  | rulesOnUnknown (name : String)
  deriving DecidableEq, Repr

namespace RegistryError

/-- The error in words. -/
def message : RegistryError → String
  | invalidPattern language pattern => "invalid pattern for " ++ language ++ ": " ++ pattern
  | duplicateLanguage name => "language registered twice: " ++ name
  | rulesOnUnknown name => "the " ++ name ++ " candidate cannot carry rules"

end RegistryError

/-- The candidates, in the order of registration. -/
structure Registry where
  /-- The candidates. -/
  candidates : List Candidate

namespace Registry

/-- Read the patterns of rules; the first that is none is the error. -/
def readRules (language : String) : List RuleSpec → Except RegistryError (List Rule)
  | [] => .ok []
  | spec :: rest =>
    match Rule.ofSpec? spec with
    | none => .error (.invalidPattern language spec.pattern)
    | some rule => (readRules language rest).map (rule :: ·)

/-- The candidate of an entry, given the names registered before it. -/
def register (taken : List String) (entry : Entry) : Except RegistryError Candidate :=
  if taken.contains entry.name then .error (.duplicateLanguage entry.name)
  else if entry.name = unknownName then
    if entry.rules.isEmpty then .ok .unknown else .error (.rulesOnUnknown entry.name)
  else (readRules entry.name entry.rules).map (.language entry.name)

/-- Register entries one after the other. -/
def registerAll (taken : List String) : List Entry → Except RegistryError (List Candidate)
  | [] => .ok []
  | entry :: rest =>
    match register taken entry with
    | .error fault => .error fault
    | .ok candidate => (registerAll (entry.name :: taken) rest).map (candidate :: ·)

/-- The candidates with Unknown among them: where it was not registered, it
comes last. -/
def withUnknown (candidates : List Candidate) : List Candidate :=
  if candidates.any Candidate.isUnknown then candidates else candidates ++ [.unknown]

/-- Build a registry from its entries. -/
def build (entries : List Entry) : Except RegistryError Registry :=
  (registerAll [] entries).map fun candidates => ⟨withUnknown candidates⟩

/-- Build a registry from languages and their rules. -/
def ofLanguageRules (groups : List LanguageRules) : Except RegistryError Registry :=
  build (groups.map Entry.ofLanguageRules)

/-- The names of the candidates. -/
def languages (registry : Registry) : List String := registry.candidates.map Candidate.name

/-- The candidate of a name. -/
def get? (registry : Registry) (name : String) : Option Candidate :=
  registry.candidates.find? fun candidate => candidate.name == name

end Registry

end Polyglot
