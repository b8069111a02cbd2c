/-
# Loading rule files

A rule file is read from a workspace, decoded, parsed and built into a registry.
Each of these can fail.
-/

import Polyglot.FileTree.Workspace
import Polyglot.Registry
import Polyglot.RuleFile

namespace Polyglot

/-- Why a rule file cannot be loaded. -/
inductive LoadError
  /-- The file cannot be read. -/
  | unreadable (fault : PathError)
  /-- The file is no text. -/
  | notText
  /-- The text is no rule file. -/
  | notRules
  /-- The rules make no registry. -/
  | registry (fault : RegistryError)
  deriving DecidableEq, Repr

namespace RuleFile

/-- The grouped rules in the bytes of a file. -/
def ofBytes (bytes : List UInt8) : Except LoadError (List LanguageRules) :=
  match Utf8.decode? bytes with
  | none => .error .notText
  | some text =>
    match ofText? text with
    | none => .error .notRules
    | some groups => .ok groups

/-- The registry of grouped rules. -/
def build (groups : List LanguageRules) : Except LoadError Registry :=
  (Registry.ofLanguageRules groups).mapError .registry

/-- The grouped rules in a file. -/
def load (w : Workspace) (path : Path) : Except LoadError (List LanguageRules) :=
  match w.read path with
  | .error fault => .error (.unreadable fault)
  | .ok bytes => ofBytes bytes

/-- The registry of a file. -/
def loadRegistry (w : Workspace) (path : Path) : Except LoadError Registry :=
  (load w path).bind build

end RuleFile

end Polyglot
