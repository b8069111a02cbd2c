/-
# The built-in languages

The rules for ten languages, used where no rule file is given.  Two points mean
that a line is nearly always of the language, one that it often is, and a
negative number that it is of another one.
-/

import Polyglot.Registry

namespace Polyglot

namespace Builtin

/-- The rules of C.  Constructs of C++ alone exclude C. -/
def c : List RuleSpec := [
  ⟨r"(char|long|int|float|double)\s+\w+\s*=?", 2, false⟩,
  ⟨r"malloc\(.+\)", 2, false⟩,
  ⟨"#include\\s*(<|\")\\w+\\.h(>|\")", 2, true⟩,
  ⟨r"(\w+)\s*\*\s*\w+", 2, false⟩,
  ⟨r"(\w+)\s+\w+(;|\s*=)", 1, false⟩,
  ⟨r"(\w+)\s+\w+\[.+\]", 1, false⟩,
  ⟨r"#define\s+.+", 1, false⟩,
  ⟨r"\bNULL\b", 1, false⟩,
  ⟨r"\bvoid\b", 1, false⟩,
  ⟨r"\b(printf|puts)\s*\(.+\)", 1, false⟩,
  ⟨r"\bnew\s+\w+", -1, false⟩,
  ⟨"'.\x7b2,\x7d'", -1, false⟩,
  ⟨r"\b(var|let|const)\s+\w+\s*=?", -1, false⟩,
  ⟨r"(std::|using\s+namespace|template\s*<|\bcout\b|\bcin\b)", -50, false⟩]

/-- The rules of C++. -/
def cPlusPlus : List RuleSpec := [
  ⟨r"(char|long|int|float|double)\s+\w+\s*=?", 2, false⟩,
  ⟨"#include\\s*(<|\")\\w+(\\.h)?(>|\")", 2, true⟩,
  ⟨r"using\s+namespace\s+.+\s*;", 2, false⟩,
  ⟨r"template\s*<.*>", 2, false⟩,
  ⟨r"std::\w+", 2, false⟩,
  ⟨r"\b(cout|cin|endl)\b", 2, false⟩,
  ⟨r"\b(public|protected|private):", 2, false⟩,
  ⟨r"\bnullptr\b", 2, false⟩,
  ⟨r"\bnew\s+\w+(\(.*\))?", 1, false⟩,
  ⟨r"#define\s+.+", 1, false⟩,
  ⟨r"\w+<\w+>", 1, false⟩,
  ⟨r"\bclass\s+\w+", 1, false⟩,
  ⟨r"\bvoid\b", 1, false⟩,
  ⟨r"(else )?if\s*\(.+\)", 1, false⟩,
  ⟨r"while\s*\(.+\)", 1, false⟩,
  ⟨r"\w*::\w+", 1, false⟩,
  ⟨"'.\x7b2,\x7d'", -1, false⟩,
  ⟨r"\b(var|let|const)\s+\w+\s*=?", -1, false⟩]

/-- The rules of CSS. -/
def css : List RuleSpec := [
  ⟨r"^\s*[a-z\-]+\s*:\s*[^:;]+;\s*$", 2, false⟩,
  ⟨r"^\s*@(media|import|font-face|keyframes|charset)\b", 2, false⟩,
  ⟨"^\\s*[.#]?[\\w\\-]+(\\s*[,>+~]\\s*[.#]?[\\w\\-]+)*\\s*\\\x7b\\s*$", 1, false⟩,
  ⟨r"\b(px|em|rem|vh|vw)\s*;", 1, false⟩,
  ⟨r"\b(function|return|def|import|package|var)\b", -1, false⟩]

/-- The rules of Go. -/
def go : List RuleSpec := [
  ⟨r"^\s*package\s+[a-z]+\s*$", 2, true⟩,
  ⟨"(import\\s*\\(\\s*$)|(import\\s+\"[a-z0-9/.]+\")", 2, true⟩,
  ⟨"if.+err\\s*!=\\s*nil.+\\\x7b", 2, false⟩,
  ⟨r"fmt\.Print(f|ln)?\(.*\)", 2, false⟩,
  ⟨"func(\\s+\\w+\\s*)?\\(.*\\).*\\\x7b", 2, false⟩,
  ⟨r"\w+\s*:=\s*.+[^;]$", 2, false⟩,
  ⟨"(\\\x7d\\s*else\\s*)?\\bif[^()]+\\\x7b", 2, false⟩,
  ⟨r"\b(var|const)\s+\w+\s+[\w*]+(\s*=|$)", 2, false⟩,
  ⟨r"[a-z]+\.[A-Z]\w*", 1, false⟩,
  ⟨r"\bnil\b", 1, false⟩,
  ⟨"'.\x7b2,\x7d'", -1, false⟩]

/-- The rules of HTML. -/
def html : List RuleSpec := [
  ⟨r"<!DOCTYPE (html|HTML PUBLIC .+)>", 2, true⟩,
  ⟨r"</?(html|head|body|div|span|p|ul|ol|li|table|tr|td|script|style|a|img|meta|link|form|input)\b", 2, false⟩,
  ⟨"[a-z\\-]+=(\"|').+(\"|')\\s*/?>", 2, false⟩,
  ⟨r"<!--.*(-->)?", 2, false⟩,
  ⟨"[\x7b\x7d;]\\s*$", -1, false⟩]

/-- The rules of Java. -/
def java : List RuleSpec := [
  ⟨r"System\.(in|out|err)\.\w+", 2, false⟩,
  ⟨r"\b(private|protected|public)\s+\w+\s+\w+(\s*=\s*[\w\s]+)?\s*;", 2, false⟩,
  ⟨"\\b(private|protected|public)\\s+(static\\s+)?[\\w\\[\\]<>]+\\s+\\w+\\s*\\([^)]*\\)\\s*\\\x7b", 2, false⟩,
  ⟨r"\b(extends|implements)\s+\w+", 2, false⟩,
  ⟨r"^\s*package\s+[\w.]+\s*;", 2, true⟩,
  ⟨r"^\s*import\s+(static\s+)?[\w.]+(\.\*)?\s*;", 2, true⟩,
  ⟨r"@Override", 2, false⟩,
  ⟨r"\b(String|int|boolean|double|long|char)\[\]\s*\w+", 1, false⟩,
  ⟨r"\bnew\s+[A-Z]\w*\s*\(.*\)", 1, false⟩,
  ⟨r"\bfinal\s+\w+", 1, false⟩,
  ⟨r"\b(let|const)\s+\w+\s*=", -1, false⟩,
  ⟨r"#include", -1, false⟩,
  ⟨"'.\x7b2,\x7d'", -1, false⟩]

/-- The rules of Javascript. -/
def javascript : List RuleSpec := [
  ⟨r"\bundefined\b", 2, false⟩,
  ⟨r"\bwindow\.\w+", 2, false⟩,
  ⟨r"console\.log\s*\(", 2, false⟩,
  ⟨r"\bdocument\.\w+", 2, false⟩,
  ⟨r"\b(var|let|const)\s+\w+\s*=?", 2, false⟩,
  ⟨"\\bfunction\\*?\\s*\\w*\\s*\\(.*\\)\\s*\\\x7b", 2, false⟩,
  ⟨r"\(.*\)\s*=>", 2, false⟩,
  ⟨r"\w+\.prototype\.\w+", 2, false⟩,
  ⟨"\\brequire\\s*\\(\\s*['\"].+['\"]\\s*\\)", 2, false⟩,
  ⟨r"\bexport\s+(default\s+)?(function|class|const|let|var)\b", 2, false⟩,
  ⟨"^\\s*import\\s+.+\\s+from\\s+['\"].+['\"]", 2, true⟩,
  ⟨r"===|!==", 2, false⟩,
  ⟨r"\bnull\b", 1, false⟩,
  ⟨r"(else )?if\s*\(.+\)", 1, false⟩,
  ⟨r"while\s*\(.+\)", 1, false⟩,
  ⟨r"^\s*(def|func)\s+", -1, false⟩]

/-- The rules of PHP. -/
def php : List RuleSpec := [
  ⟨r"<\?php", 2, true⟩,
  ⟨r"\$\w+", 2, false⟩,
  ⟨r"\$this->\w+", 2, false⟩,
  ⟨r"^\s*use\s+\w+(\\\w+)+\s*;", 2, false⟩,
  ⟨"\\b(require|include)(_once)?\\s*\\(?\\s*['\"].+\\.php['\"]\\s*\\)?\\s*;", 2, false⟩,
  ⟨"\\becho\\s+['\"$]", 1, false⟩,
  ⟨r"\bfunction\s+\w+\s*\(.*\)", 1, false⟩,
  ⟨r"^\s*(var|let|const)\s+\w+", -1, false⟩]

/-- The rules of Python. -/
def python : List RuleSpec := [
  ⟨r"\bdef\s+\w+\s*\(.*\)\s*(->\s*[\w\[\], ]+\s*)?:", 2, false⟩,
  ⟨r"^\s*while\s+(.+):\s*$", 2, false⟩,
  ⟨r"^\s*from\s+[\w.]+\s+import\s+(\w+|\*)", 2, false⟩,
  ⟨r"^\s*class\s*\w+(\(\s*[\w.]*\s*\))?\s*:\s*$", 2, false⟩,
  ⟨r"^\s*if\s+(.+):\s*$", 2, false⟩,
  ⟨r"^\s*elif\s+(.+):\s*$", 2, false⟩,
  ⟨r"^\s*else:\s*$", 2, false⟩,
  ⟨r"^\s*for\s+(\w+|\(?\w+,\s*\w+\)?)\s+in\s+(.+):\s*$", 2, false⟩,
  ⟨r"^\s*(try|finally):\s*$", 2, false⟩,
  ⟨r"^\s*except(\s+.+)?:\s*$", 2, false⟩,
  ⟨r"\w+\s*=\s*\w+\s*$", 1, false⟩,
  ⟨r"^\s*import\s+[\w.]+(\s+as\s+\w+)?\s*$", 1, true⟩,
  ⟨r"\bprint((\s*\(.+\))|\s+.+)", 1, false⟩,
  ⟨r"\bself\.\w+", 1, false⟩,
  ⟨"(&\x7b2\x7d|\\|\x7b2\x7d)", -1, false⟩,
  ⟨"[\x7b;]\\s*$", -1, false⟩]

/-- The rules of Ruby. -/
def ruby : List RuleSpec := [
  ⟨"^\\s*require(_relative)?\\s+['\"][\\w/.\\-]+['\"]", 2, true⟩,
  ⟨r"^\s*def\s+(self\.)?\w+[?!]?(\(.*\))?\s*$", 2, false⟩,
  ⟨r"^\s*module\s+\w+", 2, false⟩,
  ⟨r"^\s*class\s+\w+(\s*<\s*[\w:]+)?\s*$", 1, false⟩,
  ⟨"\\bputs\\s+['\":@\\w]", 2, false⟩,
  ⟨r"@\w+\s*=", 1, false⟩,
  ⟨"\\.each(_with_index)?\\s*(do|\\\x7b)\\s*\\|[\\w,\\s]+\\|", 2, false⟩,
  ⟨r"\bdo\s*\|[\w,\s]+\|\s*$", 2, false⟩,
  ⟨r"\battr_(reader|writer|accessor)\b", 2, false⟩,
  ⟨r"^\s*elsif\b", 2, false⟩,
  ⟨r"^\s*end\s*$", 1, false⟩,
  ⟨r":\w+\s*=>", 1, false⟩,
  ⟨r";\s*$", -1, false⟩]

/-- The built-in languages, in the order that decides between equal scores. -/
def languages : List LanguageRules := [
  ⟨"C", c⟩,
  ⟨"C++", cPlusPlus⟩,
  ⟨"CSS", css⟩,
  ⟨"Go", go⟩,
  ⟨"HTML", html⟩,
  ⟨"Java", java⟩,
  ⟨"Javascript", javascript⟩,
  ⟨"PHP", php⟩,
  ⟨"Python", python⟩,
  ⟨"Ruby", ruby⟩]

/-- The entries of the built-in registry. -/
def entries : List Entry := languages.map Entry.ofLanguageRules ++ [.unknown]

end Builtin

namespace Registry

/-- The built-in registry.  Its entries are accepted, so the registry without languages never
stands in for it. -/
def builtin : Registry := (build Builtin.entries).toOption.getD ⟨[.unknown]⟩

end Registry

end Polyglot
