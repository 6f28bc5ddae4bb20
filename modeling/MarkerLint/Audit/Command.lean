import MarkerLint.Audit.Report
import MarkerLint.Checker
import MarkerLint.Configuration

/-!
# The command of the host linter

An audit runs the host with this program's checkers and no others, in the layout that reports are
read in. Excluded parts of paths are handed over as patterns that match them literally.
-/

namespace MarkerLint.Audit

/-- The characters that a pattern gives a meaning to, and blanks. -/
def patternChars : List Char :=
  "()[]\x7b\x7d?*+-|^$\\.&~# \t\n\r".toList ++ [Char.ofNat 11, Char.ofNat 12]

/-- A pattern that matches a text literally. -/
def literalPattern (s : String) : String :=
  String.ofList (s.toList.flatMap fun c => if patternChars.contains c then ['\\', c] else [c])

/-- The names of the checkers of the rules that are not disabled. -/
def enabledCheckers (c : Configuration) (disabled : List String) : Except Fault (List String) := do
  let configured ← c.disabledRules
  .ok ((Rule.ids.filter fun id => !(disabled.contains id || configured.contains id)).map
    Checker.nameOf)

/-- The argument that excludes parts of paths, if there are any. -/
def exclusion (parts : List String) : List String :=
  if parts.isEmpty then []
  else
    let patterns := parts.map fun p => ".*" ++ literalPattern p ++ ".*"
    ["--ignore-paths=" ++ String.intercalate "," patterns]

/-- The command that audits a path. -/
def command (c : Configuration) (interpreter target : String) (disabled : List String) :
    Except Fault (List String) := do
  let enabled ← enabledCheckers c disabled
  let excluded ← c.excludedPaths
  .ok
    ([interpreter, "-m", "pylint", target,
      "--load-plugins=aabha_linter",
      "--disable=all",
      "--enable=" ++ String.intercalate "," enabled,
      "--msg-template=" ++ reportLayout,
      "--reports=n",
      "--score=n"] ++ exclusion excluded)

end MarkerLint.Audit
