import MarkerLint.Checker
import MarkerLint.Configuration.File
import MarkerLint.Registry.Packaged
import MarkerLint.Rule.Catalog
import MarkerLint.Summary

/-!
# The plugin

What the program registers with its host linter: a checker for each rule, with the messages of the
packaged registry, and a reporter. The project's configuration is read on the way, so a fault in it
stops the registration.
-/

namespace MarkerLint

/-- What is registered with the host. -/
structure Plugin where
  checkers : List Checker
  reporters : List String

namespace Plugin

/-- The plugin for the project around a directory. -/
def ofProject (t : FileTree) (here : List String) : Logged (Except Fault Plugin) :=
  let c := Configuration.ofProject t here
  ⟨do
    let _ ← c.value
    let checkers ← Checker.ofRules Registry.packaged Rule.catalog
    .ok ⟨checkers, [Summary.reporterName]⟩, c.log⟩

end Plugin

end MarkerLint
