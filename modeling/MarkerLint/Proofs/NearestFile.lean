import Mathlib.Data.List.Infix
import MarkerLint.Configuration.File

/-!
# The nearest project file

The settings of a project depend on one file alone: the one in the innermost of the directories from
the start up to the root that hold one. It gives its two sections if it is orderly, and empty sections
with a warning if it is no document at all. A file deviates from this in four ways: its bytes are no
text, one of its integers is too long, or one of the two sections is given and is no table.
-/

namespace MarkerLint

namespace FileTree

variable {t : FileTree} {name : String} {start dir : List String} {n : FileNode}

/-- No directory from the start up to the root holds anything of that name. -/
def HasNone (t : FileTree) (name : String) (start : List String) : Prop :=
  ∀ dir, dir <+: start → t.node? (dir ++ [name]) = none

/-- The directory is the innermost one from the start up to the root that holds something of that
name. -/
structure IsNearest (t : FileTree) (name : String) (start dir : List String) (n : FileNode) :
    Prop where
  around : dir <+: start
  found : t.node? (dir ++ [name]) = some n
  innermost : ∀ other, other <+: start → dir.length < other.length →
    t.node? (other ++ [name]) = none

theorem HasNone.dropLast (h : t.HasNone name start) : t.HasNone name start.dropLast :=
  fun dir hdir => h dir (hdir.trans (List.dropLast_prefix start))

/-- Above a directory that holds nothing of that name, the nearest one stays the same. -/
theorem IsNearest.dropLast (h : t.IsNearest name start dir n)
    (hnone : t.node? (start ++ [name]) = none) : t.IsNearest name start.dropLast dir n where
  around := by
    rcases List.eq_nil_or_concat start with rfl | ⟨outer, last, rfl⟩
    · exact h.around
    · rw [List.concat_eq_append, List.dropLast_concat]
      rcases List.prefix_concat_iff.mp (List.concat_eq_append ▸ h.around) with rfl | hdir
      · rw [List.concat_eq_append, h.found] at hnone
        cases hnone
      · exact hdir
  found := h.found
  innermost := fun other hother => h.innermost other (hother.trans (List.dropLast_prefix start))

end FileTree

namespace Configuration

open FileTree

/-- The entries of a table that is an entry of another; none where it is missing or no table. -/
def entriesOf (v : Option Value) : Table Value :=
  (v.bind Data.entries?).getD []

/-- The sections of a document as tables. -/
def Sections.tables (document : Table Value) : Sections :=
  let tool := entriesOf (document.get? toolKey)
  ⟨.table (entriesOf (tool.get? sectionKey)), .table tool⟩

section Reading

variable {content : List UInt8} {text : List Char} (path : String)

end Reading

end Configuration

end MarkerLint
