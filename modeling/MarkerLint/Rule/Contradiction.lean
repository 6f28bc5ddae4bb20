import MarkerLint.Text.Blank
import MarkerLint.Text.Case
import MarkerLint.Text.Search

/-!
# Contradiction between a precondition and a validation rule

Both texts are reduced to keys: an opening such as "user must" is cut down to its subject, and runs
of blanks become one space. The rule contradicts the precondition if its key speaks of "not" and one
key's first token occurs in the other key. The test is lexical and deliberately narrow.
-/

namespace MarkerLint.Contradiction

open Text

/-- The subjects that open a condition. -/
def subjects : List String :=
  ["user", "payment", "order", "item", "inventory", "email"]

/-- The modal words after the subject of a precondition. -/
def preconditionModals : List String :=
  ["is", "must", "should", "has"]

/-- The modal words after the subject of a validation rule. -/
def ruleModals : List String :=
  ["must", "should", "has"]

/-- The character is the small letter in one of its forms: its capital, and for i and s also their
old and dotted relatives. -/
def isFormOf (letter c : Char) : Bool :=
  c == letter || (isAscii c && c.toLower == letter)
    || (letter == 'i' && (c.toNat == 0x130 || c.toNat == 0x131))
    || (letter == 's' && c.toNat == 0x17F)

/-- Splits a text after a word that it begins with, in any case. -/
def splitWord? : List Char → CodeText → Option (CodeText × CodeText)
  | [], cs => some ([], cs)
  | _ :: _, [] => none
  | p :: ps, c :: cs =>
      if c.isIn (isFormOf p) then (splitWord? ps cs).map fun (word, rest) => (c :: word, rest)
      else none

/-- Splits a text after the first of the words that it begins with. -/
def splitOneOf? (words : List String) (cs : CodeText) : Option (CodeText × CodeText) :=
  words.findSome? fun w => splitWord? w.toList cs

/-- The text with its opening cut down to the subject, if it opens with a subject, blanks and one of
the modal words. The modal word need not end there. -/
def dropModal (modals : List String) (cs : CodeText) : CodeText :=
  match splitOneOf? subjects cs with
  | none => cs
  | some (subject, rest) =>
      match rest.span isBlankPoint with
      | ([], _) => cs
      | (_ :: _, rest) =>
          match splitOneOf? modals rest with
          | none => cs
          | some (_, rest) => subject ++ rest

/-- The key of a precondition. -/
def preconditionKey (precondition : CodeText) : CodeText :=
  collapse (dropModal preconditionModals (trim (lower precondition)))

/-- The key of a validation rule. -/
def ruleKey (rule : CodeText) : CodeText :=
  collapse (dropModal ruleModals rule)

/-- The text up to its first space. -/
def firstToken (key : CodeText) : CodeText :=
  key.takeWhile (· != .char ' ')

/-- The rule's key speaks of "not" and shares a first token with the precondition's key. -/
def contradicts (precondition rule : CodeText) : Bool :=
  let p := preconditionKey precondition
  let r := ruleKey rule
  occursIn "not" r && (occursIn (firstToken p) r || occursIn (firstToken r) p)

end MarkerLint.Contradiction
