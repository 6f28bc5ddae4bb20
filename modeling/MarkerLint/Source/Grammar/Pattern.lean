import MarkerLint.Source.Grammar.Expression

/-!
# Reading patterns

The patterns of the branches of a `match` statement. Nothing in a pattern declares anything, so only
the cursor after it is kept.
-/

namespace MarkerLint.Source

/-- Patterns with commas between them, at least one; a comma after the last one is read too. -/
def commaPatterns (item : Cursor → Option Cursor) (fuel : Nat) (c : Cursor) :
    Option (Bool × Cursor) :=
  (commaList (fun c => (item c).map fun c => ((), c)) fuel c).map fun (items, comma, c) =>
    (comma || items.length != 1, c)

/-- A name that the matched value is given to. The empty name is none, and neither is the beginning
of a longer form. -/
def captureName? (c : Cursor) : Option Cursor := do
  let (name, c) ← c.name?
  if name = "_" || c.isAtSymbol "." || c.isAtSymbol "(" || c.isAtSymbol "=" then none else some c

/-- The number is imaginary. -/
def isImaginary : Constant → Bool
  | .imaginary _ => true
  | _ => false

/-- A number with a sign or without one, possibly the sum of a real and an imaginary part. -/
def numberPattern? (c : Cursor) : Option Cursor := do
  let c := (c.symbol? "-").getD c
  match c.kind with
  | .number first =>
      let c := c.next
      if c.isAtSymbol "+" || c.isAtSymbol "-" then
        match c.next.kind with
        | .number second =>
            if !isImaginary first && isImaginary second then some c.next.next else none
        | _ => none
      else some c
  | _ => none

/-- Names with points between them. -/
def dottedName : Nat → Cursor → Option (Nat × Cursor)
  | 0, _ => none
  | fuel + 1, c => do
      let (_, c) ← c.name?
      match c.symbol? "." with
      | none => some (1, c)
      | some c => (dottedName fuel c).map fun (n, c) => (n + 1, c)

/-- A constant as a pattern or as a key. -/
def constantPattern? (fuel : Nat) (c : Cursor) : Option Cursor :=
  match c.kind with
  | .name "True" => some c.next
  | .name "False" => some c.next
  | .name "None" => some c.next
  | .text _ => (atom fuel c).map Prod.snd
  | _ => numberPattern? c

/-- Which patterns of a class have been read last. -/
inductive ClassPatternStage where
  | start
  | positional
  | named

/-- The stage after a pattern with a name or without one. Directly after patterns without a name the
empty name is taken for one of them, so it cannot name a pattern there. -/
def ClassPatternStage.after (stage : ClassPatternStage) (isEmptyName isNamed : Bool) :
    Option ClassPatternStage :=
  match stage, isNamed with
  | .named, false => none
  | .positional, true => if isEmptyName then none else some .named
  | _, true => some .named
  | _, false => some .positional

mutual

/-- A pattern: alternatives, and a name for what they match. -/
def pattern : Nat → Cursor → Option Cursor
  | 0, _ => none
  | fuel + 1, c => do
      let c ← alternatives fuel c
      match c.word? "as" with
      | some c => captureName? c
      | none => some c

/-- Patterns of which one must match. -/
def alternatives : Nat → Cursor → Option Cursor
  | 0, _ => none
  | fuel + 1, c => do
      let c ← closedPattern fuel c
      match c.symbol? "|" with
      | some c => alternatives fuel c
      | none => some c

/-- A pattern that ends by itself. -/
def closedPattern : Nat → Cursor → Option Cursor
  | 0, _ => none
  | fuel + 1, c =>
      match c.kind with
      | .name "_" => some c.next
      | .symbol "(" => bracketedPatterns fuel ")" c.next
      | .symbol "[" => bracketedPatterns fuel "]" c.next
      | .symbol "\x7b" =>
          match c.next.symbol? "\x7d" with
          | some c => some c
          | none => entryPatterns fuel c.next
      | _ =>
          match constantPattern? fuel c with
          | some c => some c
          | none => do
              let (names, c) ← dottedName fuel c
              match c.symbol? "(" with
              | some c => classPatterns fuel .start c
              | none => if names = 1 && c.isAtSymbol "=" then none else some c

/-- Patterns between brackets. Round ones around a single pattern mean nothing; what is spread needs
a sequence. -/
def bracketedPatterns : Nat → String → Cursor → Option Cursor
  | 0, _, _ => none
  | fuel + 1, closing, c =>
      match c.symbol? closing with
      | some c => some c
      | none => do
          let (several, after) ← commaPatterns (spreadPattern fuel) fuel c
          if closing = ")" && !several && c.isAtSymbol "*" then none else after.symbol? closing

/-- A pattern of a sequence, which may be spread. -/
def spreadPattern : Nat → Cursor → Option Cursor
  | 0, _ => none
  | fuel + 1, c =>
      match c.symbol? "*" with
      | some c => if c.isAtWord "_" then some c.next else captureName? c
      | none => pattern fuel c

/-- The entries of a table pattern up to its closing brace. What takes the other entries stands
last. -/
def entryPatterns : Nat → Cursor → Option Cursor
  | 0, _ => none
  | fuel + 1, c =>
      match c.symbol? "**" with
      | some c => do
          let c ← captureName? c
          ((c.symbol? ",").getD c).symbol? "\x7d"
      | none => do
          let c ←
            match constantPattern? fuel c with
            | some c => some c
            | none => do
                let (names, c) ← dottedName fuel c
                if names = 1 then none else some c
          let c ← c.symbol? ":"
          let c ← pattern fuel c
          match c.symbol? ",", c.symbol? "\x7d" with
          | some c, _ =>
              match c.symbol? "\x7d" with
              | some c => some c
              | none => entryPatterns fuel c
          | none, closed => closed

/-- The patterns of a class up to the closing bracket: those with a name stand last. -/
def classPatterns : Nat → ClassPatternStage → Cursor → Option Cursor
  | 0, _, _ => none
  | fuel + 1, stage, c =>
      match c.symbol? ")" with
      | some c => some c
      | none => do
          let named := c.name?.bind fun (_, c) => c.symbol? "="
          let stage ← stage.after (c.isAtWord "_") named.isSome
          let c ← pattern fuel (named.getD c)
          match c.symbol? "," with
          | some c => classPatterns fuel stage c
          | none => c.symbol? ")"

end

/-- The patterns of a branch: one, or several of a sequence. -/
def branchPatterns (fuel : Nat) (c : Cursor) : Option Cursor := do
  let (several, after) ← commaPatterns (spreadPattern fuel) fuel c
  if !several && c.isAtSymbol "*" then none else some after

end MarkerLint.Source
