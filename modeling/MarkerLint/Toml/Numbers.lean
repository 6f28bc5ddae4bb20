import MarkerLint.Calendar
import MarkerLint.Number.Fraction
import MarkerLint.Value

/-!
# Numbers and dates in configuration files

Integers in four bases, fractions, the words for infinity and for what is no number, and dates and
times. The longest form that fits is taken; what is left over is the business of the reader.
-/

namespace MarkerLint.Toml

/-- Why a document could not be read. -/
inductive Failure where
  /-- It does not have the form of a document. -/
  | malformed
  /-- It holds a decimal integer beyond the digit limit. -/
  | longInteger (digits : Nat)
deriving DecidableEq, Repr

/-- An integer in base two, eight or sixteen. -/
def prefixed? : List Char → Option (Nat × List Char)
  | '0' :: mark :: rest =>
      let (base, isDigit) :=
        if mark == 'x' then (16, Digits.isHex)
        else if mark == 'o' then (8, Digits.isOctal)
        else if mark == 'b' then (2, Digits.isBinary)
        else (0, fun _ => false)
      match Digits.run isDigit rest with
      | ([], _) => none
      | (digits, rest) => some (Digits.number base digits, rest)
  | _ => none

/-- A sign and the rest. -/
def sign : List Char → Bool × List Char
  | '-' :: rest => (true, rest)
  | '+' :: rest => (false, rest)
  | cs => (false, cs)

/-- The digits before the point: no zero stands before others. -/
def wholePart : List Char → List Char × List Char
  | '0' :: rest => (['0'], rest)
  | cs => Digits.run Text.isAsciiDigit cs

/-- The digits after a point, if there are any. -/
def places : List Char → Option (List Char) × List Char
  | '.' :: rest =>
      match Digits.run Text.isAsciiDigit rest with
      | ([], _) => (none, '.' :: rest)
      | (digits, rest) => (some digits, rest)
  | cs => (none, cs)

/-- An exponent, if there is one. -/
def exponent (cs : List Char) : Option Int × List Char :=
  match cs with
  | [] => (none, [])
  | mark :: rest =>
      if mark != 'e' && mark != 'E' then (none, cs)
      else
        let (negative, rest) := sign rest
        match Digits.run Text.isAsciiDigit rest with
        | ([], _) => (none, cs)
        | (digits, rest) =>
            let n : Int := Digits.number 10 digits
            (some (if negative then -n else n), rest)

/-- A decimal integer or a fraction. -/
def decimal? (cs : List Char) : Option (Except Failure (Value × List Char)) :=
  let (negative, cs) := sign cs
  match wholePart cs with
  | ([], _) => none
  | (whole, rest) =>
      let (fraction, rest) := places rest
      let (power, rest) := exponent rest
      if fraction.isSome || power.isSome then
        let x := (Fraction.mk whole (fraction.getD []) (power.getD 0)).value
        some (.ok (.float (if negative then x.neg else x), rest))
      else if whole.length > digitLimit then some (.error (.longInteger whole.length))
      else
        let n : Int := Digits.number 10 whole
        some (.ok (.integer (if negative then -n else n), rest))

/-- A word for infinity or for what is no number. -/
def special? (cs : List Char) : Option (Value × List Char) :=
  match sign cs with
  | (negative, 'i' :: 'n' :: 'f' :: rest) => some (.float (.infinite negative), rest)
  | (_, 'n' :: 'a' :: 'n' :: rest) => some (.float .nan, rest)
  | _ => none

/-- A number of any form. -/
def number? (cs : List Char) : Option (Except Failure (Value × List Char)) :=
  match prefixed? cs with
  | some (n, rest) => some (.ok (.integer n, rest))
  | none =>
      match decimal? cs with
      | some r => some r
      | none => (special? cs).map .ok

/-- Two digits with a value in bounds. -/
def twoDigits? (low high : Nat) : List Char → Option (Nat × List Char)
  | a :: b :: rest =>
      if Text.isAsciiDigit a && Text.isAsciiDigit b then
        let n := Digits.number 10 [a, b]
        if low ≤ n ∧ n ≤ high then some (n, rest) else none
      else none
  | _ => none

/-- The rest after one character of a set. -/
def afterOne? (allowed : List Char) : List Char → Option (List Char)
  | c :: rest => if allowed.contains c then some rest else none
  | [] => none

/-- The microseconds that a fraction of a second is cut to, none if there is no fraction, and the
rest. -/
def microseconds : List Char → Nat × List Char
  | '.' :: c :: rest =>
      if Text.isAsciiDigit c then
        let places := (c :: rest.takeWhile Text.isAsciiDigit).take 6
        let filled := places ++ List.replicate (6 - places.length) '0'
        (Digits.number 10 filled, rest.dropWhile Text.isAsciiDigit)
      else (0, '.' :: c :: rest)
  | cs => (0, cs)

/-- A time of day, and the rest. -/
def timeOfDay? (cs : List Char) : Option (TimeOfDay × List Char) := do
  let (hour, cs) ← twoDigits? 0 23 cs
  let cs ← afterOne? [':'] cs
  let (minute, cs) ← twoDigits? 0 59 cs
  let cs ← afterOne? [':'] cs
  let (second, cs) ← twoDigits? 0 59 cs
  let (micro, cs) := microseconds cs
  some (⟨hour, minute, second, micro⟩, cs)

/-- An offset from the standard time in minutes: its sign, hours and minutes. -/
def signedOffset? (cs : List Char) : Option (Int × List Char) := do
  let rest ← afterOne? ['+', '-'] cs
  let (hours, rest) ← twoDigits? 0 23 rest
  let rest ← afterOne? [':'] rest
  let (minutes, rest) ← twoDigits? 0 59 rest
  let ahead : Int := hours * 60 + minutes
  some (if cs.head? = some '-' then -ahead else ahead, rest)

/-- An offset from the standard time, if there is one, and the rest. -/
def offset (cs : List Char) : Option Int × List Char :=
  match afterOne? ['Z', 'z'] cs with
  | some rest => (some 0, rest)
  | none =>
      match signedOffset? cs with
      | some (minutes, rest) => (some minutes, rest)
      | none => (none, cs)

/-- A day with the time of day that follows it, if one does, and the rest. -/
def momentOn (d : Calendar.Date) (cs : List Char) : Moment × List Char :=
  match (afterOne? ['T', 't', ' '] cs).bind timeOfDay? with
  | some (t, rest) =>
      let (minutes, rest) := offset rest
      (.dateTime d t minutes, rest)
  | none => (.date d, cs)

/-- A date, with or without a time of day. There must be such a day. -/
def date? (cs : List Char) : Option (Except Failure (Value × List Char)) :=
  match cs with
  | a :: b :: c :: d :: rest => do
      if !([a, b, c, d].all Text.isAsciiDigit) then none
      let rest ← afterOne? ['-'] rest
      let (month, rest) ← twoDigits? 1 12 rest
      let rest ← afterOne? ['-'] rest
      let (day, rest) ← twoDigits? 1 31 rest
      let date : Calendar.Date := ⟨Digits.number 10 [a, b, c, d], month, day⟩
      if date.isDay then
        let (m, rest) := momentOn date rest
        some (.ok (.moment m, rest))
      else some (.error .malformed)
  | _ => none

/-- A time of day for itself. -/
def time? (cs : List Char) : Option (Value × List Char) :=
  (timeOfDay? cs).map fun (t, rest) => (.moment (.time t), rest)

end MarkerLint.Toml
