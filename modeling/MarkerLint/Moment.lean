import MarkerLint.Calendar

/-!
# Moments in time

Days, times of day, and days with a time of day, which may come with an offset from the standard
time. Configuration files may hold them.
-/

namespace MarkerLint

/-- A time of day. -/
structure TimeOfDay where
  hour : Nat
  minute : Nat
  second : Nat
  microsecond : Nat
deriving DecidableEq, Repr

/-- A moment in time. -/
inductive Moment where
  | date (d : Calendar.Date)
  | time (t : TimeOfDay)
  /-- A day with a time of day, and the minutes by which its clock is ahead of the standard time if
  they are known. -/
  | dateTime (d : Calendar.Date) (t : TimeOfDay) (offset : Option Int)
deriving DecidableEq, Repr

/-- A number in decimal, with zeros before it up to a width. -/
def zeroFilled (width n : Nat) : String :=
  let digits := Nat.toDigits 10 n
  String.ofList (List.replicate (width - digits.length) '0' ++ digits)

/-- The written form of a day. -/
def Calendar.Date.text (d : Calendar.Date) : String :=
  zeroFilled 4 d.year ++ "-" ++ zeroFilled 2 d.month ++ "-" ++ zeroFilled 2 d.day

/-- The written form of a time of day: microseconds are left out if there are none. -/
def TimeOfDay.text (t : TimeOfDay) : String :=
  zeroFilled 2 t.hour ++ ":" ++ zeroFilled 2 t.minute ++ ":" ++ zeroFilled 2 t.second
    ++ if t.microsecond = 0 then "" else "." ++ zeroFilled 6 t.microsecond

/-- The written form of an offset. -/
def offsetText (minutes : Int) : String :=
  (if minutes < 0 then "-" else "+") ++ zeroFilled 2 (minutes.natAbs / 60) ++ ":"
    ++ zeroFilled 2 (minutes.natAbs % 60)

/-- The numbers of a day. -/
def Calendar.Date.numbers (d : Calendar.Date) : List Nat :=
  [d.year, d.month, d.day]

/-- The numbers of a time of day; zeros at its end are left out, but not the minute. -/
def TimeOfDay.numbers (t : TimeOfDay) : List Nat :=
  if t.microsecond ≠ 0 then [t.hour, t.minute, t.second, t.microsecond]
  else if t.second ≠ 0 then [t.hour, t.minute, t.second]
  else [t.hour, t.minute]

/-- An offset as the call that makes it. A negative one is counted up from a whole day back. -/
def offsetCall (minutes : Int) : String :=
  if minutes = 0 then "datetime.timezone.utc"
  else
    "datetime.timezone(datetime.timedelta(" ++
      (if minutes < 0 then "days=-1, seconds=" ++ toString (86400 + minutes * 60)
        else "seconds=" ++ toString (minutes * 60)) ++ "))"

namespace Moment

/-- The text of a moment. -/
def text : Moment → String
  | .date d => d.text
  | .time t => t.text
  | .dateTime d t offset =>
      d.text ++ " " ++ t.text ++ (offset.map offsetText).getD ""

/-- A call with numbers and then other arguments. -/
def callText (name : String) (numbers : List Nat) (others : List String) : String :=
  name ++ "(" ++ String.intercalate ", " (numbers.map toString ++ others) ++ ")"

/-- A moment as it stands inside another value: as the call that makes it. -/
def call : Moment → String
  | .date d => callText "datetime.date" d.numbers []
  | .time t => callText "datetime.time" t.numbers []
  | .dateTime d t offset =>
      callText "datetime.datetime" (d.numbers ++ t.numbers)
        ((offset.map fun minutes => "tzinfo=" ++ offsetCall minutes).toList)

end Moment

end MarkerLint
