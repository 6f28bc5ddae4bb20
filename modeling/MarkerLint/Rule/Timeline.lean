import MarkerLint.Calendar
import MarkerLint.Rule

/-!
# Timelines of initiatives

An initiative needs a timeline with a start and an end that name days, the end not before the start.
A date of the right form that names no day is not compared.
-/

namespace MarkerLint.Rule

open Calendar

/-- The text in the written form of a date that a value is. -/
def dateText? (v : Datum) : Option String :=
  v.string?.filter hasDateForm

/-- The finding on a start and an end in the written form of dates. -/
def dateFindings (name : CodeText) (start finish : String) : List Finding :=
  match date? start, date? finish with
  | some s, some f =>
      if f.before s then [⟨"endBeforeStart", [("name", name), ("start", start), ("end", finish)]⟩]
      else []
  | _, _ => []

/-- The finding on the start and the end of a timeline. -/
def boundsFindings (name : CodeText) (start finish : Datum) : List Finding :=
  if start.isBlank || finish.isBlank then [⟨"invalidTimeline", [("name", name)]⟩]
  else
    match dateText? start, dateText? finish with
    | some s, some f => dateFindings name s f
    | _, _ => [⟨"invalidDateFormat", [("name", name)]⟩]

/-- The finding on a timeline. -/
def timelineFinding (name : CodeText) (timeline : Datum) : List Finding :=
  if timeline.isBlank then [⟨"missingTimeline", [("name", name)]⟩]
  else
    match timeline with
    | .table entries =>
        boundsFindings name ((Table.get? ("start" : CodeText) entries).getD .null)
          ((Table.get? ("end" : CodeText) entries).getD .null)
    | _ => [⟨"invalidTimeline", [("name", name)]⟩]

/-- The findings on the timeline of an initiative. -/
def timelineFindings (m : Marker) : Except Fault (List Finding) :=
  (fun name => timelineFinding name (m.get "timeline")) <$> (m.get "name").displayName

/-- A timeline has a start and an end in order. -/
def initiativeTimeline : Rule where
  id := "initiative-timeline-validation"
  type := .problem
  description := "Initiative timelines should be valid and properly structured."
  markerNames := ["BusinessInitiative"]
  messageIds := ["missingTimeline", "invalidTimeline", "endBeforeStart", "invalidDateFormat"]
  findings := timelineFindings

end MarkerLint.Rule
