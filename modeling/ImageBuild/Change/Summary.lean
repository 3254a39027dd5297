import ImageBuild.Change.Snapshot
import ImageBuild.Text.Cut

/-!
# Summaries of changes

A summary says whether a build is required, why, and how urgent it is. Changes
that do not require a build leave no trace in it.
-/
namespace ImageBuild

open Codec Format

structure ChangeSummary where
  hasChanges : Bool
  /-- The reasons with commas between them. -/
  reasons : String
  /-- The payload of the records, or nothing. -/
  changes : String
  priority : Priority
  deriving DecidableEq, Repr

/-- Why there is no summary, or why it cannot be read. -/
inductive ChangeError where
  | stack (cause : StackError)
  | evaluation (causes : List StackError)
  | payload
  | inconsistent
  deriving DecidableEq, Repr

def ChangeError.message : ChangeError → String
  | .stack cause => cause.message
  | .evaluation causes => "evaluating changes: " ++ "; ".intercalate (causes.map StackError.message)
  | .payload => "decoding change payload"
  | .inconsistent => "invalid change summary"

namespace ChangeSummary

def codec : Codec ChangeSummary :=
  ((required "hasChanges" bool).and <| (required "reasons" text).and <|
    (required "changes" text).and <| required "priority" (int32.as Priority.mk Priority.level))
    |>.as (fun (has, reasons, changes, priority) => ⟨has, reasons, changes, priority⟩)
      (fun s => (s.hasChanges, s.reasons, s.changes, s.priority))
    |>.record

/-- A summary with changes has reasons and a payload; one without has neither. -/
def new (hasChanges : Bool) (reasons changes : String) (priority : Priority) :
    Except ChangeError ChangeSummary :=
  if hasChanges = !reasons.isEmpty ∧ hasChanges = !changes.isEmpty then
    .ok ⟨hasChanges, reasons, changes, priority⟩
  else .error .inconsistent

def reasonList (s : ChangeSummary) : List String :=
  ((Text.cut (· == ',') s.reasons.toList).filter fun r => !r.isEmpty).map String.ofList

def records (s : ChangeSummary) : Except ChangeError (List ChangeRecord) :=
  match ChangeRecord.ofPayload? s.changes with
  | some rs => .ok rs
  | Option.none => .error .payload

/-- The changes that cannot be evaluated. -/
def failures (cs : List Change) : List StackError :=
  cs.filterMap fun c =>
    match c.required with
    | .error e => some e
    | .ok _ => Option.none

/-- The changes that require a build. -/
def requiredChanges (cs : List Change) : List Change :=
  cs.filter fun c =>
    match c.required with
    | .ok b => b
    | .error _ => false

/-- The summary of a list of changes. One failure fails it all. -/
def ofChanges (cs : List Change) : Except ChangeError ChangeSummary :=
  if failures cs ≠ [] then .error (.evaluation (failures cs))
  else
    let required := requiredChanges cs
    new (!required.isEmpty)
      (",".intercalate (required.map fun c => c.reason.text))
      (if required.isEmpty then "" else ChangeRecord.payload (required.map Change.record))
      ((required.map Change.priority).foldl Priority.max .none)

end ChangeSummary

/-- The summary of the changes from one snapshot to another. -/
def BuildSnapshot.summarize (old new : BuildSnapshot) : Except ChangeError ChangeSummary :=
  ChangeSummary.ofChanges (old.changes new)

end ImageBuild
