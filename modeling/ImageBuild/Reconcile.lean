import ImageBuild.Change.Summary
import ImageBuild.Plan.Pod

/-!
# Runs of builds

A run follows an image through its snapshots. The snapshot of the last planned
build is kept; a later one that requires a build is planned, and is then the
last one.
-/
namespace ImageBuild

/-- Where a run stands. -/
structure Run where
  last : BuildSnapshot
  request : BuildRequest
  builder : Builder
  deriving DecidableEq, Repr

/-- What becomes of one snapshot. -/
inductive RunOutcome where
  | failed (e : ChangeError)
  | unchanged
  | unplanned (e : PlanError)
  | planned (summary : ChangeSummary) (pod : Pod)
  deriving DecidableEq, Repr

namespace Run

/-- The request for a build of a snapshot. -/
def requestFor (r : BuildRequest) (summary : ChangeSummary) (s : BuildSnapshot) : BuildRequest :=
  { r with
    reasons := summary.reasons
    changes := summary.changes
    source := s.config.source
    env := s.config.env
    resources := s.config.resources
    services := s.config.services }

/-- The run after a snapshot, whose build leaves an image. -/
def step (now : Int64) (run : Run) (s : BuildSnapshot) (image : String) : Run × RunOutcome :=
  match run.last.summarize s with
  | .error e => (run, .failed e)
  | .ok summary =>
    if !summary.hasChanges then (run, .unchanged)
    else
      let request := requestFor run.request summary s
      let builder := { run.builder with runImage := s.runImage }
      match plan request ⟨builder, [], [], .default, now⟩ with
      | .error e => (⟨run.last, request, builder⟩, .unplanned e)
      | .ok pod =>
        (⟨s, { request with lastBuild := some ⟨image, "", builder.stackId⟩ }, builder⟩,
          .planned summary pod)

/-- The outcomes of a list of snapshots with the images of their builds. -/
def outcomes (now : Int64) (run : Run) : List (BuildSnapshot × String) → List RunOutcome
  | [] => []
  | (s, image) :: rest =>
    let (next, outcome) := run.step now s image
    outcome :: outcomes now next rest

end Run

end ImageBuild
