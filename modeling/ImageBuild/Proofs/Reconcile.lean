import ImageBuild.Proofs.Change.History
import ImageBuild.Proofs.Plan.Rebase
import ImageBuild.Reconcile

/-!
# Runs of builds

A run decides about each snapshot by the snapshot of its last planned build alone. Once the
image was built on the stack of the builder it always will have been, and a further build is
a rebase exactly if a moved stack is all that requires it. The main statement is
`outcomes_follow`.
-/
namespace ImageBuild

/-- What an outcome tells of a snapshot, given the snapshot of the last planned build. -/
inductive RunOutcome.Decides (last s : BuildSnapshot) : RunOutcome → Prop
  | failed {e : ChangeError} (incomparable : last.Incomparable s) : Decides last s (.failed e)
  | unchanged (comparable : ¬ last.Incomparable s) (idle : ∀ r, ¬ last.Due s r) :
      Decides last s .unchanged
  | unplanned {e : PlanError} (comparable : ¬ last.Incomparable s) (due : ∃ r, last.Due s r) :
      Decides last s (.unplanned e)
  | planned {summary : ChangeSummary} {pod : Pod} (comparable : ¬ last.Incomparable s)
      (due : ∃ r, last.Due s r) (reasons : summary.reasonList = last.dueNames s)
      (rebase : pod.IsRebase ↔ ∀ r, last.Due s r ↔ r = .stack) :
      Decides last s (.planned summary pod)

/-- The snapshot of the last planned build after an outcome. -/
def RunOutcome.kept (last s : BuildSnapshot) : RunOutcome → BuildSnapshot
  | .planned _ _ => s
  | _ => last

/-- The outcomes decide about the snapshots one after the other. -/
inductive RunOutcome.Follow : BuildSnapshot → List BuildSnapshot → List RunOutcome → Prop
  | nil (last : BuildSnapshot) : Follow last [] []
  | cons {last s : BuildSnapshot} {ss : List BuildSnapshot} {o : RunOutcome} {os : List RunOutcome}
      (decides : o.Decides last s) (rest : Follow (o.kept last s) ss os) :
      Follow last (s :: ss) (o :: os)

namespace Run

/-- The image was built on the stack of the builder. -/
def OnStack (run : Run) : Prop :=
  ∃ build, run.request.lastBuild = some build ∧ build.stackId = run.builder.stackId

/-- The builder of a snapshot has the run image of the snapshot. -/
def builderFor (run : Run) (s : BuildSnapshot) : Builder :=
  { run.builder with runImage := s.runImage }

/-- The plan for a snapshot. -/
def planFor (now : Int64) (run : Run) (summary : ChangeSummary) (s : BuildSnapshot) :
    Except PlanError Pod :=
  plan (requestFor run.request summary s) ⟨run.builderFor s, [], [], .default, now⟩

variable {now : Int64} {run : Run} {s : BuildSnapshot} {image : String}

/-- What one step can do. -/
theorem step_cases (now : Int64) (run : Run) (s : BuildSnapshot) (image : String) :
    (∃ e, run.last.summarize s = .error e ∧ run.step now s image = (run, .failed e)) ∨
      ∃ summary, run.last.summarize s = .ok summary ∧
        (summary.hasChanges = false ∧ run.step now s image = (run, .unchanged) ∨
          summary.hasChanges = true ∧
            ((∃ e, run.planFor now summary s = .error e ∧
              run.step now s image =
                (⟨run.last, requestFor run.request summary s, run.builderFor s⟩, .unplanned e)) ∨
              ∃ pod, run.planFor now summary s = .ok pod ∧
                run.step now s image =
                  (⟨s, { requestFor run.request summary s with
                      lastBuild := some ⟨image, "", run.builder.stackId⟩ }, run.builderFor s⟩,
                    .planned summary pod))) := by
  unfold step
  cases hs : run.last.summarize s with
  | error e => exact .inl ⟨e, rfl, rfl⟩
  | ok summary =>
    refine .inr ⟨summary, rfl, ?_⟩
    cases hc : summary.hasChanges with
    | false => exact .inl ⟨rfl, by simp [hc]⟩
    | true =>
      refine .inr ⟨rfl, ?_⟩
      simp only [hc, Bool.not_true, Bool.false_eq_true, if_false]
      cases hp : run.planFor now summary s with
      | error e =>
        unfold planFor builderFor at hp
        exact .inl ⟨e, rfl, by simp only [hp]; rfl⟩
      | ok pod =>
        unfold planFor builderFor at hp
        exact .inr ⟨pod, rfl, by simp only [hp]; rfl⟩

/-- The request of a run on the stack of its builder can be served by a rebase, which is done
if a moved stack is the only reason. -/
theorem isRebase_iff_of_planFor {summary : ChangeSummary} {pod : Pod} (h : run.OnStack)
    (hs : run.last.summarize s = .ok summary) (hp : run.planFor now summary s = .ok pod) :
    pod.IsRebase ↔ ∀ r, run.last.Due s r ↔ r = .stack := by
  obtain ⟨hf, rfl⟩ := ChangeSummary.ofChanges_eq_ok_iff.1 hs
  have hc := BuildSnapshot.failures_changes_eq_nil_iff.1 hf
  rw [plan_isRebase_iff hp, BuildRequest.rebasable_iff, ← BuildSnapshot.dueReasons_eq_singleton_iff,
    ← BuildSnapshot.reasons_requiredChanges hc, ← ChangeSummary.reasons_eq_text_iff]
  exact and_iff_left h

/-- One step: the outcome decides about the snapshot. -/
theorem step_decides (h : run.OnStack) : (run.step now s image).2.Decides run.last s := by
  rcases step_cases now run s image with ⟨e, hs, hstep⟩ | ⟨summary, hs, hsteps⟩
  · rw [hstep]
    exact .failed (BuildSnapshot.summarize_eq_error_iff.1 ⟨e, hs⟩)
  · have hc :=
      BuildSnapshot.failures_changes_eq_nil_iff.1 (ChangeSummary.ofChanges_eq_ok_iff.1 hs).1
    have hdue := BuildSnapshot.hasChanges_iff hs
    rcases hsteps with ⟨hcalm, hstep⟩ | ⟨hchanges, ⟨e, -, hstep⟩ | ⟨pod, hp, hstep⟩⟩
    · rw [hstep]
      refine .unchanged hc fun r hr => ?_
      rw [hdue.2 ⟨r, hr⟩] at hcalm
      cases hcalm
    · rw [hstep]
      exact .unplanned hc (hdue.1 hchanges)
    · rw [hstep]
      exact .planned hc (hdue.1 hchanges) (BuildSnapshot.reasonList_eq_dueNames hs)
        (isRebase_iff_of_planFor h hs hp)

/-- One step: only a planned build is a new last build. -/
theorem last_step : (run.step now s image).1.last = (run.step now s image).2.kept run.last s := by
  rcases step_cases now run s image with
    ⟨e, -, hstep⟩ | ⟨summary, -, ⟨-, hstep⟩ | ⟨-, ⟨e, -, hstep⟩ | ⟨pod, -, hstep⟩⟩⟩
  all_goals
    rw [hstep]
    rfl

/-- One step: the image stays on the stack of the builder. -/
theorem OnStack.step (h : run.OnStack) : (run.step now s image).1.OnStack := by
  rcases step_cases now run s image with
    ⟨e, -, hstep⟩ | ⟨summary, -, ⟨-, hstep⟩ | ⟨-, ⟨e, -, hstep⟩ | ⟨pod, -, hstep⟩⟩⟩
  · rwa [hstep]
  · rwa [hstep]
  · rw [hstep]
    exact h
  · rw [hstep]
    exact ⟨_, rfl, rfl⟩

/-- The outcomes of a run whose image was built on the stack of the builder follow its
snapshots: each compares a snapshot with that of the last planned build, names the reasons
that are due, and has a rebase exactly if the stack is the only one. -/
theorem outcomes_follow (h : run.OnStack) (ss : List (BuildSnapshot × String)) :
    RunOutcome.Follow run.last (ss.map Prod.fst) (run.outcomes now ss) := by
  induction ss generalizing run with
  | nil => exact .nil run.last
  | cons s ss ih =>
    have hstep : (run.step now s.1 s.2).1.OnStack := h.step
    have hrest := ih hstep
    rw [last_step] at hrest
    exact .cons (step_decides h) hrest

end Run

end ImageBuild
