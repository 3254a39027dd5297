import ImageBuild.Proofs.Change.Summary

/-!
# Changes that cannot be decided

A change that cannot be decided leaves a list of changes without a summary, wherever it
stands and whatever the others require. The changes can be gone through one at a time:
a failure does not end the pass, so that the error tells of all such changes in their
order. The main statement is `ofChanges_collects`.
-/
namespace ImageBuild

/-- The changes that cannot be decided have these causes, in their order. Changes that
are decided, required or not, add none. -/
inductive Change.Undecided : List Change → List StackError → Prop
  | nil : Undecided [] []
  | failed {c : Change} {cs : List Change} {cause : StackError} {causes : List StackError}
      (h : c.required = .error cause) (hs : Undecided cs causes) :
      Undecided (c :: cs) (cause :: causes)
  | decided {c : Change} {cs : List Change} {b : Bool} {causes : List StackError}
      (h : c.required = .ok b) (hs : Undecided cs causes) : Undecided (c :: cs) causes

namespace ChangeSummary

/-- What is known after some changes: the causes of failures, and what there is to tell
of the changes that require a build. -/
structure Tally where
  causes : List StackError
  reasons : List String
  records : List ChangeRecord
  priority : Priority

namespace Tally

/-- The tally of no changes. -/
def empty : Tally := ⟨[], [], [], .none⟩

/-- The tally with one more change. -/
def add (t : Tally) (c : Change) : Tally :=
  match c.required with
  | .error cause => { t with causes := t.causes ++ [cause] }
  | .ok false => t
  | .ok true =>
    { t with
      reasons := t.reasons ++ [c.reason.text]
      records := t.records ++ [c.record]
      priority := t.priority.max c.priority }

/-- The summary of all changes of a tally, unless one of them has failed. -/
def summary (t : Tally) : Except ChangeError ChangeSummary :=
  if t.causes ≠ [] then .error (.evaluation t.causes)
  else
    new (!t.records.isEmpty) (",".intercalate t.reasons)
      (if t.records.isEmpty then "" else ChangeRecord.payload t.records) t.priority

/-- The tally that belongs to a list of changes. -/
def of (cs : List Change) : Tally where
  causes := failures cs
  reasons := (requiredChanges cs).map fun c => c.reason.text
  records := (requiredChanges cs).map Change.record
  priority := ((requiredChanges cs).map Change.priority).foldl Priority.max .none

theorem add_of (cs : List Change) (c : Change) : (of cs).add c = of (cs ++ [c]) := by
  rw [add, of, of, failures_append, requiredChanges_append]
  cases h : c.required with
  | error cause => simp [failures, requiredChanges, h]
  | ok b => cases b <;> simp [failures, requiredChanges, h]

theorem foldl_add (cs ds : List Change) : ds.foldl add (of cs) = of (cs ++ ds) := by
  induction ds generalizing cs with
  | nil => rw [List.append_nil, List.foldl_nil]
  | cons d ds ih => rw [List.foldl_cons, add_of, ih, List.append_assoc, List.singleton_append]

theorem summary_of (cs : List Change) : (of cs).summary = ofChanges cs := by
  simp [summary, of, ofChanges]

/-- Going through the changes one at a time gives their summary. -/
theorem summary_foldl (cs : List Change) : (cs.foldl add empty).summary = ofChanges cs := by
  have hfold : cs.foldl add empty = of cs := foldl_add [] cs
  rw [hfold, summary_of]

end Tally

open Change (Undecided)

variable {cs : List Change}

theorem undecided_failures (cs : List Change) : Undecided cs (failures cs) := by
  induction cs with
  | nil => exact .nil
  | cons c cs ih =>
    cases h : c.required with
    | error cause =>
      have hcauses : failures (c :: cs) = cause :: failures cs := by simp [failures, h]
      exact hcauses ▸ .failed h ih
    | ok b =>
      have hcauses : failures (c :: cs) = failures cs := by simp [failures, h]
      exact hcauses ▸ .decided h ih

theorem failures_ne_nil_iff : failures cs ≠ [] ↔ ∃ c ∈ cs, ∃ cause, c.required = .error cause := by
  simp only [ne_eq, failures_eq_nil_iff, Classical.not_forall, Classical.not_not, exists_prop]

/-- There is no summary exactly if some change cannot be decided, and the error tells of
all such changes, in their order and with their messages. No summary is refused because
it contradicts itself: that of decided changes passes the check. Going through the changes
one at a time gives the same. -/
theorem ofChanges_collects (cs : List Change) :
    ((∃ e, ofChanges cs = .error e) ↔ ∃ c ∈ cs, ∃ cause, c.required = .error cause) ∧
      (∃ causes, Undecided cs causes ∧ ∀ e, ofChanges cs = .error e → e = .evaluation causes ∧
        e.message = "evaluating changes: " ++ "; ".intercalate (causes.map StackError.message)) ∧
      ofChanges cs ≠ .error .inconsistent ∧
      ((∀ c ∈ cs, ∃ b, c.required = .ok b) → ∃ s, ofChanges cs = .ok s ∧
        new s.hasChanges s.reasons s.changes s.priority = .ok s) ∧
      (cs.foldl Tally.add .empty).summary = ofChanges cs := by
  refine ⟨?_, ⟨failures cs, undecided_failures cs, ?_⟩, ?_, ?_, Tally.summary_foldl cs⟩
  · rw [← failures_ne_nil_iff]
    simp only [ofChanges_eq_error_iff, exists_and_left, exists_eq, and_true]
  · intro e he
    obtain ⟨-, rfl⟩ := ofChanges_eq_error_iff.1 he
    exact ⟨rfl, rfl⟩
  · intro h
    cases (ofChanges_eq_error_iff.1 h).2
  · intro h
    have hnil : failures cs = [] := by
      rw [failures_eq_nil_iff]
      intro c hc e he
      obtain ⟨b, hb⟩ := h c hc
      cases hb.symm.trans he
    exact ⟨_, ofChanges_of_failures_eq_nil hnil, new_ofRequired (requiredChanges cs)⟩

/-- Run images that cannot be compared, beside a change that requires a build and one
that requires none. -/
def mixedChanges : List Change :=
  [.commit "a" "b", .stack "host/a" "host/b", .trigger "", .stack "Bad Ref" "host/a"]

theorem mixedChanges_collected :
    (∃ c ∈ mixedChanges, ∃ cause, c.required = .error cause) ∧
      ∃ e, ofChanges mixedChanges = .error e ∧ e.message =
        "evaluating changes: run image 'host/a' has no digest; " ++
          "run image 'host/b' has no digest; " ++
          "parsing run image 'Bad Ref': invalid reference format; " ++
          "run image 'host/a' has no digest" := by
  have hundecided : ∃ c ∈ mixedChanges, ∃ cause, c.required = .error cause :=
    failures_ne_nil_iff.1 (by decide +kernel)
  obtain ⟨e, he⟩ := (ofChanges_collects mixedChanges).1.2 hundecided
  refine ⟨hundecided, e, he, ?_⟩
  rw [(ofChanges_eq_error_iff.1 he).2]
  decide +kernel

end ChangeSummary

end ImageBuild
