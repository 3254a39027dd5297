import ImageBuild.Change.Summary
import ImageBuild.Proofs.Change.Required
import ImageBuild.Proofs.Text.Cut

/-!
# What a summary says

A summary of changes exists unless one of them cannot be decided, and then it
is the summary of those that require a build: the guard of `ChangeSummary.new`
never refuses it. Its reasons are joined with commas, which no reason contains,
so that they can be told apart again.
-/
namespace ImageBuild

namespace BuildReason

theorem text_ne_empty (r : BuildReason) : r.text ≠ "" := by cases r <;> decide

theorem text_injective {r q : BuildReason} (h : r.text = q.text) : r = q := by
  have hq : ofText? r.text = some q := h ▸ ofText?_text q
  exact Option.some.inj ((ofText?_text r).symm.trans hq)

theorem comma_free_text (r : BuildReason) : ∀ c ∈ r.text.toList, (c == ',') = false := by
  have hall : r.text.toList.all (fun c => !(c == ',')) = true := by cases r <;> decide
  intro c hc
  simpa using List.all_eq_true.1 hall c hc

end BuildReason

theorem ChangeRecord.payload_ne_empty (rs : List ChangeRecord) : payload rs ≠ "" := by
  intro h
  have hl : (Json.arr (rs.map toJson)).compactChars = [] := by
    simpa [payload, Json.compact] using congrArg String.toList h
  cases rs <;> simp [Json.compactChars, Json.scalar] at hl

namespace ChangeSummary

/-- The summary of changes that all require a build. -/
def ofRequired (cs : List Change) : ChangeSummary where
  hasChanges := !cs.isEmpty
  reasons := ",".intercalate (cs.map fun c => c.reason.text)
  changes := if cs.isEmpty then "" else ChangeRecord.payload (cs.map Change.record)
  priority := (cs.map Change.priority).foldl Priority.max .none

theorem toList_reasons (cs : List Change) :
    (ofRequired cs).reasons.toList =
      [','].intercalate (cs.map fun c => c.reason.text.toList) := by
  simp [ofRequired, Function.comp_def]

theorem cut_reasons {cs : List Change} (h : cs ≠ []) :
    Text.cut (· == ',') (ofRequired cs).reasons.toList =
      cs.map fun c => c.reason.text.toList := by
  rw [toList_reasons]
  apply Text.cut_intercalate
  · decide
  · simpa using h
  · intro s hs
    obtain ⟨c, -, rfl⟩ := List.mem_map.1 hs
    exact c.reason.comma_free_text

/-- Cutting the joined reasons gives them back, one for each change. -/
theorem reasonList_ofRequired (cs : List Change) :
    (ofRequired cs).reasonList = cs.map fun c => c.reason.text := by
  by_cases h : cs = []
  · subst h
    decide
  · have hfilter : (cs.map fun c => c.reason.text.toList).filter (fun r => !r.isEmpty) =
        cs.map fun c => c.reason.text.toList := by
      rw [List.filter_eq_self]
      intro s hs
      obtain ⟨c, -, rfl⟩ := List.mem_map.1 hs
      simpa using c.reason.text_ne_empty
    rw [reasonList, cut_reasons h, hfilter]
    simp [Function.comp_def]

/-- Joined reasons are equal only if the reasons are. -/
theorem reasons_eq_iff {cs ds : List Change} :
    (ofRequired cs).reasons = (ofRequired ds).reasons ↔
      cs.map Change.reason = ds.map Change.reason := by
  constructor
  · intro h
    have hlist : (ofRequired cs).reasonList = (ofRequired ds).reasonList := by
      rw [reasonList, reasonList, h]
    rw [reasonList_ofRequired, reasonList_ofRequired] at hlist
    have hmap : (cs.map Change.reason).map BuildReason.text =
        (ds.map Change.reason).map BuildReason.text := by
      simpa [Function.comp_def] using hlist
    exact (List.map_inj_right fun _ _ => BuildReason.text_injective).1 hmap
  · intro h
    have hmap := congrArg (List.map BuildReason.text) h
    simp only [List.map_map, Function.comp_def] at hmap
    rw [ofRequired, ofRequired, hmap]

theorem reasons_eq_text_iff {cs : List Change} {r : BuildReason} :
    (ofRequired cs).reasons = r.text ↔ cs.map Change.reason = [r] := by
  have h : (ofRequired [.buildpacks r [] []]).reasons = r.text := by
    simp [ofRequired, Change.reason]
  rw [← h, reasons_eq_iff]
  rfl

theorem reasons_eq_empty_iff {cs : List Change} : (ofRequired cs).reasons = "" ↔ cs = [] := by
  have h : (ofRequired []).reasons = "" := rfl
  rw [← h, reasons_eq_iff]
  simp

/-- Reasons, payload and flag agree about whether there is a change at all. -/
theorem new_ofRequired (cs : List Change) :
    new (ofRequired cs).hasChanges (ofRequired cs).reasons (ofRequired cs).changes
      (ofRequired cs).priority = .ok (ofRequired cs) := by
  have hreasons : (ofRequired cs).reasons.isEmpty = cs.isEmpty := by
    rw [Bool.eq_iff_iff, String.isEmpty_iff, List.isEmpty_iff]
    exact reasons_eq_empty_iff
  have hchanges : (ofRequired cs).changes.isEmpty = cs.isEmpty := by
    rw [Bool.eq_iff_iff, String.isEmpty_iff, List.isEmpty_iff]
    by_cases h : cs = []
    · simp [ofRequired, h]
    · simp [ofRequired, h, ChangeRecord.payload_ne_empty]
  rw [new, if_pos ⟨by rw [hreasons]; rfl, by rw [hchanges]; rfl⟩]

theorem ofChanges_of_failures_eq_nil {cs : List Change} (h : failures cs = []) :
    ofChanges cs = .ok (ofRequired (requiredChanges cs)) := by
  rw [ofChanges, if_neg (by simpa using h)]
  exact new_ofRequired (requiredChanges cs)

theorem ofChanges_of_failures_ne_nil {cs : List Change} (h : failures cs ≠ []) :
    ofChanges cs = .error (.evaluation (failures cs)) := by
  rw [ofChanges, if_pos h]

theorem ofChanges_eq_ok_iff {cs : List Change} {s : ChangeSummary} :
    ofChanges cs = .ok s ↔ failures cs = [] ∧ s = ofRequired (requiredChanges cs) := by
  by_cases h : failures cs = []
  · simp [ofChanges_of_failures_eq_nil h, h, eq_comm]
  · simp [ofChanges_of_failures_ne_nil h, h]

theorem ofChanges_eq_error_iff {cs : List Change} {e : ChangeError} :
    ofChanges cs = .error e ↔ failures cs ≠ [] ∧ e = .evaluation (failures cs) := by
  by_cases h : failures cs = []
  · simp [ofChanges_of_failures_eq_nil h, h]
  · simp [ofChanges_of_failures_ne_nil h, h, eq_comm]

theorem requiredChanges_append (cs ds : List Change) :
    requiredChanges (cs ++ ds) = requiredChanges cs ++ requiredChanges ds := List.filter_append ..

theorem failures_append (cs ds : List Change) : failures (cs ++ ds) = failures cs ++ failures ds :=
  List.filterMap_append

theorem mem_requiredChanges {cs : List Change} {c : Change} :
    c ∈ requiredChanges cs ↔ c ∈ cs ∧ c.required = .ok true := by
  rw [requiredChanges, List.mem_filter]
  cases h : c.required <;> simp

/-- A change that does not require a build leaves no trace. -/
theorem requiredChanges_singleton_of_not {c : Change} (h : c.required ≠ .ok true) :
    requiredChanges [c] = [] := by
  rw [List.eq_nil_iff_forall_not_mem]
  intro d hd
  obtain ⟨hmem, hrequired⟩ := mem_requiredChanges.1 hd
  exact h (List.mem_singleton.1 hmem ▸ hrequired)

theorem failures_eq_nil_iff {cs : List Change} :
    failures cs = [] ↔ ∀ c ∈ cs, ∀ e, c.required ≠ .error e := by
  rw [failures, List.filterMap_eq_nil_iff]
  constructor
  · intro h c hc e he
    simpa [he] using h c hc
  · intro h c hc
    cases hr : c.required with
    | error e => exact absurd hr (h c hc e)
    | ok b => rfl

end ChangeSummary

end ImageBuild
