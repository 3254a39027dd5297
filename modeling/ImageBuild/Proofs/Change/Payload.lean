import ImageBuild.Proofs.Change.Summary
import ImageBuild.Proofs.Codec.Records
import Mathlib.Data.List.TakeWhile

/-!
# Payloads read back

The payload of a summary is the JSON text of its records. The values of a
change are exact and in key order, so that reading the payload gives the same
records again, whatever texts they hold. The main statement is
`ofChanges_restores`.
-/
namespace ImageBuild

open Json (units)

namespace Text

/-- A character that is not blank is never trimmed away. -/
theorem trim_ne_nil {c : Char} (h : isBlank c = false) (cs : List Char) : trim (c :: cs) ≠ [] := by
  intro hnil
  have hdrop : (c :: cs).dropWhile isBlank = c :: cs := by simp [h]
  rw [trim, hdrop, List.reverse_eq_nil_iff, List.dropWhile_eq_nil_iff] at hnil
  have hblank : isBlank c = true := hnil c (List.mem_reverse.2 List.mem_cons_self)
  rw [h] at hblank
  cases hblank

end Text

namespace ChangeRecord

/-- The values of the record are exact, in key order, and not nested too deep
for a part of a record. -/
structure Readable (r : ChangeRecord) : Prop where
  old_exact : r.old.Exact maxPartDepth
  new_exact : r.new.Exact maxPartDepth
  old_sorted : r.old.sorted = r.old
  new_sorted : r.new.sorted = r.new

variable {r : ChangeRecord} {rs : List ChangeRecord}

theorem part?_written {v : Json} (h : v.Exact maxPartDepth) : part? v.written = some v := by
  rw [part?, if_pos (Json.depth_written h), Json.value?_written h]

theorem toJson_exact (h : r.Readable) : r.toJson.Exact (maxPartDepth + 1) := by
  apply Json.Exact.obj
  simp only [List.forall_mem_cons]
  exact ⟨.str _, h.old_exact, h.new_exact, List.forall_mem_nil _⟩

theorem written_toJson (r : ChangeRecord) :
    r.toJson.written = .object [(units "reason", .string (units r.reason.text)),
      (units "old", r.old.written), (units "new", r.new.written)] :=
  rfl

theorem ofJson?_toJson (h : r.Readable) : ofJson? r.toJson = some r := by
  have hparts : ofParts r.reason.toJson r.old r.new = some r := by
    rw [ofParts, BuildReason.decode_toJson, h.old_sorted, h.new_sorted]
    rfl
  simpa [ofJson?, toJson, fieldNames, Json.field?] using hparts

theorem ofWritten?_written (h : r.Readable) : ofWritten? r.toJson.written = some r := by
  have hreason : part? (.string (units r.reason.text)) = some r.reason.toJson :=
    part?_written (.str _)
  have hfields : knownFields? [(units "reason", .string (units r.reason.text)),
      (units "old", r.old.written), (units "new", r.new.written)] =
        some [("reason", r.reason.toJson), ("old", r.old), ("new", r.new)] := by
    simp [knownFields?, fieldNames, Json.decodeString_units, hreason, part?_written h.old_exact,
      part?_written h.new_exact]
  rw [written_toJson, ofWritten?, hfields]
  exact ofJson?_toJson h

theorem mapM_ofWritten? (h : ∀ r ∈ rs, r.Readable) :
    (Json.writtenItems (rs.map toJson)).mapM ofWritten? = some rs := by
  induction rs with
  | nil => rfl
  | cons r rs ih =>
    obtain ⟨hr, hrs⟩ := List.forall_mem_cons.1 h
    simp [Json.writtenItems, ofWritten?_written hr, ih hrs]

theorem trim_payload_ne_nil (rs : List ChangeRecord) : Text.trim (payload rs).toList ≠ [] := by
  have hopen : ∃ cs, (payload rs).toList = '[' :: cs := by
    cases rs <;> simp [payload, Json.compact, Json.compactChars, Json.scalar]
  obtain ⟨cs, hcs⟩ := hopen
  rw [hcs]
  exact Text.trim_ne_nil (by decide) cs

/-- A payload of readable records has these records. -/
theorem ofPayload?_payload (h : ∀ r ∈ rs, r.Readable) : ofPayload? (payload rs) = some rs := by
  have hexact : (Json.arr (rs.map toJson)).Exact (maxPartDepth + 2) :=
    .arr (List.forall_mem_map.2 fun r hr => toJson_exact (h r hr))
  rw [ofPayload?, if_neg (by simpa using trim_payload_ne_nil rs), payload, Json.read_compact hexact]
  exact mapM_ofWritten? h

end ChangeRecord

namespace Change

/-- A configuration is nested five deep at most, and lists of buildpacks two. -/
theorem record_readable (c : Change) : c.record.Readable := by
  cases c with
  | trigger message => exact ⟨.str _, .str _, rfl, rfl⟩
  | commit old new => exact ⟨.str _, .str _, rfl, rfl⟩
  | stack old new => exact ⟨.str _, .str _, rfl, rfl⟩
  | config old new =>
    have hexact : ∀ c, (BuildConfig.codec.encode c).Exact (120 + 5) := fun c =>
      c.codec_keeps.exact_encode
    exact ⟨(hexact old).sorted, (hexact new).sorted, Json.sorted_sorted _, Json.sorted_sorted _⟩
  | buildpacks reason old new =>
    have hexact : ∀ bs, ((Codec.list Buildpack.codec).encode bs).Exact (123 + 2) := fun bs =>
      (Codec.list_keeps fun b _ => b.codec_keeps).exact_encode
    exact ⟨(hexact old).sorted, (hexact new).sorted, Json.sorted_sorted _, Json.sorted_sorted _⟩

end Change

namespace Priority

theorem le_refl (p : Priority) : p.le p = true := by simp [le]

theorem le_trans {p q r : Priority} (hpq : p.le q = true) (hqr : q.le r = true) :
    p.le r = true := by
  simp only [le, decide_eq_true_eq] at *
  omega

theorem le_max_left (p q : Priority) : p.le (p.max q) = true := by
  rw [max]
  split
  next h => exact h
  next => exact le_refl p

theorem le_max_right (p q : Priority) : q.le (p.max q) = true := by
  rw [max]
  split
  next => exact le_refl q
  next h =>
    simp only [le, decide_eq_true_eq] at *
    omega

theorem max_eq (p q : Priority) : p.max q = p ∨ p.max q = q := by
  rw [max]
  split
  · exact .inr rfl
  · exact .inl rfl

/-- Folding starts from a priority and ends at the greatest of it and the list. -/
theorem foldl_max (p : Priority) (ps : List Priority) :
    ps.foldl max p ∈ p :: ps ∧ ∀ q ∈ p :: ps, q.le (ps.foldl max p) = true := by
  induction ps generalizing p with
  | nil => simp [le_refl]
  | cons q ps ih =>
    obtain ⟨hmem, hle⟩ := ih (p.max q)
    obtain ⟨hstart, hrest⟩ := List.forall_mem_cons.1 hle
    rw [List.foldl_cons]
    constructor
    · rcases List.mem_cons.1 hmem with heq | hmem
      · rcases max_eq p q with h | h
        · rw [heq, h]
          exact List.mem_cons_self
        · rw [heq, h]
          exact List.mem_cons_of_mem p List.mem_cons_self
      · exact List.mem_cons_of_mem p (List.mem_cons_of_mem q hmem)
    · simp only [List.forall_mem_cons]
      exact ⟨le_trans (le_max_left p q) hstart, le_trans (le_max_right p q) hstart, hrest⟩

end Priority

/-- The urgency of a change is never that of no change. -/
theorem Change.not_priority_le_none (c : Change) : c.priority.le .none = false := by
  have hpriority : c.priority = .high ∨ c.priority = .low := by cases c <;> simp [priority]
  rcases hpriority with h | h
  · rw [h]
    decide
  · rw [h]
    decide

namespace ChangeSummary

/-- A summary tells of just these changes, in their order: in its payload, in
its reasons, in whether there are any, and in how urgent it is. -/
structure Restores (s : ChangeSummary) (required : List Change) : Prop where
  records : s.records = .ok (required.map fun c => ⟨c.reason, c.oldValue, c.newValue⟩)
  reasonList : ∀ rs, s.records = .ok rs → s.reasonList = rs.map fun r => r.reason.text
  payload : ∀ rs, s.records = .ok rs → rs ≠ [] → ChangeRecord.payload rs = s.changes
  hasChanges : s.hasChanges = true ↔ required ≠ []
  reasons : s.reasons ≠ "" ↔ required ≠ []
  changes : s.changes ≠ "" ↔ required ≠ []
  calm : required = [] → s.priority = .none
  urgent : required ≠ [] → s.priority ∈ required.map Change.priority
  greatest : ∀ c ∈ required, c.priority.le s.priority = true

theorem records_ofRequired (cs : List Change) :
    (ofRequired cs).records = .ok (cs.map Change.record) := by
  by_cases h : cs = []
  · subst h
    rfl
  · have hchanges : (ofRequired cs).changes = ChangeRecord.payload (cs.map Change.record) := by
      simp [ofRequired, h]
    have hreadable : ∀ r ∈ cs.map Change.record, r.Readable :=
      List.forall_mem_map.2 fun c _ => c.record_readable
    rw [records, hchanges, ChangeRecord.ofPayload?_payload hreadable]

theorem changes_eq_empty_iff {cs : List Change} : (ofRequired cs).changes = "" ↔ cs = [] := by
  by_cases h : cs = []
  · simp [ofRequired, h]
  · simp [ofRequired, h, ChangeRecord.payload_ne_empty]

theorem restores_ofRequired (cs : List Change) : (ofRequired cs).Restores cs := by
  have hrecords := records_ofRequired cs
  obtain ⟨hmem, hle⟩ := Priority.foldl_max .none (cs.map Change.priority)
  have hgreatest : ∀ c ∈ cs, c.priority.le (ofRequired cs).priority = true := fun c hc =>
    hle _ (List.mem_cons_of_mem _ (List.mem_map_of_mem hc))
  refine ⟨hrecords, ?_, ?_, ?_, ?_, ?_, ?_, ?_, hgreatest⟩
  · intro rs hrs
    cases hrecords.symm.trans hrs
    rw [reasonList_ofRequired, List.map_map]
    rfl
  · intro rs hrs hne
    cases hrecords.symm.trans hrs
    rw [ne_eq, List.map_eq_nil_iff] at hne
    simp [ofRequired, hne]
  · simp [ofRequired]
  · exact not_congr reasons_eq_empty_iff
  · exact not_congr changes_eq_empty_iff
  · rintro rfl
    rfl
  · intro hne
    obtain ⟨c, hc⟩ := List.exists_mem_of_ne_nil cs hne
    refine (List.mem_cons.1 hmem).resolve_left fun hnone => ?_
    have hcalm : c.priority.le .none = true := hnone ▸ hgreatest c hc
    rw [Change.not_priority_le_none] at hcalm
    cases hcalm

theorem requiredChanges_eq_filter (cs : List Change) :
    requiredChanges cs = cs.filter fun c => c.required = .ok true := by
  apply List.filter_congr
  intro c _
  cases c.required with
  | error e => simp
  | ok b => cases b <;> simp

/-- A summary of changes tells of just those that require a build. -/
theorem ofChanges_restores {cs : List Change} {s : ChangeSummary} (h : ofChanges cs = .ok s) :
    s.Restores (cs.filter fun c => c.required = .ok true) := by
  obtain ⟨-, rfl⟩ := ofChanges_eq_ok_iff.1 h
  rw [← requiredChanges_eq_filter]
  exact restores_ofRequired (requiredChanges cs)

/-- Changes with quotation marks, control characters and an integer at the end
of its range, and one that requires no build. -/
def escapedChanges : List Change :=
  let archive (strip : Int64) : BuildConfig :=
    ⟨[⟨"A\x01\"\\", .none, some ⟨.none, some ⟨.none, "metadata.name"⟩, .none, .none⟩⟩], .none,
      [.cnb ⟨"queue", "info", .none⟩], ⟨.blob ⟨"https://host/app.tgz", strip, false⟩, some "a\nb"⟩⟩
  [.commit "a" "a", .trigger "\x1f,\"", .config (archive 0) (archive Int64.maxValue),
    .buildpacks .stack [] [⟨"b", ""⟩, ⟨"a", "é"⟩]]

theorem escapedChanges_restored :
    ∃ s, ofChanges escapedChanges = .ok s ∧
      s.Restores (escapedChanges.filter fun c => c.required = .ok true) := by
  have hfailures : failures escapedChanges = [] := by decide
  have hs := ofChanges_of_failures_eq_nil hfailures
  exact ⟨_, hs, ofChanges_restores hs⟩

end ChangeSummary

end ImageBuild
