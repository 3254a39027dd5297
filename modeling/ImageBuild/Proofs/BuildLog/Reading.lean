import ImageBuild.BuildLog
import ImageBuild.Proofs.LineDiff.Shortest
import ImageBuild.Proofs.Text.Cut
import Mathlib.Data.List.Forall2
import Mathlib.Logic.ExistsUnique

/-!
# Build logs read back

The lines of a build log tell its blocks apart, whatever the values hold: a
line of a comparison starts with a mark, an empty line precedes each block, and
no line of a value contains a line feed. So the reasons, the blocks and the
lines of all values come back from the text. The main statement is
`render_unambiguous`.
-/
namespace ImageBuild

open LineDiff (Entry)

namespace Text

theorem sublist_dropReturn (line : List Char) : (dropReturn line).Sublist line := by
  unfold dropReturn
  split
  · exact List.dropLast_sublist line
  · exact List.Sublist.refl line

theorem exists_part_of_mem_lines {s line : List Char} (h : line ∈ lines s) :
    ∃ part ∈ cutLines s, line.Sublist part := by
  have hclosed : ∀ line ∈ (cutLines s).dropLast.map dropReturn,
      ∃ part ∈ cutLines s, line.Sublist part := by
    rintro line hline
    obtain ⟨part, hpart, rfl⟩ := List.mem_map.1 hline
    exact ⟨part, (List.dropLast_sublist _).subset hpart, sublist_dropReturn part⟩
  simp only [lines] at h
  split at h
  next => exact hclosed line h
  next => exact hclosed line h
  next last _ hlast =>
    rcases List.mem_append.1 h with h | h
    · exact hclosed line h
    · rw [List.mem_singleton.1 h]
      exact ⟨last, List.mem_of_getLast? hlast, List.Sublist.refl last⟩

theorem lineFeed_not_mem {s line : String} (h : line ∈ linesOf s) : '\n' ∉ line.toList := by
  obtain ⟨cs, hcs, rfl⟩ := List.mem_map.1 h
  obtain ⟨part, hpart, hsub⟩ := exists_part_of_mem_lines hcs
  intro hmem
  rw [String.toList_ofList] at hmem
  exact absurd (not_separator_of_mem_cut hpart '\n' (hsub.subset hmem)) (by decide)

theorem beq_lineFeed_of_not_mem {l : List Char} (h : '\n' ∉ l) : ∀ c ∈ l, (c == '\n') = false := by
  intro c hc
  rw [beq_eq_false_iff_ne]
  rintro rfl
  exact h hc

/-- Complete lines are found again in the text that they make. -/
theorem cutLines_flatMap {ls : List (List Char)} (h : ∀ l ∈ ls, '\n' ∉ l) :
    cutLines (ls.flatMap (· ++ ['\n'])) = ls ++ [[]] := by
  induction ls with
  | nil => rfl
  | cons l ls ih =>
    obtain ⟨hl, hls⟩ := List.forall_mem_cons.1 h
    rw [List.flatMap_cons, List.append_assoc, List.singleton_append, cutLines,
      cut_append_separator (beq_lineFeed_of_not_mem hl) (by decide)]
    exact congrArg (l :: ·) (ih hls)

end Text

namespace BuildLog

/-- A line of a comparison, without its line feed. -/
def markedLine (e : Entry String) : List Char := (mark e ++ e.line).toList

/-- The lines of the comparison of a record. -/
def comparison (r : ChangeRecord) : List (List Char) := (entries r).map markedLine

def title (reason : BuildReason) : List Char := (reason.text ++ ":").toList

def header (reasons : String) : List Char := ("Build reason(s): " ++ reasons).toList

/-- The lines of a log: its header, and for each record an empty line, the reason
and the comparison. -/
def logLines (reasons : String) (records : List ChangeRecord) : List (List Char) :=
  header reasons :: records.flatMap fun r => [] :: title r.reason :: comparison r

/-- How a line of a comparison can start. -/
def marks : List (List Char) := ["\t  ".toList, "\t- ".toList, "\t+ ".toList]

theorem toList_block (r : ChangeRecord) :
    '\n' :: (block r).toList =
      ([] :: title r.reason :: comparison r).flatMap (· ++ ['\n']) := by
  have hfeed : "\n".toList = ['\n'] := rfl
  have hcolon : ":\n".toList = ":".toList ++ ['\n'] := rfl
  simp only [block, title, comparison, markedLine, entryText, String.toList_append,
    String.toList_join, List.flatMap_map, List.flatMap_cons, hfeed, hcolon, List.nil_append,
    List.append_assoc, List.singleton_append]

theorem toList_render (reasons : String) (records : List ChangeRecord) :
    (render reasons records).toList = (logLines reasons records).flatMap (· ++ ['\n']) := by
  have hfeed : "\n".toList = ['\n'] := rfl
  have hblocks : (String.join (records.map fun r => "\n" ++ block r)).toList =
      (records.flatMap fun r => [] :: title r.reason :: comparison r).flatMap (· ++ ['\n']) := by
    rw [String.toList_join, List.flatMap_map, List.flatMap_assoc]
    simp only [String.toList_append, hfeed, List.singleton_append, toList_block]
  have hlines : (logLines reasons records).flatMap (· ++ ['\n']) =
      (header reasons ++ ['\n']) ++
        (records.flatMap fun r => [] :: title r.reason :: comparison r).flatMap (· ++ ['\n']) :=
    List.flatMap_cons
  rw [hlines, ← hblocks]
  unfold render header
  rw [String.toList_append, String.toList_append, hfeed]

/-- What a block tells of a record. -/
structure Block where
  reason : BuildReason
  old : List String
  new : List String
  deriving DecidableEq, Repr

/-- How a value is shown: a text as it is, null as nothing, any other value as its YAML. -/
inductive Rendered : Json → String → Prop
  | text (s : String) : Rendered (.str s) s
  | null : Rendered .null ""
  | yaml {v : Json} (hnull : v ≠ .null) (htext : ∀ s, v ≠ .str s) : Rendered v (Yaml.print v)

/-- The lines that a value is shown with. -/
def ShownAs (v : Json) (lines : List String) : Prop :=
  ∃ s, Rendered v s ∧ lines = Text.linesOf s

/-- A block tells the reason of a record and the lines of its two values. -/
structure Block.Tells (b : Block) (r : ChangeRecord) : Prop where
  reason : b.reason = r.reason
  old : ShownAs r.old b.old
  new : ShownAs r.new b.new

/-- The block of a record. -/
def Block.of (r : ChangeRecord) : Block :=
  ⟨r.reason, Text.linesOf (valueText r.old), Text.linesOf (valueText r.new)⟩

/-- The entry of a line with a mark. -/
def unmark? : List Char → Option (Entry String)
  | '\t' :: ' ' :: ' ' :: line => some (.same (String.ofList line))
  | '\t' :: '-' :: ' ' :: line => some (.removed (String.ofList line))
  | '\t' :: '+' :: ' ' :: line => some (.added (String.ofList line))
  | _ => none

/-- The reason of a title. -/
def reason? (line : List Char) : Option BuildReason :=
  BuildReason.all.find? fun r => title r == line

/-- The entries before the first block, and the blocks. -/
def readBlocks? : List (List Char) → Option (List (Entry String) × List Block)
  | [] => some ([], [])
  | [] :: line :: lines =>
    match reason? line, readBlocks? lines with
    | some reason, some (es, blocks) =>
      some ([], ⟨reason, es.filterMap Entry.old?, es.filterMap Entry.new?⟩ :: blocks)
    | _, _ => none
  | line :: lines =>
    match unmark? line, readBlocks? lines with
    | some e, some (es, blocks) => some (e :: es, blocks)
    | _, _ => none

/-- The rest of a header. -/
def reasons? (line : List Char) : Option String :=
  if header "" <+: line then some (String.ofList (line.drop (header "").length)) else none

/-- The reasons and the blocks of a log. Its last line is complete. -/
def read? (log : String) : Option (String × List Block) :=
  let lines := Text.cutLines log.toList
  match lines.dropLast, lines.getLast? with
  | first :: lines, some [] =>
    match reasons? first, readBlocks? lines with
    | some reasons, some ([], blocks) => some (reasons, blocks)
    | _, _ => none
  | _, _ => none

/-- Each value is shown in one way only. -/
theorem rendered_iff {v : Json} {s : String} : Rendered v s ↔ s = valueText v := by
  constructor
  · rintro (_ | _ | ⟨hnull, htext⟩)
    · rfl
    · rfl
    · cases v with
      | null => exact absurd rfl hnull
      | str s => exact absurd rfl (htext s)
      | _ => rfl
  · rintro rfl
    cases v with
    | null => exact .null
    | str s => exact .text s
    | _ => exact .yaml nofun nofun

theorem shownAs_iff {v : Json} {lines : List String} :
    ShownAs v lines ↔ lines = Text.linesOf (valueText v) := by
  simp only [ShownAs, rendered_iff, exists_eq_left]

theorem Block.tells_iff {b : Block} {r : ChangeRecord} : b.Tells r ↔ b = Block.of r := by
  constructor
  · rintro ⟨hreason, hold, hnew⟩
    rw [Block.of, ← hreason, ← shownAs_iff.1 hold, ← shownAs_iff.1 hnew]
  · rintro rfl
    exact ⟨rfl, shownAs_iff.2 rfl, shownAs_iff.2 rfl⟩

/-- Only the blocks of the records tell of them. -/
theorem Block.forall₂_tells_iff {blocks : List Block} {records : List ChangeRecord} :
    List.Forall₂ Block.Tells blocks records ↔ blocks = records.map Block.of := by
  calc List.Forall₂ Block.Tells blocks records
      ↔ List.Forall₂ (· = ·) blocks (records.map Block.of) := by
        rw [List.forall₂_map_right_iff]
        exact ⟨.imp fun _ _ => Block.tells_iff.1, .imp fun _ _ => Block.tells_iff.2⟩
    _ ↔ blocks = records.map Block.of := by rw [List.forall₂_eq_eq_eq]

theorem unmark?_markedLine (e : Entry String) : unmark? (markedLine e) = some e := by
  cases e <;> simp [markedLine, mark, unmark?, Entry.line]

theorem reason?_title (reason : BuildReason) : reason? (title reason) = some reason := by
  cases reason <;> decide

theorem entries_isScript (r : ChangeRecord) :
    LineDiff.IsScript (Text.linesOf (valueText r.old)) (Text.linesOf (valueText r.new))
      (entries r) := by
  rw [entries, LineDiff.diff_eq_best]
  exact LineDiff.best_isScript _ _

/-- Each entry has a line of one of the values. -/
theorem lineFeed_not_mem_entry {r : ChangeRecord} {e : Entry String} (h : e ∈ entries r) :
    '\n' ∉ e.line.toList := by
  have hscript := entries_isScript r
  cases e with
  | same line | removed line =>
    apply Text.lineFeed_not_mem (s := valueText r.old)
    rw [← hscript.old]
    exact List.mem_filterMap.2 ⟨_, h, rfl⟩
  | added line =>
    apply Text.lineFeed_not_mem (s := valueText r.new)
    rw [← hscript.new]
    exact List.mem_filterMap.2 ⟨_, h, rfl⟩

theorem lineFeed_not_mem_markedLine {r : ChangeRecord} {e : Entry String} (h : e ∈ entries r) :
    '\n' ∉ markedLine e := by
  have hmark : '\n' ∉ (mark e).toList := by cases e <;> simp [mark]
  rw [markedLine, String.toList_append, List.mem_append, not_or]
  exact ⟨hmark, lineFeed_not_mem_entry h⟩

theorem lineFeed_not_mem_title (reason : BuildReason) : '\n' ∉ title reason := by
  cases reason <;> decide

theorem lineFeed_not_mem_logLines {reasons : String} (h : '\n' ∉ reasons.toList)
    (records : List ChangeRecord) : ∀ l ∈ logLines reasons records, '\n' ∉ l := by
  intro l hl
  rcases List.mem_cons.1 hl with rfl | hl
  · have hlead : '\n' ∉ "Build reason(s): ".toList := by decide
    rw [header, String.toList_append, List.mem_append, not_or]
    exact ⟨hlead, h⟩
  · obtain ⟨r, -, hl⟩ := List.mem_flatMap.1 hl
    rcases List.mem_cons.1 hl with rfl | hl
    · exact List.not_mem_nil
    rcases List.mem_cons.1 hl with rfl | hl
    · exact lineFeed_not_mem_title r.reason
    · obtain ⟨e, he, rfl⟩ := List.mem_map.1 hl
      exact lineFeed_not_mem_markedLine he

theorem markedLine_ne_nil (e : Entry String) : markedLine e ≠ [] := by
  cases e <;> simp [markedLine, mark]

theorem readBlocks?_comparison (es : List (Entry String)) {lines : List (List Char)}
    {blocks : List Block} (h : readBlocks? lines = some ([], blocks)) :
    readBlocks? (es.map markedLine ++ lines) = some (es, blocks) := by
  induction es with
  | nil => exact h
  | cons e es ih =>
    obtain ⟨c, cs, hcs⟩ := List.exists_cons_of_ne_nil (markedLine_ne_nil e)
    have hunmark := unmark?_markedLine e
    rw [hcs] at hunmark
    rw [List.map_cons, List.cons_append, hcs, readBlocks?, hunmark, ih]
    simp

theorem readBlocks?_blocks (records : List ChangeRecord) :
    readBlocks? (records.flatMap fun r => [] :: title r.reason :: comparison r) =
      some ([], records.map Block.of) := by
  induction records with
  | nil => rfl
  | cons r rs ih =>
    have hscript := entries_isScript r
    have hlines := readBlocks?_comparison (entries r) ih
    rw [List.flatMap_cons, List.cons_append, List.cons_append, readBlocks?, reason?_title]
    simp only [comparison] at hlines ⊢
    rw [hlines]
    simp [Block.of, hscript.old, hscript.new]

theorem reasons?_header (reasons : String) : reasons? (header reasons) = some reasons := by
  have hheader : header reasons = header "" ++ reasons.toList := by
    simp only [header, String.toList_append, String.toList_empty, List.append_nil]
  rw [reasons?, hheader, if_pos (List.prefix_append _ _), List.drop_left, String.ofList_toList]

/-- Marks are of one length, so that no line starts with two of them. -/
theorem existsUnique_mark (e : Entry String) : ∃! p, p ∈ marks ∧ p <+: markedLine e := by
  have hlength : ∀ p ∈ marks, p.length = 3 := by decide
  have hmem : (mark e).toList ∈ marks := by cases e <;> simp [mark, marks]
  have hlead : (mark e).toList <+: markedLine e := by
    rw [markedLine, String.toList_append]
    exact List.prefix_append _ _
  refine ⟨(mark e).toList, ⟨hmem, hlead⟩, ?_⟩
  rintro p ⟨hp, hpl⟩
  have hsame : p.length = (mark e).toList.length := (hlength p hp).trans (hlength _ hmem).symm
  exact (List.prefix_of_prefix_length_le hpl hlead (Nat.le_of_eq hsame)).eq_of_length hsame

/-- The lines of one side of a comparison. -/
theorem side_comparison (side : Entry String → Option String) (r : ChangeRecord) :
    ((comparison r).filterMap fun l => (unmark? l).bind side) = (entries r).filterMap side := by
  rw [comparison, List.filterMap_map]
  exact congrArg (List.filterMap · (entries r)) (funext fun e => by simp [unmark?_markedLine])

/-- A log consists of complete lines: the reasons, and for each record an empty
line, the reason and the comparison, whose marked lines give the lines of the two
values. All of this can be read back, so that no value is taken for another part
of the log. -/
theorem render_unambiguous {reasons : String} (h : '\n' ∉ reasons.toList)
    (records : List ChangeRecord) :
    Text.cutLines (render reasons records).toList =
        (header reasons ::
          records.flatMap fun r => [] :: title r.reason :: comparison r) ++ [[]] ∧
      (∀ r ∈ records,
        (∀ l ∈ comparison r, ∃! p, p ∈ marks ∧ p <+: l) ∧
        ShownAs r.old ((comparison r).filterMap fun l => (unmark? l).bind Entry.old?) ∧
        ShownAs r.new ((comparison r).filterMap fun l => (unmark? l).bind Entry.new?)) ∧
      ∃ blocks, read? (render reasons records) = some (reasons, blocks) ∧
        List.Forall₂ Block.Tells blocks records := by
  have hlines : Text.cutLines (render reasons records).toList =
      logLines reasons records ++ [[]] := by
    rw [toList_render]
    exact Text.cutLines_flatMap (lineFeed_not_mem_logLines h records)
  refine ⟨hlines, fun r _ => ⟨?_, ?_, ?_⟩, records.map Block.of, ?_, Block.forall₂_tells_iff.2 rfl⟩
  · intro l hl
    obtain ⟨e, -, rfl⟩ := List.mem_map.1 hl
    exact existsUnique_mark e
  · rw [side_comparison, shownAs_iff]
    exact (entries_isScript r).old
  · rw [side_comparison, shownAs_iff]
    exact (entries_isScript r).new
  · have hblocks := readBlocks?_blocks records
    simp only [read?, hlines, List.dropLast_concat, List.getLast?_concat, logLines,
      reasons?_header, hblocks]

/-- Records with a value that looks like another block, with null and with other values. -/
def disguisedRecords : List ChangeRecord :=
  [⟨.commit, .str "a\n\nSTACK:\n\t- b", .str "a\r\n\t+ b\n"⟩,
    ⟨.config, .null, .obj [("env", .arr [.int 1, .str "\n"]), ("null", .null)]⟩,
    ⟨.buildpack, .int 7, .bool true⟩]

theorem disguisedRecords_read :
    '\n' ∉ "COMMIT".toList ∧
      read? (render "COMMIT" disguisedRecords) = some ("COMMIT",
        [⟨.commit, ["a", "", "STACK:", "\t- b"], ["a", "\t+ b"]⟩,
          ⟨.config, [], ["env:", "- 1", "- |2+", "", "'null': null"]⟩,
          ⟨.buildpack, ["7"], ["true"]⟩]) := by
  have hreasons : '\n' ∉ "COMMIT".toList := by decide
  obtain ⟨blocks, hread, htells⟩ := (render_unambiguous hreasons disguisedRecords).2.2
  have hblocks : disguisedRecords.map Block.of =
      [⟨.commit, ["a", "", "STACK:", "\t- b"], ["a", "\t+ b"]⟩,
        ⟨.config, [], ["env:", "- 1", "- |2+", "", "'null': null"]⟩,
        ⟨.buildpack, ["7"], ["true"]⟩] := by
    decide +kernel
  rw [Block.forall₂_tells_iff.1 htells, hblocks] at hread
  exact ⟨hreasons, hread⟩

end BuildLog

end ImageBuild
