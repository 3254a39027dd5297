import ImageBuild.Proofs.Text.Cut
import ImageBuild.Version.Parser
import Mathlib.Data.List.TakeWhile

/-!
# Versions read back

The text of a version is read as the version: each part ends at a character
that cannot continue it. The short text has one dot and no other does, so that
the missing patch number is added to it alone. The main statement is
`parseText_text`.
-/
namespace ImageBuild.Version

open Text (takeWhile_append_of_head? dropWhile_append_of_head?)

variable {z : Bool} {part : VersionPart} {rest : List Char}

theorem number_digits (n : UInt64) (hrest : ∀ c ∈ rest.head?, c.isDigit = false) :
    number part (Nat.toDigits 10 n.toNat ++ rest) = .ok (n, rest) := by
  have hdigits : ∀ c ∈ Nat.toDigits 10 n.toNat, c.isDigit = true := fun c hc =>
    Decimal.isDigit_of_mem_toDigits hc
  have hzero : hasLeadingZero (Nat.toDigits 10 n.toNat) = false := by
    obtain ⟨d, ds, hds⟩ := List.exists_cons_of_ne_nil (Nat.toDigits_ne_nil (n := n.toNat) (b := 10))
    by_cases hd : d = '0'
    · have htail := Decimal.tail_toDigits_of_zero (hd ▸ hds)
      simp [hasLeadingZero, hds, htail]
    · simp [hasLeadingZero, hds, hd]
  unfold number
  simp only [takeWhile_append_of_head? hdigits hrest, dropWhile_append_of_head? hdigits hrest,
    Nat.toDigits_ne_nil, hzero, Nat.ofDigitChars_ten_toDigits, n.toNat_lt_size, if_false, dif_pos,
    Bool.false_eq_true, UInt64.ofNatLT_toNat]

theorem isSegment_iff {segment : List Char} :
    isSegment z segment = true ↔ segment ≠ [] ∧ (∀ c ∈ segment, isSegmentChar c = true) ∧
      (!z && hasLeadingZero segment) = false := by
  cases z <;> simp [isSegment, and_assoc]

theorem segments_last {segment : List Char} (h : isSegment z segment = true)
    (hrest : ∀ c ∈ rest.head?, isSegmentChar c = false) (hdot : rest.head? ≠ some '.') :
    segments z (segment ++ rest) = .ok (⟨[segment], by simp [h]⟩, rest) := by
  obtain ⟨hne, hchars, hzero⟩ := isSegment_iff.1 h
  have htake := takeWhile_append_of_head? hchars hrest
  have hdrop := dropWhile_append_of_head? hchars hrest
  rw [segments]
  simp only [htake, hne, hzero, dite_false, Bool.false_eq_true]
  split
  next more hmore =>
    rw [hdrop] at hmore
    exact absurd (by rw [hmore]; rfl) hdot
  next => simp [hdrop]

theorem segments_dot {segment more : List Char} {s : Segments z} (h : isSegment z segment = true)
    (hmore : segments z more = .ok (s, rest)) :
    segments z (segment ++ '.' :: more) =
      .ok (⟨segment :: s.list, by rw [List.all_cons, h, s.valid]; rfl⟩, rest) := by
  obtain ⟨hne, hchars, hzero⟩ := isSegment_iff.1 h
  have hdot : ∀ c ∈ ('.' :: more).head?, isSegmentChar c = false := by
    rintro c hc
    cases hc
    decide
  have htake := takeWhile_append_of_head? hchars hdot
  have hdrop := dropWhile_append_of_head? hchars hdot
  rw [segments]
  simp only [htake, hne, hzero, dite_false, Bool.false_eq_true]
  split
  next more' hmore' =>
    rw [hdrop] at hmore'
    obtain rfl := (List.cons.inj hmore').2
    simp [hmore]
  next hother => exact absurd hdrop (hother more)

/-- All segments are read up to a character that is in none of them and is no dot. -/
theorem segments_chars (s : Segments z) (hne : s.list ≠ [])
    (hrest : ∀ c ∈ rest.head?, isSegmentChar c = false) (hdot : rest.head? ≠ some '.') :
    segments z (s.chars ++ rest) = .ok (s, rest) := by
  obtain ⟨list, hvalid⟩ := s
  induction list with
  | nil => exact absurd rfl hne
  | cons segment more ih =>
    have hsegment : isSegment z segment = true := by
      rw [List.all_cons, Bool.and_eq_true] at hvalid
      exact hvalid.1
    have hmore : more.all (isSegment z) = true := by
      rw [List.all_cons, Bool.and_eq_true] at hvalid
      exact hvalid.2
    cases more with
    | nil =>
      rw [Segments.chars, List.intercalate_singleton]
      exact segments_last hsegment hrest hdot
    | cons next others =>
      have hchars : (⟨segment :: next :: others, hvalid⟩ : Segments z).chars ++ rest =
          segment ++ '.' :: ((⟨next :: others, hmore⟩ : Segments z).chars ++ rest) := by
        rw [Segments.chars, List.intercalate_cons_cons]
        simp [Segments.chars]
      rw [hchars]
      exact segments_dot hsegment (ih hmore (List.cons_ne_nil _ _))

theorem marked_suffix (mark : Char) (part : VersionPart) (s : Segments z) (rest : List Char)
    (hrest : ∀ c ∈ rest.head?, isSegmentChar c = false) (hdot : rest.head? ≠ some '.')
    (hmark : rest.head? ≠ some mark) :
    ∃ next, marked mark z part (suffix mark s ++ rest) = .ok (s, next, rest) := by
  unfold suffix
  by_cases hs : s.list = []
  · have hnone : s = .none := Segments.ext hs
    rw [if_pos hs, List.nil_append, hnone]
    cases rest with
    | nil => exact ⟨part, rfl⟩
    | cons c rest =>
      have hc : c ≠ mark := fun h => hmark (by rw [h]; rfl)
      exact ⟨part, by rw [marked, if_neg hc]⟩
  · rw [if_neg hs, List.cons_append, marked, if_pos rfl, segments_chars s hs hrest hdot]
    exact ⟨segmentPart z, rfl⟩

/-- A suffix begins with its mark, or with what follows it. -/
theorem head?_suffix {mark c : Char} {s : Segments z} (h : c ∈ (suffix mark s ++ rest).head?) :
    c = mark ∨ c ∈ rest.head? := by
  unfold suffix at h
  split at h
  · exact .inr h
  · exact .inl (Option.some.inj h).symm

theorem parse_chars (v : Version) : parse v.chars = .ok v := by
  have hdot : ∀ more : List Char, ∀ c ∈ ('.' :: more).head?, c.isDigit = false := by
    rintro more c hc
    cases hc
    decide
  have hbuildHead : ∀ c ∈ (suffix '+' v.build).head?, c = '+' := by
    intro c hc
    rw [← List.append_nil (suffix '+' v.build)] at hc
    exact (head?_suffix hc).resolve_right (by simp)
  have hpatch : ∀ c ∈ (suffix '-' v.pre ++ suffix '+' v.build).head?, c.isDigit = false := by
    intro c hc
    rcases head?_suffix hc with rfl | hc
    · decide
    · rw [hbuildHead c hc]
      decide
  obtain ⟨afterPre, hpre⟩ := marked_suffix '-' .patch v.pre (suffix '+' v.build)
    (fun c hc => by rw [hbuildHead c hc]; decide)
    (fun hc => absurd (hbuildHead _ hc) (by decide))
    (fun hc => absurd (hbuildHead _ hc) (by decide))
  obtain ⟨afterBuild, hbuild⟩ := marked_suffix '+' afterPre v.build []
    (by simp) (by simp) (by simp)
  have hne : v.chars ≠ [] := List.append_ne_nil_of_left_ne_nil Nat.toDigits_ne_nil _
  rw [List.append_nil] at hbuild
  unfold parse
  rw [if_neg hne]
  simp only [chars, number_digits _ (hdot _), number_digits _ hpatch, hpre, hbuild, dot, bind,
    Except.bind, pure, Except.pure]

theorem isSegmentChar_iff {c : Char} :
    isSegmentChar c = true ↔ (65 ≤ c.toNat ∧ c.toNat ≤ 90) ∨ (97 ≤ c.toNat ∧ c.toNat ≤ 122) ∨
      (48 ≤ c.toNat ∧ c.toNat ≤ 57) ∨ c = '-' := by
  have hranges : c.isAlphanum = (decide (65 ≤ c.val ∧ c.val ≤ 90) ||
      (97 ≤ c.val && c.val ≤ 122) || (48 ≤ c.val && c.val ≤ 57)) := rfl
  simp [isSegmentChar, hranges, UInt32.le_iff_toNat_le, or_assoc]

theorem isSegmentChar_of_isDigit {c : Char} (h : c.isDigit = true) : isSegmentChar c = true := by
  simp only [Char.isDigit, Bool.and_eq_true, decide_eq_true_eq] at h
  exact isSegmentChar_iff.2 (.inr (.inr (.inl h)))

theorem not_isBlank_of_isSegmentChar {c : Char} (h : isSegmentChar c = true) :
    Text.isBlank c = false := by
  have hrange : 33 ≤ c.toNat ∧ c.toNat ≤ 126 := by
    rcases isSegmentChar_iff.1 h with h | h | h | rfl
    case inr.inr.inr => decide
    all_goals omega
  simp [Text.isBlank]
  omega

theorem mem_segments {s : Segments z} {c : Char} (h : c ∈ s.chars) :
    isSegmentChar c = true ∨ c = '.' := by
  obtain ⟨list, hvalid⟩ := s
  rw [Segments.chars] at h
  induction list with
  | nil => simp at h
  | cons segment more ih =>
    obtain ⟨hsegment, hmore⟩ := List.forall_mem_cons.1 (List.all_eq_true.1 hvalid)
    have hchars := (isSegment_iff.1 hsegment).2.1
    cases more with
    | nil =>
      rw [List.intercalate_singleton] at h
      exact .inl (hchars c h)
    | cons next others =>
      rw [List.intercalate_cons_cons, List.append_assoc, List.mem_append, List.singleton_append,
        List.mem_cons] at h
      rcases h with h | rfl | h
      · exact .inl (hchars c h)
      · exact .inr rfl
      · exact ih (List.all_eq_true.2 hmore) h

theorem mem_suffix {mark : Char} {s : Segments z} {c : Char} (h : c ∈ suffix mark s) :
    isSegmentChar c = true ∨ c = '.' ∨ c = mark := by
  unfold suffix at h
  split at h
  · cases h
  · rcases List.mem_cons.1 h with rfl | h
    · exact .inr (.inr rfl)
    · exact (mem_segments h).imp_right .inl

theorem mem_chars {v : Version} {c : Char} (h : c ∈ v.chars) :
    isSegmentChar c = true ∨ c = '.' ∨ c = '-' ∨ c = '+' := by
  simp only [chars, List.mem_append, List.mem_cons] at h
  rcases h with h | rfl | h | rfl | h | h | h
  case inr.inl | inr.inr.inr.inl => exact .inr (.inl rfl)
  case inr.inr.inr.inr.inr.inl => exact (mem_suffix h).imp_right (.imp_right .inl)
  case inr.inr.inr.inr.inr.inr => exact (mem_suffix h).imp_right (.imp_right .inr)
  all_goals exact .inl (isSegmentChar_of_isDigit (Decimal.isDigit_of_mem_toDigits h))

theorem trim_eq_self {s : List Char} (h : ∀ c ∈ s, Text.isBlank c = false) : Text.trim s = s := by
  have hdrop : ∀ {t : List Char}, (∀ c ∈ t, Text.isBlank c = false) →
      t.dropWhile Text.isBlank = t := by
    intro t ht
    exact dropWhile_append_of_head? (s := []) (by simp) fun c hc => ht c (List.mem_of_mem_head? hc)
  rw [Text.trim, hdrop h, hdrop (by simpa using h), List.reverse_reverse]

/-- Blanks around a text are not part of what is left of it. -/
theorem trim_padded {before after : List Char} (hbefore : ∀ c ∈ before, Text.isBlank c = true)
    (hafter : ∀ c ∈ after, Text.isBlank c = true) (s : List Char) :
    Text.trim (before ++ s ++ after) = Text.trim s := by
  have hreverse : ∀ c ∈ after.reverse, Text.isBlank c = true := fun c hc =>
    hafter c (List.mem_reverse.1 hc)
  rw [Text.trim, Text.trim, List.append_assoc, List.dropWhile_append_of_pos hbefore]
  by_cases hs : s.dropWhile Text.isBlank = []
  · have hall : ∀ c ∈ s, Text.isBlank c = true := List.dropWhile_eq_nil_iff.1 hs
    rw [List.dropWhile_append_of_pos hall, hs, List.dropWhile_eq_nil_iff.2 hafter]
  · rw [List.dropWhile_append, if_neg (by simpa using hs), List.reverse_append,
      List.dropWhile_append_of_pos hreverse]

theorem count_dot_digits (n : Nat) : (Nat.toDigits 10 n).count '.' = 0 := by
  rw [List.count_eq_zero]
  intro h
  exact absurd (Decimal.isDigit_of_mem_toDigits h) (by decide)

/-- A full text has more than one dot. -/
theorem one_lt_count_dot (v : Version) : 1 < v.chars.count '.' := by
  simp only [chars, List.count_append, List.count_cons_self, count_dot_digits]
  omega

/-- A text is complete exactly if its dots say so. -/
theorem completed_shortChars (v : Version) :
    (if v.shortChars.count '.' = 1 then v.shortChars ++ ['.', '0'] else v.shortChars) =
      v.chars := by
  rw [shortChars]
  split
  next hshort =>
    obtain ⟨⟨hpatch, hpre⟩, hbuild⟩ : (v.patch = 0 ∧ v.pre.list = []) ∧ v.build.list = [] := by
      simpa [isShort] using hshort
    have hzero : Nat.toDigits 10 0 = ['0'] := rfl
    simp [count_dot_digits, chars, suffix, hpatch, hpre, hbuild, hzero]
  next =>
    rw [if_neg (Nat.ne_of_gt (one_lt_count_dot v))]

/-- The text of a version is read as the version. -/
theorem parseText_text (v : Version) : parseText v.text = .ok v := by
  have hshort : ∀ c ∈ v.shortChars, c ∈ v.chars := by
    intro c hc
    rw [← completed_shortChars]
    split
    · exact List.mem_append_left _ hc
    · exact hc
  have htrim : Text.trim v.shortChars = v.shortChars := by
    refine trim_eq_self fun c hc => ?_
    rcases mem_chars (hshort c hc) with hsegment | rfl | rfl | rfl
    · exact not_isBlank_of_isSegmentChar hsegment
    all_goals decide
  simp only [parseText, text, String.toList_ofList, htrim, completed_shortChars, parse_chars]

theorem parseText_padded {before after : List Char}
    (hbefore : ∀ c ∈ before, Text.isBlank c = true) (hafter : ∀ c ∈ after, Text.isBlank c = true)
    (s : String) : parseText (String.ofList (before ++ s.toList ++ after)) = parseText s := by
  simp only [parseText, String.toList_ofList, trim_padded hbefore hafter]

end ImageBuild.Version
