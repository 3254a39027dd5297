import ImageBuild.Text.Cut

/-!
# Texts joined at a separator

Parts that are free of separators come back from the text that joins them. The
joined text of no parts is the exception: it is cut into one empty part. A cut
at the first separator gives what precedes it.
-/
namespace ImageBuild.Text

variable {p : Char → Bool}

theorem takeWhile_append_of_head? {s rest : List Char} (hs : ∀ c ∈ s, p c = true)
    (hrest : ∀ c ∈ rest.head?, p c = false) : (s ++ rest).takeWhile p = s := by
  rw [List.takeWhile_append_of_pos hs]
  cases rest with
  | nil => rw [List.takeWhile_nil, List.append_nil]
  | cons c rest => rw [List.takeWhile_cons_of_neg (by simp [hrest c rfl]), List.append_nil]

theorem dropWhile_append_of_head? {s rest : List Char} (hs : ∀ c ∈ s, p c = true)
    (hrest : ∀ c ∈ rest.head?, p c = false) : (s ++ rest).dropWhile p = rest := by
  rw [List.dropWhile_append_of_pos hs]
  cases rest with
  | nil => rfl
  | cons c rest => rw [List.dropWhile_cons_of_neg (by simp [hrest c rfl])]

theorem not_separator_of_mem_cut {s part : List Char} (h : part ∈ cut p s) :
    ∀ c ∈ part, p c = false := by
  induction s generalizing part with
  | nil =>
    obtain rfl := List.mem_singleton.1 h
    simp
  | cons c cs ih =>
    rw [cut] at h
    split at h
    next =>
      rcases List.mem_cons.1 h with rfl | h
      · simp
      · exact ih h
    next hc =>
      split at h
      next hnil => exact absurd hnil (cut_ne_nil p cs)
      next l ls hcut =>
        rcases List.mem_cons.1 h with rfl | h
        · have hl := ih (hcut ▸ List.mem_cons_self)
          exact List.forall_mem_cons.2 ⟨by simpa using hc, hl⟩
        · exact ih (hcut ▸ List.mem_cons_of_mem l h)

/-- Each character stands in a part or separates two of them. -/
theorem exists_part_of_mem {s : List Char} {c : Char} (h : c ∈ s) :
    p c = true ∨ ∃ part ∈ cut p s, c ∈ part := by
  induction s with
  | nil => cases h
  | cons d ds ih =>
    rw [cut]
    split
    next hd =>
      rcases List.mem_cons.1 h with rfl | h
      · exact .inl hd
      · refine (ih h).imp_right ?_
        rintro ⟨part, hpart, hc⟩
        exact ⟨part, List.mem_cons_of_mem _ hpart, hc⟩
    next =>
      split
      next hnil => exact absurd hnil (cut_ne_nil p ds)
      next l ls hcut =>
        rcases List.mem_cons.1 h with rfl | h
        · exact .inr ⟨_, List.mem_cons_self, List.mem_cons_self⟩
        · refine (ih h).imp_right ?_
          rw [hcut]
          rintro ⟨part, hpart, hc⟩
          rcases List.mem_cons.1 hpart with rfl | hpart
          · exact ⟨_, List.mem_cons_self, List.mem_cons_of_mem d hc⟩
          · exact ⟨part, List.mem_cons_of_mem _ hpart, hc⟩

theorem cut_of_free {s : List Char} (h : ∀ c ∈ s, p c = false) : cut p s = [s] := by
  induction s with
  | nil => rfl
  | cons c cs ih =>
    have hc : p c = false := h c List.mem_cons_self
    have hcs : cut p cs = [cs] := ih fun d hd => h d (List.mem_cons_of_mem c hd)
    simp [cut, hc, hcs]

/-- The first separator ends the first part. -/
theorem cut_append_separator {s : List Char} {sep : Char} (h : ∀ c ∈ s, p c = false)
    (hsep : p sep = true) (rest : List Char) :
    cut p (s ++ sep :: rest) = s :: cut p rest := by
  induction s with
  | nil => simp [cut, hsep]
  | cons c cs ih =>
    have hc : p c = false := h c List.mem_cons_self
    have hcs := ih fun d hd => h d (List.mem_cons_of_mem c hd)
    rw [List.cons_append, cut, hcs]
    simp [hc]

theorem cut_intercalate {sep : Char} (hsep : p sep = true) {parts : List (List Char)}
    (hne : parts ≠ []) (h : ∀ s ∈ parts, ∀ c ∈ s, p c = false) :
    cut p ([sep].intercalate parts) = parts := by
  induction parts with
  | nil => exact absurd rfl hne
  | cons s ss ih =>
    have hs : ∀ c ∈ s, p c = false := h s List.mem_cons_self
    cases ss with
    | nil => rw [List.intercalate_singleton, cut_of_free hs]
    | cons t ts =>
      have hrest := ih (by simp) fun u hu => h u (List.mem_cons_of_mem s hu)
      rw [List.intercalate_cons_cons, List.append_assoc, List.singleton_append,
        cut_append_separator hs hsep, hrest]

theorem cutFirst_append {sep : Char} {s : List Char} (h : sep ∉ s) (rest : List Char) :
    cutFirst sep (s ++ sep :: rest) = (s, some rest) := by
  induction s with
  | nil => simp [cutFirst]
  | cons c cs ih =>
    obtain ⟨hc, hcs⟩ := not_or.1 (mt List.mem_cons.2 h)
    rw [List.cons_append, cutFirst, if_neg (Ne.symm hc), ih hcs]

/-- What was cut is put together again. -/
theorem eq_append_of_cutFirst {sep : Char} {s lead rest : List Char}
    (h : cutFirst sep s = (lead, some rest)) : s = lead ++ sep :: rest := by
  induction s generalizing lead with
  | nil => cases h
  | cons c cs ih =>
    rw [cutFirst] at h
    split at h
    next hc =>
      cases h
      rw [hc, List.nil_append]
    next =>
      obtain ⟨rfl, hrest⟩ := Prod.mk.inj h
      rw [List.cons_append, ← ih (Prod.ext rfl hrest)]

theorem prefix_fst_cutFirst (sep : Char) (s : List Char) : (cutFirst sep s).1 <+: s := by
  induction s with
  | nil => exact List.prefix_rfl
  | cons c cs ih =>
    rw [cutFirst]
    split
    · exact List.nil_prefix
    · exact List.cons_prefix_cons.2 ⟨rfl, ih⟩

theorem mem_cutFirst_of_mem (sep : Char) {c : Char} {s : List Char} (h : c ∈ s) :
    c = sep ∨ c ∈ (cutFirst sep s).1 ∨ ∃ rest, (cutFirst sep s).2 = some rest ∧ c ∈ rest := by
  induction s with
  | nil => cases h
  | cons d ds ih =>
    rw [cutFirst]
    split
    next hd =>
      rcases List.mem_cons.1 h with rfl | h
      · exact .inl hd
      · exact .inr (.inr ⟨ds, rfl, h⟩)
    next =>
      rcases List.mem_cons.1 h with rfl | h
      · exact .inr (.inl List.mem_cons_self)
      · exact (ih h).imp_right (.imp_left (List.mem_cons_of_mem d))

end ImageBuild.Text
