import ImageBuild.ImageReference
import ImageBuild.Proofs.Text.Cut
import Mathlib.Data.List.SplitBy

/-!
# References are single lines

No part of an image reference may hold a line feed, and the characters between the parts are
none. The main statement is `lineFeed_not_mem_of_parse`.
-/
namespace ImageBuild

namespace Text

/-- The characters of words are no line feeds. -/
theorem isWordChar_lineFeed : isWordChar '\n' = false := by decide +kernel

theorem not_mem_of_all {p : Char → Bool} {c : Char} {cs : List Char} (h : cs.all p = true)
    (hc : p c = false) : c ∉ cs := fun hmem =>
  Bool.eq_false_iff.1 hc (List.all_eq_true.1 h c hmem)

end Text

namespace ImageReference

variable {cs : List Char} {s : String} {reference : ImageReference}

theorem mem_splitTag_of_mem {c : Char} (h : c ∈ cs) :
    c = ':' ∨ c ∈ (splitTag cs).1 ∨ ∃ tag, (splitTag cs).2 = some tag ∧ c ∈ tag := by
  unfold splitTag
  dsimp only
  split
  next rest hrest =>
    have hcs := List.takeWhile_append_dropWhile (p := fun c => c != ':' && c != '/')
      (l := cs.reverse)
    rw [hrest] at hcs
    have hmem : c ∈ cs.reverse := List.mem_reverse.2 h
    rw [← hcs, List.mem_append, List.mem_cons] at hmem
    rcases hmem with hmem | rfl | hmem
    · exact .inr (.inr ⟨_, rfl, List.mem_reverse.2 hmem⟩)
    · exact .inl rfl
    · exact .inr (.inl (List.mem_reverse.2 hmem))
  next => exact .inr (.inl h)

theorem lineFeed_not_mem_of_isComponent (h : isComponent cs = true) : '\n' ∉ cs := by
  intro hmem
  rw [← List.flatten_splitBy (fun a b => isLowerAlphanum a == isLowerAlphanum b) cs] at hmem
  obtain ⟨run, hrun, hmem⟩ := List.mem_flatten.1 hmem
  simp only [isComponent, Bool.and_eq_true] at h
  have hkind := List.all_eq_true.1 h.2 run hrun
  rw [Bool.or_eq_true] at hkind
  rcases hkind with hkind | hkind
  · exact Text.not_mem_of_all hkind (by decide) hmem
  · simp only [isSeparatorRun, Bool.or_eq_true, beq_iff_eq] at hkind
    rcases hkind with ((rfl | rfl) | rfl) | hkind
    · exact absurd hmem (by decide)
    · exact absurd hmem (by decide)
    · exact absurd hmem (by decide)
    · exact Text.not_mem_of_all hkind (by decide) hmem

theorem lineFeed_not_mem_of_isLabel (h : isLabel cs = true) : '\n' ∉ cs := by
  simp only [isLabel, Bool.and_eq_true] at h
  exact Text.not_mem_of_all h.1.1 (by decide)

theorem lineFeed_not_mem_of_isAddress (h : isAddress cs = true) : '\n' ∉ cs := by
  intro hmem
  simp only [isAddress, Bool.and_eq_true] at h
  rcases Text.mem_cutFirst_of_mem ':' hmem with hsep | hhost | ⟨port, hport, hmem⟩
  · exact absurd hsep (by decide)
  · rcases Text.exists_part_of_mem (p := (· == '.')) hhost with hdot | ⟨part, hpart, hmem⟩
    · exact absurd hdot (by decide)
    · exact lineFeed_not_mem_of_isLabel (List.all_eq_true.1 h.1 part hpart) hmem
  · have hdigits := h.2
    rw [hport] at hdigits
    simp only [Bool.and_eq_true] at hdigits
    exact Text.not_mem_of_all hdigits.2 (by decide) hmem

theorem lineFeed_not_mem_of_isName (h : isName cs = true) : '\n' ∉ cs := by
  intro hmem
  rcases Text.exists_part_of_mem (p := (· == '/')) hmem with hslash | ⟨part, hpart, hmem⟩
  · exact absurd hslash (by decide)
  · unfold isName at h
    split at h
    · cases h
    next first rest hcut =>
      rw [hcut] at hpart
      simp only [Bool.and_eq_true, Bool.or_eq_true] at h
      rcases List.mem_cons.1 hpart with rfl | hpart
      · rcases h.2 with hfirst | ⟨hfirst, -⟩
        · exact lineFeed_not_mem_of_isComponent hfirst hmem
        · exact lineFeed_not_mem_of_isAddress hfirst hmem
      · exact lineFeed_not_mem_of_isComponent (List.all_eq_true.1 h.1 part hpart) hmem

theorem lineFeed_not_mem_of_isTag (h : isTag cs = true) : '\n' ∉ cs := by
  unfold isTag at h
  split at h
  · cases h
  next c rest =>
    simp only [Bool.and_eq_true] at h
    have hrest : '\n' ∉ rest := Text.not_mem_of_all h.2 (by rw [Text.isWordChar_lineFeed]; decide)
    intro hmem
    rcases List.mem_cons.1 hmem with rfl | hmem
    · exact absurd (Text.isWordChar_lineFeed.symm.trans h.1.1) (by decide)
    · exact hrest hmem

theorem lineFeed_not_mem_of_isAlgorithm (h : isAlgorithm cs = true) : '\n' ∉ cs := by
  intro hmem
  rcases Text.exists_part_of_mem
      (p := fun c => c == '-' || c == '_' || c == '+' || c == '.') hmem with
    hmark | ⟨part, hpart, hmem⟩
  · exact absurd hmark (by decide)
  · have hletters := List.all_eq_true.1 h part hpart
    rw [Bool.and_eq_true] at hletters
    exact Text.not_mem_of_all hletters.2 (by decide) hmem

theorem lineFeed_not_mem_of_isDigest (h : isDigest cs = true) : '\n' ∉ cs := by
  intro hmem
  unfold isDigest at h
  split at h
  next algorithm checksum hcut =>
    simp only [Bool.and_eq_true] at h
    have hparts := Text.mem_cutFirst_of_mem ':' hmem
    simp only [hcut, Option.some.injEq, exists_eq_left'] at hparts
    rcases hparts with hsep | hmem | hmem
    · exact absurd hsep (by decide)
    · exact lineFeed_not_mem_of_isAlgorithm h.1.1 hmem
    · exact Text.not_mem_of_all h.1.2 (by decide) hmem
  next => cases h

theorem lineFeed_not_mem_of_parse (h : parse s = .ok reference) : '\n' ∉ s.toList := by
  unfold parse at h
  simp only [bind, Except.bind, throw, throwThe, MonadExceptOf.throw, pure, Except.pure] at h
  split at h
  · cases h
  split at h
  · cases h
  next hparts =>
    simp only [Bool.not_eq_true, Bool.not_eq_false', Bool.and_eq_true] at hparts
    obtain ⟨⟨hname, htag⟩, hdigest⟩ := hparts
    intro hmem
    rcases Text.mem_cutFirst_of_mem '@' hmem with hsep | hbody | ⟨digest, hd, hmem⟩
    · exact absurd hsep (by decide)
    · rcases mem_splitTag_of_mem hbody with hsep | hbody | ⟨tag, ht, hmem⟩
      · exact absurd hsep (by decide)
      · exact lineFeed_not_mem_of_isName hname hbody
      · rw [ht] at htag
        exact lineFeed_not_mem_of_isTag htag hmem
    · rw [hd] at hdigest
      exact lineFeed_not_mem_of_isDigest hdigest hmem

end ImageReference

end ImageBuild
