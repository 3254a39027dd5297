import ImageBuild.ImageReference
import ImageBuild.Proofs.Text.Cut

/-!
# The host of a reference

A reference starts with its registry, or leaves it to the default one, so the
host of a text that is no flag is no flag either.
-/
namespace ImageBuild.ImageReference

variable {name : List Char} {s : String} {reference : ImageReference}

theorem prefix_fst_splitTag (cs : List Char) : (splitTag cs).1 <+: cs := by
  unfold splitTag
  dsimp only
  split
  next rest h =>
    have hcs := congrArg List.reverse
      (List.takeWhile_append_dropWhile (p := fun c => c != ':' && c != '/') (l := cs.reverse))
    rw [h] at hcs
    simp only [List.reverse_append, List.reverse_cons, List.append_assoc,
      List.reverse_reverse] at hcs
    exact ⟨_, hcs⟩
  next => exact List.prefix_rfl

theorem splitName_fst (name : List Char) :
    (splitName name).1 = defaultRegistry ∨
      (splitName name).1 ≠ "" ∧ (splitName name).1.toList <+: name := by
  have hfirst := Text.prefix_fst_cutFirst '/' name
  rw [splitName]
  rcases hcut : Text.cutFirst '/' name with ⟨first, _ | rest⟩
  · dsimp only
    exact .inl (ite_self _)
  · rw [hcut] at hfirst
    dsimp only
    split
    next haddress =>
      dsimp only
      split
      next => exact .inl rfl
      next =>
        refine .inr ⟨?_, String.toList_ofList ▸ hfirst⟩
        intro hempty
        have hnil : first = [] := by simpa using hempty
        subst hnil
        exact absurd haddress (by decide)
    next => exact .inl (ite_self _)

theorem registry_of_parse (h : parse s = .ok reference) :
    ∃ name, name <+: s.toList ∧ reference.registry = (splitName name).1 := by
  have hname := (prefix_fst_splitTag (Text.cutFirst '@' s.toList).1).trans
    (Text.prefix_fst_cutFirst '@' s.toList)
  refine ⟨_, hname, ?_⟩
  unfold parse at h
  simp only [bind, Except.bind, throw, throwThe, MonadExceptOf.throw, pure, Except.pure] at h
  -- Each check fails or leaves the registry as it is.
  split at h
  · cases h
  · split at h
    · cases h
    · split at h
      · cases h
      · split at h
        · cases h
        · cases h
          rfl

/-- The first character of a host that is not the default one is that of the text. -/
theorem head?_host (h : parse s = .ok reference) (hs : s.toList.head? ≠ some '-') :
    reference.host.toList.head? ≠ some '-' := by
  obtain ⟨name, hname, hregistry⟩ := registry_of_parse h
  rw [host]
  split
  next => decide
  next hother =>
    rw [hregistry] at hother ⊢
    obtain ⟨hne, rest, hrest⟩ := (splitName_fst name).resolve_left hother
    obtain ⟨more, hmore⟩ := hname
    obtain ⟨c, cs, hcs⟩ := List.exists_cons_of_ne_nil (mt String.toList_eq_nil_iff.1 hne)
    rw [← hmore, ← hrest, hcs] at hs
    rw [hcs]
    exact hs

end ImageBuild.ImageReference
