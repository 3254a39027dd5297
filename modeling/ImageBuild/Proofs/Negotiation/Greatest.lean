import ImageBuild.Proofs.Plan.Outcome
import ImageBuild.Proofs.Version.Reading
import Mathlib.Data.Set.Basic
import Mathlib.Logic.Relation
import Mathlib.Order.Bounds.Defs

/-!
# The greatest common version

Where the supported versions descend, the version that is negotiated is the
greatest of those that are supported, allowed and advertised. It depends on the set
of advertised versions, not on how the texts state it, and it does not fall when
the set grows or the ceiling rises. The main statement is `negotiate_greatest`.
-/
namespace ImageBuild.Negotiation

variable {sup : List Version} {ceiling ceiling' : Option Version} {apis apis' : List String}
variable {v : Version}

/-- The versions that are supported, not above the ceiling and advertised. -/
def common (supported : List Version) (ceiling : Option Version) (apis : List String) :
    Set Version :=
  {v | v ∈ supported ∧ (∀ max ∈ ceiling, v ≤ max) ∧ ∃ s ∈ apis, Version.parseText s = .ok v}

theorem mem_advertised : v ∈ advertised apis ↔ ∃ s ∈ apis, Version.parseText s = .ok v := by
  have hread : ∀ s, (Version.parseText s).toOption = some v ↔ Version.parseText s = .ok v := by
    intro s
    cases Version.parseText s <;> simp [Except.toOption]
  simp only [advertised, List.mem_filterMap, hread]

theorem allowed_iff : allowed ceiling v = true ↔ ∀ max ∈ ceiling, v ≤ max := by
  cases ceiling with
  | none => simp [allowed]
  | some max =>
    constructor
    · intro h bound hbound
      exact Option.mem_some_iff.1 hbound ▸ h
    · intro h
      exact h max rfl

/-- The first member of a descending list that satisfies a condition is the greatest. -/
theorem find?_eq_some_iff_isGreatest {p : Version → Bool} (hsup : sup.Pairwise (· > ·)) :
    sup.find? p = some v ↔ IsGreatest {w | w ∈ sup ∧ p w = true} v := by
  induction sup with
  | nil => simp [IsGreatest]
  | cons w ws ih =>
    obtain ⟨hw, hws⟩ := List.pairwise_cons.1 hsup
    by_cases hp : p w = true
    · rw [List.find?_cons_of_pos hp, Option.some.injEq]
      constructor
      · rintro rfl
        refine ⟨⟨List.mem_cons_self, hp⟩, ?_⟩
        rintro u ⟨hu, -⟩
        rcases List.mem_cons.1 hu with rfl | hu
        · exact Version.le_refl u
        · exact Version.le_of_lt (hw u hu)
      -- The first member is above all others, so that none of these is an upper bound.
      · rintro ⟨⟨hv, -⟩, hbound⟩
        rcases List.mem_cons.1 hv with rfl | hv
        · rfl
        · have hle : w ≤ v := hbound ⟨List.mem_cons_self, hp⟩
          exact absurd (hw v hv) (Version.not_lt.2 hle)
    · have hset : {u | u ∈ w :: ws ∧ p u = true} = {u | u ∈ ws ∧ p u = true} := by
        ext u
        constructor
        · rintro ⟨hu, hpu⟩
          rcases List.mem_cons.1 hu with rfl | hu
          · exact absurd hpu hp
          · exact ⟨hu, hpu⟩
        · rintro ⟨hu, hpu⟩
          exact ⟨List.mem_cons_of_mem w hu, hpu⟩
      rw [List.find?_cons_of_neg hp, hset]
      exact ih hws

theorem common_eq :
    common sup ceiling apis =
      {v | v ∈ sup ∧ (allowed ceiling v && (advertised apis).contains v) = true} := by
  ext v
  simp only [common, Set.mem_ofPred_eq, Bool.and_eq_true, List.contains_iff_mem, mem_advertised,
    allowed_iff]

theorem choose_eq_some_iff (hsup : sup.Pairwise (· > ·)) :
    choose sup ceiling apis = some v ↔ IsGreatest (common sup ceiling apis) v := by
  rw [common_eq]
  exact find?_eq_some_iff_isGreatest hsup

theorem choose_eq_none_iff : choose sup ceiling apis = none ↔ common sup ceiling apis = ∅ := by
  rw [common_eq, choose, List.find?_eq_none, Set.eq_empty_iff_forall_notMem]
  simp

/-- One change to a list of texts that leaves the versions in it the same. -/
inductive Restates : List String → List String → Prop
  | reordered {apis apis' : List String} (h : apis.Perm apis') : Restates apis apis'
  | repeated {s : String} (front rest : List String) (h : s ∈ front ++ rest) :
      Restates (front ++ rest) (front ++ s :: rest)
  | padded {before after : List Char} (s : String) (front rest : List String)
      (hbefore : ∀ c ∈ before, Text.isBlank c = true)
      (hafter : ∀ c ∈ after, Text.isBlank c = true) :
      Restates (front ++ s :: rest)
        (front ++ String.ofList (before ++ s.toList ++ after) :: rest)
  | interleaved {s : String} {e : VersionError} (front rest : List String)
      (h : Version.parseText s = .error e) :
      Restates (front ++ rest) (front ++ s :: rest)

theorem mem_advertised_insert {s : String} (front rest : List String) :
    v ∈ advertised (front ++ s :: rest) ↔
      Version.parseText s = .ok v ∨ v ∈ advertised (front ++ rest) := by
  have hmem : ∀ t, t ∈ front ++ s :: rest ↔ t ∈ s :: (front ++ rest) := fun t =>
    List.perm_middle.mem_iff
  simp only [mem_advertised, hmem, List.mem_cons, or_and_right, exists_or, exists_eq_left]

theorem Restates.mem_advertised_iff (h : Restates apis apis') :
    v ∈ advertised apis ↔ v ∈ advertised apis' := by
  cases h with
  | reordered h =>
    rw [mem_advertised, mem_advertised]
    simp only [h.mem_iff]
  | repeated front rest h =>
    rw [mem_advertised_insert, iff_or_self]
    intro hread
    exact mem_advertised.2 ⟨_, h, hread⟩
  | padded s front rest hbefore hafter =>
    rw [mem_advertised_insert, mem_advertised_insert, Version.parseText_padded hbefore hafter]
  | interleaved front rest h =>
    rw [mem_advertised_insert, h, iff_or_self]
    rintro ⟨⟩

theorem mem_advertised_of_eqvGen (h : Relation.EqvGen Restates apis apis') :
    v ∈ advertised apis ↔ v ∈ advertised apis' := by
  induction h with
  | rel _ _ h => exact h.mem_advertised_iff
  | refl _ => exact Iff.rfl
  | symm _ _ _ ih => exact ih.symm
  | trans _ _ _ _ _ ih ih' => exact ih.trans ih'

/-- What is chosen depends on the set of advertised versions alone. -/
theorem choose_congr (h : ∀ v, v ∈ advertised apis ↔ v ∈ advertised apis') :
    choose sup ceiling apis = choose sup ceiling apis' := by
  have hcontains : ∀ v, (advertised apis).contains v = (advertised apis').contains v := by
    intro v
    rw [Bool.eq_iff_iff, List.contains_iff_mem, List.contains_iff_mem]
    exact h v
  simp only [choose, hcontains]

theorem toOption_negotiate :
    (negotiate sup ceiling apis).toOption = choose sup ceiling apis := by
  unfold negotiate
  cases choose sup ceiling apis <;> rfl

/-- The second ceiling is higher than the first, or the same. -/
inductive Raises : Option Version → Option Version → Prop
  | moved {max max' : Version} (h : max ≤ max') : Raises (some max) (some max')
  | lifted (ceiling : Option Version) : Raises ceiling none

theorem common_subset_of_texts (h : apis ⊆ apis') :
    common sup ceiling apis ⊆ common sup ceiling apis' := by
  rintro v ⟨hsup, hceiling, s, hs, hread⟩
  exact ⟨hsup, hceiling, s, h hs, hread⟩

theorem Raises.common_subset (h : Raises ceiling ceiling') :
    common sup ceiling apis ⊆ common sup ceiling' apis := by
  rintro v ⟨hsup, hceiling, hread⟩
  refine ⟨hsup, ?_, hread⟩
  cases h with
  | @moved max max' h =>
    intro bound hbound
    have hle : v ≤ max' := Version.le_trans (hceiling max rfl) h
    exact Option.mem_some_iff.1 hbound ▸ hle
  | lifted => rintro _ ⟨⟩

/-- The first outcome has a version, not below that of the second, if that has one. -/
def Dominates (a b : Except PlanError Version) : Prop :=
  ∀ v, b = .ok v → ∃ w, a = .ok w ∧ v ≤ w

theorem dominates_of_subset (hsup : sup.Pairwise (· > ·))
    (h : common sup ceiling apis ⊆ common sup ceiling' apis') :
    Dominates (negotiate sup ceiling' apis') (negotiate sup ceiling apis) := by
  intro v hv
  rw [negotiate_eq_ok_iff, choose_eq_some_iff hsup] at hv
  have hmem : v ∈ common sup ceiling' apis' := h hv.1
  obtain ⟨w, hw⟩ : ∃ w, choose sup ceiling' apis' = some w := by
    rw [← Option.ne_none_iff_exists', ne_eq, choose_eq_none_iff]
    exact Set.Nonempty.ne_empty ⟨v, hmem⟩
  exact ⟨w, negotiate_eq_ok_iff.2 hw, ((choose_eq_some_iff hsup).1 hw).2 hmem⟩

/-- With descending supported versions, a negotiation gives the greatest common
version, and fails exactly if there is none. Its version stays the same however the
texts state the advertised versions. More texts or a higher ceiling do not lower it. -/
theorem negotiate_greatest (hsup : sup.Pairwise (· > ·)) (ceiling : Option Version)
    (apis : List String) :
    (∀ v, negotiate sup ceiling apis = .ok v ↔ IsGreatest (common sup ceiling apis) v) ∧
    (∀ e, negotiate sup ceiling apis = .error e ↔
      e = .unsupportedApi apis ∧ common sup ceiling apis = ∅) ∧
    (∀ apis', Relation.EqvGen Restates apis apis' →
      (negotiate sup ceiling apis').toOption = (negotiate sup ceiling apis).toOption) ∧
    (∀ apis', apis ⊆ apis' →
      Dominates (negotiate sup ceiling apis') (negotiate sup ceiling apis)) ∧
    ∀ ceiling', Raises ceiling ceiling' →
      Dominates (negotiate sup ceiling' apis) (negotiate sup ceiling apis) := by
  refine ⟨fun v => ?_, fun e => ?_, fun apis' h => ?_, fun apis' h => ?_, fun ceiling' h => ?_⟩
  · rw [negotiate_eq_ok_iff, choose_eq_some_iff hsup]
  · rw [negotiate_eq_error_iff, choose_eq_none_iff, and_comm]
  · rw [toOption_negotiate, toOption_negotiate]
    exact choose_congr fun v => (mem_advertised_of_eqvGen h).symm
  · exact dominates_of_subset hsup (common_subset_of_texts h)
  · exact dominates_of_subset hsup h.common_subset

/-- A version before the release 1.0.0. -/
def candidate : Version := ⟨1, 0, 0, ⟨["rc".toList, "1".toList], by decide⟩, .none⟩

def mixed : List Version := [.release 1 0 0, candidate, .release 0 9 0]

theorem candidate_greatest :
    mixed.Pairwise (· > ·) ∧
      IsGreatest (common mixed (some candidate) ["0.9", "1.0.0-rc.1", "1.0"]) candidate ∧
      common mixed (some (.release 0 8 0)) ["0.9", "1.0.0-rc.1", "1.0"] = ∅ ∧
      (negotiate mixed (some candidate) ["1.0", "latest", "0.9", "1.0.0-rc.1"]).toOption =
        some candidate := by
  have hsup : mixed.Pairwise (· > ·) := by decide
  have hchoose : choose mixed (some candidate) ["0.9", "1.0.0-rc.1", "1.0"] = some candidate := by
    decide +kernel
  have hnone : choose mixed (some (.release 0 8 0)) ["0.9", "1.0.0-rc.1", "1.0"] = none := by
    decide +kernel
  have hread : Version.parseText "latest" = .error (.unexpectedChar .major 'l') := by rfl
  have hrestated : Relation.EqvGen Restates ["0.9", "1.0.0-rc.1", "1.0"]
      ["1.0", "latest", "0.9", "1.0.0-rc.1"] :=
    .trans _ ["1.0", "0.9", "1.0.0-rc.1"] _ (.rel _ _ (.reordered (by decide)))
      (.rel _ _ (.interleaved ["1.0"] ["0.9", "1.0.0-rc.1"] hread))
  obtain ⟨hok, -, hsame, -⟩ :=
    negotiate_greatest hsup (some candidate) ["0.9", "1.0.0-rc.1", "1.0"]
  obtain ⟨-, herror, -⟩ :=
    negotiate_greatest hsup (some (.release 0 8 0)) ["0.9", "1.0.0-rc.1", "1.0"]
  refine ⟨hsup, (hok candidate).1 (negotiate_eq_ok_iff.2 hchoose), ?_, ?_⟩
  · exact ((herror _).1 (negotiate_eq_error_iff.2 ⟨hnone, rfl⟩)).2
  · rw [hsame _ hrestated, toOption_negotiate, hchoose]

/-- The lists that builds negotiate from descend. -/
theorem supportedFor_descending :
    ∀ signing windows, (supportedFor signing windows).Pairwise (· > ·) := by
  decide

/-- The version of a build is the greatest common version. -/
theorem negotiate_build_eq_ok_iff {r : BuildRequest} {ctx : PlanContext} :
    PlanBasis.negotiate r ctx = .ok v ↔
      IsGreatest (common (supportedFor r.signed ctx.builder.isWindows)
        ctx.config.maxPlatformApi ctx.builder.platformApis) v := by
  rw [PlanBasis.negotiate_eq_ok_iff]
  exact choose_eq_some_iff (supportedFor_descending _ _)

end ImageBuild.Negotiation
