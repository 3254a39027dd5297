import ImageBuild.Plan.Attachment
import ImageBuild.Plan.Basic
import Mathlib.Data.List.Nodup
import Mathlib.Logic.Function.Basic

/-!
# The names of volumes

Volumes are named by their place in a list, by a binding, or by the planner. A
name is spelled by a stem and by what tells the names with that stem apart. No
two names are spelled alike: the main statement is `text_injective`.
-/
namespace ImageBuild

/-- The volumes that the planner names itself. -/
inductive SharedVolume where
  | workspace
  | home
  | layers
  | platform
  | report
  | cache
  | notary
  | networkWait
  deriving DecidableEq

namespace SharedVolume

def name : SharedVolume → String
  | .workspace => Layout.workspace.name
  | .home => Layout.home.name
  | .layers => Layout.layers.name
  | .platform => Layout.platform.name
  | .report => Layout.report.name
  | .cache => Layout.cache.name
  | .notary => Layout.notary.name
  | .networkWait => Layout.networkWait.name

/-- The volumes that are empty when a build starts. -/
def scratch : List SharedVolume := [.workspace, .home, .layers, .platform, .report]

def all : List SharedVolume := scratch ++ [.cache, .notary, .networkWait]

theorem mem_names_scratch {n : String} :
    n ∈ scratch.map name ↔
      n = Layout.workspace.name ∨ n = Layout.home.name ∨ n = Layout.layers.name ∨
        n = Layout.platform.name ∨ n = Layout.report.name := by
  simp [scratch, name]

theorem mem_all (v : SharedVolume) : v ∈ all := by
  cases v <;> decide

theorem all_nodup : all.Nodup := by decide

end SharedVolume

/-- How names of volumes start. -/
inductive VolumeStem where
  | credential
  | signing
  | pull
  | service
  | metadata
  | bindingSecret
  | shared (v : SharedVolume)
  deriving DecidableEq

namespace VolumeStem

def text : VolumeStem → String
  | .credential => "secret-volume-"
  | .signing => "secret-volume-cosign-"
  | .pull => "image-pull-secret-volume-"
  | .service => "service-binding-secret-"
  | .metadata => "binding-metadata-"
  | .bindingSecret => "binding-secret-"
  | .shared v => v.name

def all : List VolumeStem :=
  [.credential, .signing, .pull, .service, .metadata, .bindingSecret] ++
    SharedVolume.all.map .shared

theorem mem_all (s : VolumeStem) : s ∈ all := by
  cases s with
  | shared v =>
    exact List.mem_append_right _ (List.mem_map.2 ⟨v, SharedVolume.mem_all v, rfl⟩)
  | _ => decide

/-- One stem alone starts like another. -/
theorem eq_of_prefix {s t : VolumeStem} (h : s.text.toList <+: t.text.toList) :
    s = t ∨ s = credential ∧ t = signing := by
  have hall : ∀ s ∈ all, ∀ t ∈ all, s.text.toList <+: t.text.toList →
      s = t ∨ s = credential ∧ t = signing := by
    decide +kernel
  exact hall s (mem_all s) t (mem_all t) h

end VolumeStem

/-- What a volume stands for. -/
inductive VolumeName where
  | credential (position : Nat)
  | signing (position : Nat)
  | pull (position : Nat)
  | service (binding : String)
  | metadata (binding : String)
  | bindingSecret (binding : String)
  | shared (v : SharedVolume)
  deriving DecidableEq

namespace VolumeName

def stem : VolumeName → VolumeStem
  | .credential _ => .credential
  | .signing _ => .signing
  | .pull _ => .pull
  | .service _ => .service
  | .metadata _ => .metadata
  | .bindingSecret _ => .bindingSecret
  | .shared v => .shared v

/-- What tells the names with a stem apart. -/
def suffix : VolumeName → String
  | .credential i => toString i
  | .signing i => toString i
  | .pull i => toString i
  | .service n => n
  | .metadata n => n
  | .bindingSecret n => n
  | .shared _ => ""

/-- How the name is spelled. -/
def text (a : VolumeName) : String := a.stem.text ++ a.suffix

theorem toList_text (a : VolumeName) :
    a.text.toList = a.stem.text.toList ++ a.suffix.toList := by
  rw [text, String.toList_append]

theorem text_shared (v : SharedVolume) : (shared v).text = v.name := String.append_empty

theorem eq_of_stem_eq {a b : VolumeName} (hstem : a.stem = b.stem) (hsuffix : a.suffix = b.suffix) :
    a = b := by
  cases a <;> cases b <;> simp only [stem, reduceCtorEq, VolumeStem.shared.injEq] at hstem
  all_goals simp only [suffix] at hsuffix
  case credential.credential => rw [Decimal.toString_injective hsuffix]
  case signing.signing => rw [Decimal.toString_injective hsuffix]
  case pull.pull => rw [Decimal.toString_injective hsuffix]
  case service.service => rw [hsuffix]
  case metadata.metadata => rw [hsuffix]
  case bindingSecret.bindingSecret => rw [hsuffix]
  case shared.shared => rw [hstem]

/-- A name of a credential goes on with digits where that of a signing key has
a letter. -/
theorem credential_ne_signing (i j : Nat) : (credential i).text ≠ (signing j).text := by
  intro h
  have hstem : VolumeStem.signing.text.toList =
      VolumeStem.credential.text.toList ++ "cosign-".toList := by
    decide +kernel
  have hdigits : Nat.toDigits 10 i = "cosign-".toList ++ Nat.toDigits 10 j := by
    have hl := congrArg String.toList h
    simp only [toList_text, stem, hstem, List.append_assoc] at hl
    simpa [suffix] using List.append_cancel_left hl
  have hc : 'c' ∈ Nat.toDigits 10 i := by
    rw [hdigits]
    exact List.mem_append_left _ (by decide)
  have hdigit : Char.isDigit 'c' = true := Decimal.isDigit_of_mem_toDigits hc
  revert hdigit
  decide

theorem ne_of_stems {a b : VolumeName} (ha : a.stem = .credential) (hb : b.stem = .signing) :
    a.text ≠ b.text := by
  cases a <;> cases b <;> simp only [stem, reduceCtorEq] at ha hb
  case credential.signing i j => exact credential_ne_signing i j

/-- Of two names that are spelled alike, the stem of one is a prefix of that of
the other. -/
theorem stem_eq_of_text_eq {a b : VolumeName} (h : a.text = b.text) : a.stem = b.stem := by
  have ha : a.stem.text.toList <+: a.text.toList := ⟨a.suffix.toList, (toList_text a).symm⟩
  have hb : b.stem.text.toList <+: a.text.toList := ⟨b.suffix.toList, by rw [h, toList_text]⟩
  rcases List.prefix_or_prefix_of_prefix ha hb with hab | hba
  · rcases VolumeStem.eq_of_prefix hab with heq | ⟨hc, hs⟩
    · exact heq
    · exact absurd h (ne_of_stems hc hs)
  · rcases VolumeStem.eq_of_prefix hba with heq | ⟨hc, hs⟩
    · exact heq.symm
    · exact absurd h.symm (ne_of_stems hc hs)

theorem text_injective : Function.Injective text := by
  intro a b h
  have hstem := stem_eq_of_text_eq h
  apply eq_of_stem_eq hstem
  have hl := congrArg String.toList h
  rw [toList_text, toList_text, hstem] at hl
  exact String.toList_inj.1 (List.append_cancel_left hl)

end VolumeName

end ImageBuild
