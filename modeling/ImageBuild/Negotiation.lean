import ImageBuild.Plan.Basic
import ImageBuild.Version.Order
import ImageBuild.Version.Parser

/-!
# Platform API negotiation

A build uses the highest platform API version that is supported, not above the
ceiling, and advertised by the builder.
-/
namespace ImageBuild.Negotiation

/-- Versions that a build can be driven with, highest first. -/
def supported : List Version :=
  [9, 8, 7, 6, 5, 4, 3].map fun minor => .release 0 minor 0

/-- Versions that write a report and run on Windows, highest first. -/
def supportedWithReport : List Version :=
  [9, 8, 7, 6, 5, 4].map fun minor => .release 0 minor 0

/-- The lowest version that a build can be driven with. -/
def lowest : Version := .release 0 3 0

/-- Signed builds and Windows builds need the report. -/
def supportedFor (signing windows : Bool) : List Version :=
  if signing || windows then supportedWithReport else supported

/-- The advertised texts that are versions. -/
def advertised (apis : List String) : List Version :=
  apis.filterMap fun s => (Version.parseText s).toOption

/-- Whether a version is not above the ceiling, if there is one. -/
def allowed (ceiling : Option Version) (v : Version) : Bool :=
  match ceiling with
  | none => true
  | some max => v.le max

/-- The first supported version that is allowed and advertised. -/
def choose (supported : List Version) (ceiling : Option Version) (apis : List String) :
    Option Version :=
  supported.find? fun v => allowed ceiling v && (advertised apis).contains v

theorem mem_of_choose {sup : List Version} {ceiling : Option Version} {apis : List String}
    {v : Version} (h : choose sup ceiling apis = some v) :
    v ∈ sup ∧ allowed ceiling v = true ∧ v ∈ advertised apis := by
  have hp := List.find?_some h
  simp only [Bool.and_eq_true, List.contains_iff_mem] at hp
  exact ⟨List.mem_of_find?_eq_some h, hp⟩

/-- The version of a build, or the texts that hold none. -/
def negotiate (supported : List Version) (ceiling : Option Version) (apis : List String) :
    Except PlanError Version :=
  match choose supported ceiling apis with
  | some v => .ok v
  | none => .error (.unsupportedApi apis)

variable {sup : List Version} {ceiling : Option Version} {apis : List String}

theorem negotiate_eq_ok_iff {v : Version} :
    negotiate sup ceiling apis = .ok v ↔ choose sup ceiling apis = some v := by
  unfold negotiate
  cases choose sup ceiling apis <;> simp

theorem negotiate_eq_error_iff {e : PlanError} :
    negotiate sup ceiling apis = .error e ↔
      choose sup ceiling apis = none ∧ e = .unsupportedApi apis := by
  unfold negotiate
  cases choose sup ceiling apis <;> simp [eq_comm]

end ImageBuild.Negotiation
