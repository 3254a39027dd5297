import ImageBuild.Plan.Pod
import Mathlib.Data.List.Forall2
import Mathlib.Data.List.Nodup

/-!
# What the passes keep of a step

The passes of an operating system leave the name and the image of a step alone,
and add to its mounts that of the launcher where there is one. Passes of different
names do not get in each other's way, so that their order makes no difference. The
main statement is `launched_anyOrder`.
-/
namespace ImageBuild

/-- The names of the volumes that a container mounts. -/
def Container.mountNames (c : Container) : List String := (c.mounts.getD []).map VolumeMount.name

namespace StepPass

theorem apply_name (c : Container) (p : StepPass) : (apply c p).name = c.name := by
  cases p <;> rfl

theorem applyAll_name (passes : List StepPass) (c : Container) :
    (applyAll passes c).name = c.name := by
  induction passes generalizing c with
  | nil => rfl
  | cons p passes ih =>
    have hrest : (applyAll passes (apply c p)).name = (apply c p).name := ih (apply c p)
    exact hrest.trans (apply_name c p)

theorem apply_image (c : Container) (p : StepPass) : (apply c p).image = c.image := by
  cases p <;> rfl

theorem applyAll_image (passes : List StepPass) (c : Container) :
    (applyAll passes c).image = c.image := by
  induction passes generalizing c with
  | nil => rfl
  | cons p passes ih =>
    have hrest : (applyAll passes (apply c p)).image = (apply c p).image := ih (apply c p)
    exact hrest.trans (apply_image c p)

theorem mountNames_applyAll_forOs (windows : Bool) (host : String) (c : Container) :
    (applyAll (forOs windows host) c).mountNames =
      c.mountNames ++ if windows then [Layout.networkWait.name] else [] := by
  cases windows with
  | false => simp [applyAll_linux]
  | true => simp [forOs, applyAll, apply, Container.mountNames]

theorem apply_comm {p q : StepPass} (h : p.name ≠ q.name) (c : Container) :
    apply (apply c p) q = apply (apply c q) p := by
  cases p with
  | launcherVolume =>
    cases q with
    | launcherVolume => exact absurd rfl h
    | launcher | userProfile => rfl
  | launcher host =>
    cases q with
    | launcher => exact absurd rfl h
    | launcherVolume | userProfile => rfl
  | userProfile =>
    cases q with
    | userProfile => exact absurd rfl h
    | launcherVolume | launcher => rfl

theorem applyAll_perm {ps qs : List StepPass} (hnames : (ps.map name).Nodup) (h : ps.Perm qs)
    (c : Container) : applyAll ps c = applyAll qs c := by
  refine h.foldl_eq' (fun p hp q hq d => ?_) c
  by_cases hpq : p.name = q.name
  · rw [List.inj_on_of_nodup_map hnames hp hq hpq]
  · exact apply_comm hpq d

/-- The variables are the same but for the name of the home directory. -/
structure SameButHome (v w : EnvVar) : Prop where
  name : w.name = if v.name = "HOME" then "USERPROFILE" else v.name
  value : w.value = v.value
  valueFrom : w.valueFrom = v.valueFrom

/-- The second container is the first one as the launcher runs it: the words of its command
and its arguments follow the separator, and what else it has is kept in its order. -/
structure Launched (host : String) (c d : Container) : Prop where
  command : d.command = some ["/networkWait/network-wait-launcher"]
  args : d.args = some (host :: "--" :: (c.command.getD [] ++ c.args.getD []))
  mounts : d.mounts =
    some (c.mounts.getD [] ++
      [⟨"/networkWait", none, "network-wait-launcher-dir", none, none, none⟩])
  env : Option.Rel (List.Forall₂ SameButHome) c.env d.env
  name : d.name = c.name
  image : d.image = c.image
  resources : d.resources = c.resources
  security : d.security = c.security
  settings : d.settings = c.settings

theorem sameButHome_renameHome (v : EnvVar) : SameButHome v (renameHome v) := by
  by_cases hv : v.name = "HOME"
  · have hrename : renameHome v = ⟨"USERPROFILE", v.value, v.valueFrom⟩ := if_pos hv
    rw [hrename]
    exact ⟨(if_pos hv).symm, rfl, rfl⟩
  · have hrename : renameHome v = v := if_neg hv
    rw [hrename]
    exact ⟨(if_neg hv).symm, rfl, rfl⟩

theorem launched_applyAll (host : String) (c : Container) :
    Launched host c (applyAll (forOs true host) c) where
  command := rfl
  args := rfl
  mounts := rfl
  env := by
    show Option.Rel (List.Forall₂ SameButHome) c.env (c.env.map fun vs => vs.map renameHome)
    cases c.env with
    | none => exact .none
    | some vs =>
      refine .some ?_
      rw [List.forall₂_map_right_iff, List.forall₂_same]
      exact fun v _ => sameButHome_renameHome v
  name := rfl
  image := rfl
  resources := rfl
  security := rfl
  settings := rfl

/-- On Windows the launcher runs each step with all that it had, whatever the order of the
passes. -/
theorem launched_anyOrder (host : String) (c : Container) {passes : List StepPass}
    (h : passes.Perm [.launcherVolume, .launcher host, .userProfile]) :
    Launched host c (applyAll passes c) ∧
      applyAll passes c = applyAll (forOs true host) c := by
  have hnames : ((forOs true host).map name).Nodup := by
    have hconcrete : (forOs true host).map name =
        ["network-wait-volume", "network-wait-launcher", "userprofile-home"] := rfl
    rw [hconcrete]
    decide
  have hsame : applyAll passes c = applyAll (forOs true host) c :=
    (applyAll_perm hnames h.symm c).symm
  exact ⟨hsame ▸ launched_applyAll host c, hsame⟩

/-- A step that sets the home directory twice, and has neither arguments nor mounts. -/
def twoHomes : Container where
  name := "prepare"
  image := "host/prepare"
  command := some ["/cnb/process/build-init"]
  args := none
  env := some [.of "HOME" "/a", .of "MODE" "b", .of "HOME" "/c"]
  mounts := none
  resources := none
  security := none
  settings := .unset

theorem twoHomes_launched :
    [.userProfile, .launcher "host", .launcherVolume].Perm
        [StepPass.launcherVolume, .launcher "host", .userProfile] ∧
      (applyAll [.userProfile, .launcher "host", .launcherVolume] twoHomes).args =
        some ["host", "--", "/cnb/process/build-init"] ∧
      (applyAll [.userProfile, .launcher "host", .launcherVolume] twoHomes).env =
        some [.of "USERPROFILE" "/a", .of "MODE" "b", .of "USERPROFILE" "/c"] := by
  have hperm : [.userProfile, .launcher "host", .launcherVolume].Perm
      [StepPass.launcherVolume, .launcher "host", .userProfile] :=
    List.reverse_perm [StepPass.launcherVolume, .launcher "host", .userProfile]
  obtain ⟨hlaunched, hsame⟩ := launched_anyOrder "host" twoHomes hperm
  refine ⟨hperm, hlaunched.args, ?_⟩
  rw [hsame]
  decide

end StepPass

namespace PlanBasis

variable (b : PlanBasis) (c : Container)

@[simp] theorem adapt_name : (b.adapt c).name = c.name := StepPass.applyAll_name _ _

theorem adapt_image : (b.adapt c).image = c.image := StepPass.applyAll_image _ _

/-- Each step mounts the volumes that only the operating system asks for. -/
theorem mountNames_adapt :
    (b.adapt c).mountNames = c.mountNames ++ b.osVolumes.map Volume.name := by
  unfold adapt osVolumes
  rw [StepPass.mountNames_applyAll_forOs]
  cases b.windows <;> rfl

end PlanBasis

end ImageBuild
