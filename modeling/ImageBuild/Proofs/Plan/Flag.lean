import ImageBuild.Proofs.ImageReference.Host
import ImageBuild.Proofs.Plan.Outcome
import ImageBuild.Proofs.Plan.StepPass

/-!
# Flags and variables of a step

The arguments of a lifecycle step are flags with values, followed by tags.
`Flag.values` are the values that an argument list gives to one flag, and the
tags give it none. What the operating system puts before the arguments is no
flag, and it renames the variable of the home directory only, so that a step has
the same flags and the same other variables wherever it runs.
-/
namespace ImageBuild

/-- An argument with a name and a value. The name ends at the first sign of equality. -/
structure Flag where
  name : String
  value : String
  named : '=' ∉ name.toList := by decide
  deriving DecidableEq, Repr

namespace Flag

def text (f : Flag) : String := "-" ++ f.name ++ "=" ++ f.value

theorem text_mk (name value : String) (named : '=' ∉ name.toList) :
    (Flag.mk name value named).text = "-" ++ name ++ "=" ++ value :=
  rfl

/-- The value of an argument that is a flag with this name. -/
def value? (name arg : String) : Option String :=
  match Text.cutFirst '=' arg.toList with
  | (lead, some value) => if lead = '-' :: name.toList then some (String.ofList value) else none
  | _ => none

/-- The values of a flag in a list of arguments. -/
def values (name : String) (args : List String) : List String := args.filterMap (value? name)

/-- The values that a list of flags gives to a name. -/
def given (name : String) (flags : List Flag) : List String :=
  (flags.filter (·.name = name)).map value

variable {name arg : String} {args more : List String}

@[simp] theorem given_nil : given name [] = [] := rfl

@[simp] theorem given_cons (f : Flag) (flags : List Flag) :
    given name (f :: flags) =
      if f.name = name then f.value :: given name flags else given name flags := by
  unfold given
  by_cases h : f.name = name <;> simp [h]

@[simp] theorem given_append (flags others : List Flag) :
    given name (flags ++ others) = given name flags ++ given name others := by
  simp [given]

@[simp] theorem given_map_mk (flag : String) (named : '=' ∉ flag.toList) (vs : List String) :
    given name (vs.map fun v => ⟨flag, v, named⟩) = if flag = name then vs else [] := by
  induction vs with
  | nil => simp
  | cons v vs ih => by_cases h : flag = name <;> simp_all

theorem given_eq_nil {flags : List Flag} (h : ∀ f ∈ flags, f.name ≠ name) :
    given name flags = [] := by
  rw [given, List.map_eq_nil_iff, List.filter_eq_nil_iff]
  intro f hf
  simpa using h f hf

theorem value?_text (f : Flag) :
    value? name f.text = if f.name = name then some f.value else none := by
  have hlead : '=' ∉ '-' :: f.name.toList := by
    rw [List.mem_cons, not_or]
    exact ⟨by decide, f.named⟩
  have hchars : f.text.toList = ('-' :: f.name.toList) ++ '=' :: f.value.toList := by
    simp [text]
  rw [value?, hchars, Text.cutFirst_append hlead]
  simp [String.toList_inj]

theorem value?_of_head? (h : arg.toList.head? ≠ some '-') : value? name arg = none := by
  unfold value?
  obtain ⟨rest, hrest⟩ := Text.prefix_fst_cutFirst '=' arg.toList
  split
  next lead value hcut =>
    refine if_neg fun hlead => h ?_
    rw [← hrest, hcut, hlead]
    rfl
  next => rfl

theorem value?_eq_some_iff (f : Flag) : value? f.name arg = some f.value ↔ f.text = arg := by
  constructor
  · intro h
    unfold value? at h
    split at h
    next lead value hcut =>
      obtain ⟨hlead, hsome⟩ := Option.ite_none_right_eq_some.1 h
      have hvalue : value = f.value.toList := by
        rw [← Option.some.inj hsome, String.toList_ofList]
      apply String.toList_inj.1
      rw [Text.eq_append_of_cutFirst hcut, hlead, hvalue]
      simp [text]
    next => cases h
  · rintro rfl
    rw [value?_text, if_pos rfl]

/-- A list gives a value to a flag exactly if the flag with this value is in it. -/
theorem mem_values {f : Flag} : f.value ∈ values f.name args ↔ f.text ∈ args := by
  rw [values, List.mem_filterMap]
  constructor
  · rintro ⟨a, ha, hvalue⟩
    rw [(value?_eq_some_iff f).1 hvalue]
    exact ha
  · intro h
    exact ⟨f.text, h, (value?_eq_some_iff f).2 rfl⟩

theorem mem_given {value : String} {flags : List Flag} :
    value ∈ given name flags ↔ ∃ f ∈ flags, f.name = name ∧ f.value = value := by
  simp [given, and_assoc]

theorem values_append : values name (args ++ more) = values name args ++ values name more :=
  List.filterMap_append

theorem values_of_head? (h : ∀ a ∈ args, a.toList.head? ≠ some '-') : values name args = [] :=
  List.filterMap_eq_nil_iff.2 fun a ha => value?_of_head? (h a ha)

theorem values_texts (flags : List Flag) : values name (flags.map text) = given name flags := by
  induction flags with
  | nil => rfl
  | cons f fs ih =>
    rw [values] at ih ⊢
    by_cases hname : f.name = name
    · simp [value?_text, hname, ih]
    · simp [value?_text, hname, ih]

/-- Texts that are no flags may follow the flags. -/
theorem values_texts_append (flags : List Flag) (h : ∀ a ∈ args, a.toList.head? ≠ some '-') :
    values name (flags.map text ++ args) = given name flags := by
  rw [values_append, values_texts, values_of_head? h, List.append_nil]

end Flag

namespace Container

def flagValues (c : Container) (name : String) : List String := Flag.values name (c.args.getD [])

/-- The variables with a name. -/
def variablesNamed (c : Container) (name : String) : List EnvVar :=
  (c.env.getD []).filter (·.name = name)

end Container

namespace PlanBasis

variable {b : PlanBasis} {c : Container} {name : String}

/-- What stands before the arguments of a step on the operating system. -/
def launch (b : PlanBasis) (c : Container) : List String :=
  if b.windows then b.host :: StepPass.separator :: c.command.getD [] else []

theorem args_adapt (b : PlanBasis) (c : Container) :
    (b.adapt c).args.getD [] = b.launch c ++ c.args.getD [] := by
  unfold adapt launch
  cases b.windows <;> rfl

theorem args_adapt_of_some {as : List String} (h : c.args = some as) :
    (b.adapt c).args = some (b.launch c ++ as) := by
  unfold adapt launch
  cases b.windows with
  | false => exact h
  | true =>
    have hargs : c.args.getD [] = as := by rw [h]; rfl
    rw [← hargs]
    rfl

theorem env_adapt (b : PlanBasis) (c : Container) :
    (b.adapt c).env = c.env.map fun vs => if b.windows then vs.map StepPass.renameHome else vs := by
  unfold adapt
  cases b.windows with
  | false => exact Option.map_id'.symm
  | true => rfl

theorem flagValues_adapt (hhost : b.host.toList.head? ≠ some '-')
    (hcommand : ∀ w ∈ c.command.getD [], w.toList.head? ≠ some '-') :
    (b.adapt c).flagValues name = c.flagValues name := by
  have hlaunch : Flag.values name (b.launch c) = [] := by
    unfold launch
    split
    · have hseparator : Flag.value? name StepPass.separator = none := rfl
      have hrest : Flag.values name (c.command.getD []) = [] := Flag.values_of_head? hcommand
      rw [Flag.values] at hrest ⊢
      rw [List.filterMap_cons_none (Flag.value?_of_head? hhost),
        List.filterMap_cons_none hseparator, hrest]
    · rfl
  rw [Container.flagValues, args_adapt, Flag.values_append, hlaunch]
  rfl

theorem variablesNamed_adapt (hhome : name ≠ Layout.homeName)
    (hprofile : name ≠ Layout.userProfileName) :
    (b.adapt c).variablesNamed name = c.variablesNamed name := by
  have hrename : ∀ vs : List EnvVar,
      (vs.map StepPass.renameHome).filter (·.name = name) = vs.filter (·.name = name) := by
    intro vs
    induction vs with
    | nil => rfl
    | cons v vs ih =>
      by_cases hv : v.name = Layout.homeName
      · have hold : v.name ≠ name := fun h => hhome (h.symm.trans hv)
        simp [StepPass.renameHome, hv, hhome.symm, hprofile.symm, ih]
      · simp [StepPass.renameHome, hv, List.filter_cons, ih]
  rw [Container.variablesNamed, env_adapt, Container.variablesNamed]
  cases c.env with
  | none => rfl
  | some vs =>
    cases b.windows with
    | false => rfl
    | true => exact hrename vs

/-- A variable of a step that stands alone with its name does so on each operating system. -/
theorem variablesNamed_adapt_of_env {v : EnvVar} (before after : List EnvVar)
    (hc : c.env = some (before ++ v :: after)) (hv : v.name = name)
    (hbefore : ∀ u ∈ before, u.name ≠ name) (hafter : ∀ u ∈ after, u.name ≠ name)
    (hhome : name ≠ Layout.homeName) (hprofile : name ≠ Layout.userProfileName) :
    (b.adapt c).variablesNamed name = [v] := by
  have hnone : ∀ {vs : List EnvVar}, (∀ u ∈ vs, u.name ≠ name) →
      vs.filter (·.name = name) = [] := by
    intro vs hvs
    rw [List.filter_eq_nil_iff]
    intro u hu
    simpa using hvs u hu
  rw [variablesNamed_adapt hhome hprofile, Container.variablesNamed, hc, Option.getD_some,
    List.filter_append, hnone hbefore, List.filter_cons, hnone hafter]
  simp [hv]

end PlanBasis

end ImageBuild
