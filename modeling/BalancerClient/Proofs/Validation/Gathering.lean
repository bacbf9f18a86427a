import BalancerClient.Proofs.Validation.Positions
import BalancerClient.Validation.Validator

/-!
# Gathering violations

Paths only ever stand in front of what checks report on their own, and a validator only ever
adds to what it has.  So the violations of a list of checks can be put together from those of
its members, whatever is around them and however deep they are.

## Main definitions

* `Violation.below` - a violation with a path in front.
* `Check.IsCompositional` - what becomes of some checks below a path.

## Main statements

* `Check.runAll_eq_map_below` - a path in front of checks is a path in front of their
  violations.
* `Validator.applyAll_eq` - a validator gathers the violations of its checks.
* `Check.runAll_compositional` - what becomes of any checks below any path.
-/

namespace BalancerClient

/-! ## Paths -/

/-- A violation with a path in front of its field. -/
def Violation.below (path : String) (v : Violation) : Violation :=
  { v with field := path ++ v.field }

namespace Check

theorem runElements_eq_flatMap (path : String) (elements : List (List Check)) (number : Nat) :
    runElements path number elements =
      (elements.zipIdx number).flatMap fun (checks, n) =>
        runAll (path ++ toString n ++ ".") checks := by
  induction elements generalizing number with
  | nil => rfl
  | cons checks rest ih => rw [runElements, ih, List.zipIdx_cons, List.flatMap_cons]

theorem map_below_runAll {checks : List Check}
    (h : ∀ check ∈ checks, ∀ path inner, check.run (path ++ inner) =
      (check.run inner).map (.below path))
    (path inner : String) :
    runAll (path ++ inner) checks = (runAll inner checks).map (.below path) := by
  induction checks with
  | nil => rfl
  | cons check rest ih =>
    obtain ⟨hcheck, hrest⟩ := List.forall_mem_cons.1 h
    rw [runAll, runAll, List.map_append, hcheck, ih hrest]

theorem map_below_runElements {elements : List (List Check)}
    (h : ∀ checks ∈ elements, ∀ check ∈ checks, ∀ path inner,
      check.run (path ++ inner) = (check.run inner).map (.below path))
    (path inner : String) (number : Nat) :
    runElements (path ++ inner) number elements =
      (runElements inner number elements).map (.below path) := by
  induction elements generalizing number with
  | nil => rfl
  | cons checks rest ih =>
    obtain ⟨hchecks, hrest⟩ := List.forall_mem_cons.1 h
    rw [runElements, runElements, List.map_append, ih hrest, ← map_below_runAll hchecks]
    simp only [String.append_assoc]

/-- A path further in front of a check stands in front of its violations. -/
theorem run_append_path (check : Check) :
    ∀ path inner, check.run (path ++ inner) = (check.run inner).map (.below path) := by
  induction check using induct with
  | single check h =>
    intro path inner
    obtain ⟨name, fault, hrun, -⟩ := exists_run_eq_report h
    rw [hrun, hrun, report, report]
    cases fault with
    | none => rfl
    | some description => simp [Violation.below, String.append_assoc]
  | nested name checks ih =>
    intro path inner
    rw [run, run, ← map_below_runAll ih]
    simp only [String.append_assoc]
  | each name elements ih =>
    intro path inner
    rw [run, run, ← map_below_runElements ih]
    simp only [String.append_assoc]

/-- The path in front of some checks is the path in front of their violations. -/
theorem runAll_eq_map_below (path : String) (checks : List Check) :
    runAll path checks = (runAll "" checks).map (.below path) := by
  rw [← map_below_runAll (fun check _ => run_append_path check), String.append_empty]

theorem run_nested (path name : String) (checks : List Check) :
    (nested name (some checks)).run path =
      (runAll "" checks).map (.below (path ++ name ++ ".")) := by
  rw [run, runAll_eq_map_below]

theorem run_each (path name : String) (elements : List (List Check)) :
    (each name (some elements)).run path = (elements.zipIdx 1).flatMap fun (checks, n) =>
      (runAll "" checks).map (.below (path ++ name ++ "." ++ toString n ++ ".")) := by
  rw [run, runElements_eq_flatMap]
  simp only [← runAll_eq_map_below]

example : (each "Tag" (some [[], [nested "Key" (some [required "Name" false])]])).run "Job." =
    [⟨"Job.Tag.2.Key.Name", "field is required"⟩] := by decide

end Check

/-! ## Validators -/

namespace Validator

theorem noteIf_eq {α : Type} (v : Validator) (name : String) (value : Option α)
    (wrong : α → Bool) (description : α → String) :
    v.noteIf name value wrong description =
      { v with violations := v.violations ++
        Check.report v.path name (value.bind fun a =>
          if wrong a then some (description a) else none) } := by
  cases value with
  | none => simp [noteIf, Check.report]
  | some a => cases h : wrong a <;> simp [noteIf, note, Check.report, h]

theorem applyAll_eq_of_forall {checks : List Check}
    (h : ∀ check ∈ checks, ∀ v : Validator,
      v.apply check = { v with violations := v.violations ++ check.run v.path })
    (v : Validator) :
    v.applyAll checks =
      { v with violations := v.violations ++ Check.runAll v.path checks } := by
  induction checks generalizing v with
  | nil => simp [applyAll, Check.runAll]
  | cons check rest ih =>
    obtain ⟨hcheck, hrest⟩ := List.forall_mem_cons.1 h
    rw [applyAll, ih hrest, hcheck, Check.runAll, List.append_assoc]

theorem applyElements_eq_of_forall {elements : List (List Check)}
    (h : ∀ checks ∈ elements, ∀ check ∈ checks, ∀ v : Validator,
      v.apply check = { v with violations := v.violations ++ check.run v.path })
    (v : Validator) (name : String) (number : Nat) :
    v.applyElements name number elements =
      { v with violations := v.violations ++
        Check.runElements (v.path ++ name ++ ".") number elements } := by
  induction elements generalizing v number with
  | nil => simp [applyElements, Check.runElements]
  | cons checks rest ih =>
    obtain ⟨hchecks, hrest⟩ := List.forall_mem_cons.1 h
    rw [applyElements, ih hrest, applyAll_eq_of_forall hchecks, Check.runElements]
    simp [adopt]

/-- A check adds its violations to those that a validator has, and changes nothing else. -/
theorem apply_eq (check : Check) : ∀ v : Validator,
    v.apply check = { v with violations := v.violations ++ check.run v.path } := by
  induction check using Check.induct with
  | single check h =>
    intro v
    cases check with
    | required name isSet => cases isSet <;> simp [apply, note, Check.run, Check.report]
    | nested name value =>
      cases value with
      | none => simp [apply, Check.run]
      | some checks => cases h
    | each name value =>
      cases value with
      | none => simp [apply, Check.run]
      | some elements => cases h
    | oneOf name value allowed =>
      rw [apply, noteIf_eq, Check.run]
      simp only [decide_not, Bool.not_eq_true', decide_eq_false_iff_not, ite_not]
    | maxLength name value bound | minLength name value bound | maxItems name value bound
    | minItems name value bound | range name value bound =>
      rw [apply, noteIf_eq, Check.run]
      simp only [decide_eq_true_eq, gt_iff_lt]
  | nested name checks ih =>
    intro v
    rw [apply, applyAll_eq_of_forall ih, Check.run]
    rfl
  | each name elements ih =>
    intro v
    rw [apply, applyElements_eq_of_forall ih, Check.run]

/-- Checks add their violations to those that a validator has, and change nothing else. -/
theorem applyAll_eq (v : Validator) (checks : List Check) :
    v.applyAll checks = { v with violations := v.violations ++ Check.runAll v.path checks } :=
  applyAll_eq_of_forall (fun check _ => apply_eq check) v

theorem finish_eq_ok_iff {v : Validator} : v.finish = .ok () ↔ v.violations = [] := by
  rw [finish]
  cases v.violations <;> simp

theorem finish_of_ne_nil {v : Validator} (h : v.violations ≠ []) :
    v.finish = .error ⟨v.violations⟩ := by
  rw [finish]
  cases hviolations : v.violations with
  | nil => exact absurd hviolations h
  | cons violation rest => rfl

end Validator

/-! ## All of it together -/

namespace Check

/-- What becomes of some checks below a path. -/
structure IsCompositional (path : String) (checks : List Check) : Prop where
  /-- The violations are those of the single checks that fail, one for each, in the order of
  their positions. -/
  located : ∃ found : List Located, found.map Located.violation = runAll path checks ∧
    found.Pairwise Located.Precedes ∧
    ∀ l, l ∈ found ↔ ∃ way description,
      FailsIn checks l.position way description ∧ l.violation =
        ⟨path ++ dottedName way, description⟩
  /-- Further checks add theirs behind. -/
  append : ∀ more, runAll path (checks ++ more) = runAll path checks ++ runAll path more
  /-- The path stands in front of what the checks report on their own. -/
  below : runAll path checks = (runAll "" checks).map (.below path)
  /-- The checks of a nested object report what they report on their own, below its name. -/
  nested : ∀ name,
    runAll path [nested name (some checks)] =
      (runAll "" checks).map (.below (path ++ name ++ "."))
  /-- The checks of the elements of a list report what they report on their own, one element
  after the other, below the name of the list and the number of the element. -/
  each : ∀ name elements,
    runAll path [each name (some elements)] = (elements.zipIdx 1).flatMap fun (element, n) =>
      (runAll "" element).map (.below (path ++ name ++ "." ++ toString n ++ "."))
  /-- A validator keeps what it has and adds the violations behind. -/
  gathered : ∀ before, (⟨path, before⟩ : Validator).applyAll checks =
    ⟨path, before ++ runAll path checks⟩
  /-- The outcome is good if and only if no single check fails. -/
  accepted : ((⟨path, []⟩ : Validator).applyAll checks).finish = .ok () ↔
    ∀ position way description, ¬ FailsIn checks position way description
  /-- Otherwise it is all the violations. -/
  refused : ∀ position way description, FailsIn checks position way description →
    ((⟨path, []⟩ : Validator).applyAll checks).finish = .error ⟨runAll path checks⟩
  /-- Validation is what a validator without a path makes of the checks. -/
  validated : validate checks = (({} : Validator).applyAll checks).finish

/-- Validation is compositional: every single check counts once, where it stands, whatever is
around it. -/
theorem runAll_compositional (path : String) (checks : List Check) :
    IsCompositional path checks where
  located :=
    ⟨locatedAll path 0 checks,
      map_violation_locatedAll (fun check _ => map_violation_located check) _ _,
      pairwise_locatedAll path checks, mem_locatedAll_iff path checks⟩
  append more := runAll_append path checks more
  below := runAll_eq_map_below path checks
  nested name := by rw [runAll, runAll, List.append_nil, run_nested]
  each name elements := by rw [runAll, runAll, List.append_nil, run_each]
  gathered before := Validator.applyAll_eq _ checks
  accepted := by
    rw [Validator.finish_eq_ok_iff, Validator.applyAll_eq, List.nil_append,
      ← not_iff_not, ← ne_eq, runAll_ne_nil_iff]
    simp only [not_forall, not_not]
  refused position way description h := by
    have hne : runAll path checks ≠ [] := (runAll_ne_nil_iff path checks).2 ⟨_, _, _, h⟩
    rw [Validator.applyAll_eq, List.nil_append]
    exact Validator.finish_of_ne_nil hne
  validated := by
    rw [Validator.applyAll_eq]
    rfl

end Check

end BalancerClient
