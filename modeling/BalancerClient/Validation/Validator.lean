import BalancerClient.Validation.Check

/-!
# Validators

A validator stands at a path and holds the violations found so far.  A check of a single field
adds what is wrong with the field.  Nested checks go to a validator of their own, further down
the path, whose violations are taken over once it has seen all of them.

## Main definitions

* `Validator` - a path and the violations so far.
* `Validator.apply`, `Validator.applyAll` - the validator after a check, and after some
  checks.
* `Validator.finish` - the outcome.
-/

namespace BalancerClient

/-- Gathers the violations below a path. -/
structure Validator where
  path : String := ""
  violations : List Violation := []
  deriving DecidableEq, Repr

namespace Validator

/-- Something is wrong with a field. -/
def note (v : Validator) (name description : String) : Validator :=
  { v with violations := v.violations ++ [⟨v.path ++ name, description⟩] }

/-- Something may be wrong with the value of a field, if it is set. -/
def noteIf {α : Type} (v : Validator) (name : String) (value : Option α) (wrong : α → Bool)
    (description : α → String) : Validator :=
  match value with
  | none => v
  | some a => if wrong a then v.note name (description a) else v

/-- Takes over the violations of another validator. -/
def adopt (v child : Validator) : Validator :=
  { v with violations := v.violations ++ child.violations }

mutual

/-- The validator after a check. -/
def apply (v : Validator) : Check → Validator
  | .required name isSet => if isSet then v else v.note name "field is required"
  | .maxLength name value max =>
    v.noteIf name value (max < ·.length) fun s => Check.tooLong s.length max
  | .minLength name value min =>
    v.noteIf name value (·.length < min) fun s => Check.tooShort s.length min
  | .range name value min max =>
    v.noteIf name value (fun i => i < min ∨ max < i) fun i => Check.outside i min max
  | .oneOf name value allowed =>
    v.noteIf name value (· ∉ allowed) fun s => Check.notAllowed s allowed
  | .maxItems name count max => v.noteIf name count (max < ·) fun n => Check.tooMany n max
  | .minItems name count min => v.noteIf name count (· < min) fun n => Check.tooFew n min
  | .nested _ none => v
  | .nested name (some checks) => v.adopt (applyAll { path := v.path ++ name ++ "." } checks)
  | .each _ none => v
  | .each name (some elements) => v.applyElements name 1 elements
termination_by structural check => check

/-- The validator after some checks, one after the other. -/
def applyAll (v : Validator) : List Check → Validator
  | [] => v
  | check :: rest => (v.apply check).applyAll rest
termination_by structural checks => checks

/-- The validator after the checks of the elements of a list, the first of which has the given
number. -/
def applyElements (v : Validator) (name : String) (number : Nat) :
    List (List Check) → Validator
  | [] => v
  | checks :: rest =>
    (v.adopt (applyAll { path := v.path ++ name ++ "." ++ toString number ++ "." }
      checks)).applyElements name (number + 1) rest
termination_by structural elements => elements

end

/-- Refuses what has a violation, with all of them. -/
def finish (v : Validator) : Except ValidationError Unit :=
  match v.violations with
  | [] => .ok ()
  | violations => .error ⟨violations⟩

end Validator

end BalancerClient
