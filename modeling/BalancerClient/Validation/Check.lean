import BalancerClient.Validation.Violation

/-!
# Checks and their violations

Constraints are trees of checks.  A leaf looks at the value of one field, which may be unset:
an unset field breaks no constraint but being required.  A node checks a nested object or
every element of a list, under the name of the field; elements are counted from 1.

## Main definitions

* `Check` - a check; `Check.run`, `Check.runAll` - its violations, with a path put in front.
* `Check.validate` - the outcome of a list of checks.
-/

namespace BalancerClient

/-- A check of one field. -/
inductive Check where
  /-- The field is set. -/
  | required (name : String) (isSet : Bool)
  /-- A text has at most so many characters. -/
  | maxLength (name : String) (value : Option String) (max : Nat)
  /-- A text has at least so many characters. -/
  | minLength (name : String) (value : Option String) (min : Nat)
  /-- An integer lies between two bounds, both allowed. -/
  | range (name : String) (value : Option Int) (min max : Int)
  /-- A text is one of a list. -/
  | oneOf (name : String) (value : Option String) (allowed : List String)
  /-- A list has at most so many items. -/
  | maxItems (name : String) (count : Option Nat) (max : Nat)
  /-- A list has at least so many items. -/
  | minItems (name : String) (count : Option Nat) (min : Nat)
  /-- The checks of a nested object. -/
  | nested (name : String) (value : Option (List Check))
  /-- The checks of every element of a list. -/
  | each (name : String) (elements : Option (List (List Check)))
  deriving Inhabited

namespace Check

/-- What is wrong with a text that is too long. -/
def tooLong (length max : Nat) : String :=
  "length " ++ toString length ++ " exceeds the maximum length " ++ toString max

/-- What is wrong with a text that is too short. -/
def tooShort (length min : Nat) : String :=
  "length " ++ toString length ++ " is below the minimum length " ++ toString min

/-- What is wrong with an integer outside its bounds. -/
def outside (value min max : Int) : String :=
  "value " ++ toString value ++ " is outside the range [" ++ toString min ++ ", " ++
    toString max ++ "]"

/-- What is wrong with a text that is not allowed. -/
def notAllowed (value : String) (allowed : List String) : String :=
  "value " ++ value ++ " is not one of [" ++ ", ".intercalate allowed ++ "]"

/-- What is wrong with a list that is too long. -/
def tooMany (count max : Nat) : String :=
  toString count ++ " items exceed the maximum of " ++ toString max

/-- What is wrong with a list that is too short. -/
def tooFew (count min : Nat) : String :=
  toString count ++ " items are below the minimum of " ++ toString min

/-- A violation of the field `name` below `path`, if there is something to describe. -/
def report (path name : String) (description : Option String) : List Violation :=
  (description.map fun d => ⟨path ++ name, d⟩).toList

mutual

/-- The violations of a check, with `path` in front of the names of its fields. -/
def run (path : String) : Check → List Violation
  | required name isSet => report path name (if isSet then none else some "field is required")
  | maxLength name value max =>
    report path name <| value.bind fun s =>
      if s.length > max then some (tooLong s.length max) else none
  | minLength name value min =>
    report path name <| value.bind fun s =>
      if s.length < min then some (tooShort s.length min) else none
  | range name value min max =>
    report path name <| value.bind fun i =>
      if i < min ∨ max < i then some (outside i min max) else none
  | oneOf name value allowed =>
    report path name <| value.bind fun s =>
      if s ∈ allowed then none else some (notAllowed s allowed)
  | maxItems name count max =>
    report path name <| count.bind fun n => if n > max then some (tooMany n max) else none
  | minItems name count min =>
    report path name <| count.bind fun n => if n < min then some (tooFew n min) else none
  | nested _ none => []
  | nested name (some checks) => runAll (path ++ name ++ ".") checks
  | each _ none => []
  | each name (some elements) => runElements (path ++ name ++ ".") 1 elements
termination_by structural check => check

/-- The violations of checks, one after the other. -/
def runAll (path : String) : List Check → List Violation
  | [] => []
  | check :: rest => check.run path ++ runAll path rest
termination_by structural checks => checks

/-- The violations of the elements of a list, the first of which has the given number. -/
def runElements (path : String) (number : Nat) : List (List Check) → List Violation
  | [] => []
  | checks :: rest =>
    runAll (path ++ toString number ++ ".") checks ++ runElements path (number + 1) rest
termination_by structural elements => elements

end

/-- Refuses checks that have a violation, with all of them. -/
def validate (checks : List Check) : Except ValidationError Unit :=
  match runAll "" checks with
  | [] => .ok ()
  | violations => .error ⟨violations⟩

end Check

end BalancerClient
