/-!
# Violations of request constraints

A request that breaks its constraints is refused with the complete list of what is wrong, one
entry per broken constraint and place.

## Main definitions

* `Violation` - the path of a field and what is wrong with it.
* `ValidationError` - the violations of a request, with its message.
-/

namespace BalancerClient

/-- What is wrong with the field at a path. -/
structure Violation where
  field : String
  description : String
  deriving DecidableEq, Repr

/-- A violation in words. -/
def Violation.message (v : Violation) : String := v.field ++ ": " ++ v.description

/-- Everything that is wrong with a request. -/
structure ValidationError where
  violations : List Violation
  deriving DecidableEq, Repr

namespace ValidationError

/-- A single field that is required and not set. -/
def missing (field : String) : ValidationError := ⟨[⟨field, "field is required"⟩]⟩

/-- The violations in words, in their order. -/
def message (e : ValidationError) : String :=
  "; ".intercalate (e.violations.map Violation.message)

end ValidationError

end BalancerClient
