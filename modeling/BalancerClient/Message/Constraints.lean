import BalancerClient.Message.Shape
import BalancerClient.Validation.Check

/-!
# The constraints of a message

The rules of a message's fields, applied to its values, are a list of checks: field by field
in the order of declaration, the rules of a field first and then, for a message or a list of
messages, the checks of what it holds.  Every check goes by the name that it is listed with.

## Main definitions

* `Facet` - what rules can see of a value.
* `Rule.check` - a rule applied to a field.
* `Shape.checks` - the checks of a message.
* `MessageType.validate` - the outcome of these checks.
-/

namespace BalancerClient

/-- What rules can see of a value. -/
inductive Facet where
  | text (value : String)
  | integer (value : Int)
  | items (count : Nat)
  | other

/-- What rules can see of a value of a field. -/
def FieldType.facet : (type : FieldType) → type.Value → Facet
  | .text, s => .text s
  | .int32, n => .integer n.toInt
  | .int64, n => .integer n.toInt
  | .flag, _ => .other
  | .list _, vs => .items vs.length
  | .message _ _, _ => .other

/-- The text of a facet. -/
def Facet.text? : Facet → Option String
  | text value => some value
  | _ => none

/-- The integer of a facet. -/
def Facet.integer? : Facet → Option Int
  | integer value => some value
  | _ => none

/-- The number of items of a facet. -/
def Facet.items? : Facet → Option Nat
  | items count => some count
  | _ => none

/-- A rule applied to a field that may be unset. -/
def Rule.check (rule : Rule) (name : String) (value : Option Facet) : Check :=
  match rule with
  | .required => .required name value.isSome
  | .minLength min => .minLength name (value.bind Facet.text?) min
  | .maxLength max => .maxLength name (value.bind Facet.text?) max
  | .oneOf allowed => .oneOf name (value.bind Facet.text?) allowed
  | .range min max => .range name (value.bind Facet.integer?) min max
  | .minItems min => .minItems name (value.bind Facet.items?) min
  | .maxItems max => .maxItems name (value.bind Facet.items?) max

mutual

/-- The checks of the messages that a field holds. -/
def FieldType.innerChecks :
    (type : FieldType) → (name : String) → Option type.Value → List Check
  | .message _ shape, name, m => [.nested name (m.map shape.checks)]
  | .list (.message _ shape), name, ms => [.each name (ms.map (List.map shape.checks))]
  | _, _, _ => []
termination_by structural type => type

/-- The checks of a message. -/
def Shape.checks : (shape : Shape) → shape.Values → List Check
  | .nil, _ => []
  | .cons field type rest, (v, m) =>
    field.listed.map (fun l => l.rule.check l.name (v.map type.facet)) ++
      (field.inside.toList.flatMap (type.innerChecks · v) ++ rest.checks m)
termination_by structural shape => shape

end

/-- Refuses a message that breaks its constraints. -/
def MessageType.validate (type : MessageType) (m : Message type) :
    Except ValidationError Unit :=
  Check.validate (type.shape.checks m)

end BalancerClient
