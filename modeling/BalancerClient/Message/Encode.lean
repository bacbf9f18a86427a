import BalancerClient.Json.Basic
import BalancerClient.Message.Shape

/-!
# Messages as JSON objects

A message is written as an object of the fields that are set, under their names on the wire
and in the order of their declaration.

## Main definitions

* `FieldType.encode` - a value as JSON.
* `Shape.encode` - the members of a message's object.
* `Message.toJson` - a message as JSON.
-/

namespace BalancerClient

mutual

/-- The JSON value of a field that is set. -/
def FieldType.encode : (type : FieldType) → type.Value → Json
  | .text, s => .str s
  | .int32, n => .int n.toInt
  | .int64, n => .int n.toInt
  | .flag, b => .bool b
  | .list item, vs => .arr (vs.map item.encode)
  | .message _ shape, m => .obj (shape.encode m)
termination_by structural type => type

/-- The members of a message's object. -/
def Shape.encode : (shape : Shape) → shape.Values → List (String × Json)
  | .nil, _ => []
  | .cons _ _ rest, (none, m) => rest.encode m
  | .cons field type rest, (some v, m) => (field.wire, type.encode v) :: rest.encode m
termination_by structural shape => shape

end

/-- A message as a JSON object. -/
def Message.toJson {type : MessageType} (m : Message type) : Json :=
  .obj (type.shape.encode m)

@[simp] theorem Shape.encode_unset : ∀ shape : Shape, shape.encode shape.unset = []
  | .nil => rfl
  | .cons _ _ rest => by
    show rest.encode rest.unset = []
    exact encode_unset rest

end BalancerClient
