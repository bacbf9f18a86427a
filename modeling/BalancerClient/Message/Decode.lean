import BalancerClient.Json.Decode
import BalancerClient.Message.Shape

/-!
# Messages from JSON

A message is read from an object, whose members may stand in any order: names are compared
exactly, members that no field is called by are ignored, and null leaves a field unset.  It is
also read from an array, which gives the fields in the order of their declaration and may be
shorter than the message.

## Main definitions

* `FieldType.decode` - reads the value of a field.
* `Shape.decodeMembers`, `Shape.decodeItems` - read a message from an object and from an
  array.
* `MessageType.ofJson` - reads a message of a type.
-/

namespace BalancerClient

mutual

/-- Reads the value of a field that is set. -/
def FieldType.decode : (type : FieldType) → Json → Except DecodeError type.Value
  | .text, v => v.asText
  | .int32, v => v.asInt32
  | .int64, v => v.asInt64
  | .flag, v => v.asFlag
  | .list item, v => v.asList item.decode
  | .message _ shape, .obj members =>
    members.foldlM (fun m (name, v) => shape.decodeMember name v m) shape.unset
  | .message _ shape, .arr items =>
    match shape.decodeItems items with
    | .error error => .error error
    | .ok (m, left) => if left = 0 then .ok m else .error (.tooManyItems items.length)
  | .message name _, v => .error (.wrongKind v ("struct " ++ name))
termination_by structural type => type

/-- Reads a message with the given member: the field called by its name is set from its value,
or unset if that is null. -/
def Shape.decodeMember : (shape : Shape) → (name : String) → Json → shape.Values →
    Except DecodeError shape.Values
  | .nil, _, _, m => .ok m
  | .cons field type rest, name, v, (w, m) =>
    if field.wire = name then (v.asOptional type.decode).map (·, m)
    else (rest.decodeMember name v m).map (w, ·)
termination_by structural shape => shape

/-- Reads the fields of a message from the items of an array, and counts the items left
over. -/
def Shape.decodeItems : (shape : Shape) → List Json → Except DecodeError (shape.Values × Nat)
  | .nil, items => .ok ((), items.length)
  | .cons field type rest, [] => .ok ((Shape.cons field type rest).unset, 0)
  | .cons _ type rest, v :: items =>
    match v.asOptional type.decode with
    | .error error => .error error
    | .ok w => (rest.decodeItems items).map fun (m, left) => ((w, m), left)
termination_by structural shape => shape

end

/-- Reads a message with the given members, one after the other. -/
def Shape.decodeMembers (shape : Shape) (members : List (String × Json)) (m : shape.Values) :
    Except DecodeError shape.Values :=
  members.foldlM (fun m (name, v) => shape.decodeMember name v m) m

theorem FieldType.decode_obj (name : String) (shape : Shape)
    (members : List (String × Json)) : (FieldType.message name shape).decode (.obj members) =
      shape.decodeMembers members shape.unset := rfl

/-- Reads a message of a type. -/
def MessageType.ofJson (type : MessageType) (v : Json) : Except DecodeError (Message type) :=
  (FieldType.message type.name type.shape).decode v

end BalancerClient
