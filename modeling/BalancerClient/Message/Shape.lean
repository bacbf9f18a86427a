/-!
# Message types

A message is a record of named fields, all of which may be unset.  A field holds a text, an
integer of 32 or 64 bits, a truth value, a list, or another message.  Its description also
lists the constraints that a request has to keep, with the names that they are reported under.

The types of messages are data, so whatever is said of messages is said once, by recursion on
their type, and holds of all of them.

## Main definitions

* `Rule`, `ListedRule`, `Field` - a constraint, one with a name, and the description of a
  field.
* `FieldType`, `Shape`, `MessageType` - what a field holds, the fields of a message, and a
  named message.
* `FieldType.Value`, `Shape.Values`, `Message` - the values of these types.
* `Slot` - a place in a shape, to read and to set.
-/

namespace BalancerClient

/-- A constraint on the value of a field. -/
inductive Rule where
  | required
  | minLength (min : Nat)
  | maxLength (max : Nat)
  | oneOf (allowed : List String)
  | range (min max : Int)
  | minItems (min : Nat)
  | maxItems (max : Nat)
  deriving DecidableEq, Repr

/-- A constraint as it is listed, with the name that it is reported under. -/
structure ListedRule where
  name : String
  rule : Rule
  deriving DecidableEq, Repr

/-- The description of a field: its name on the wire, its label for callers, and its
constraints. -/
structure Field where
  wire : String
  label : String
  listed : List ListedRule
  /-- The name under which the messages in the field are checked, if they are. -/
  inside : Option String := none
  deriving DecidableEq, Repr

/-- The rules of a field. -/
def Field.rules (field : Field) : List Rule := field.listed.map ListedRule.rule

mutual

/-- What a field holds. -/
inductive FieldType where
  | text
  | int32
  | int64
  | flag
  | list (item : FieldType)
  | message (name : String) (shape : Shape)

/-- The fields of a message, in the order of their declaration. -/
inductive Shape where
  | nil
  | cons (field : Field) (type : FieldType) (rest : Shape)

end

/-- A named message type. -/
structure MessageType where
  name : String
  shape : Shape

/-! ## Values -/

mutual

/-- The values of a field that is set. -/
@[reducible] def FieldType.Value : FieldType → Type
  | .text => String
  | .int32 => Int32
  | .int64 => Int64
  | .flag => Bool
  | .list item => List item.Value
  | .message _ shape => shape.Values
termination_by structural type => type

/-- The values of the fields of a message, each of which may be unset. -/
@[reducible] def Shape.Values : Shape → Type
  | .nil => Unit
  | .cons _ type rest => Option type.Value × rest.Values
termination_by structural shape => shape

end

/-- The messages of a type. -/
abbrev Message (type : MessageType) : Type := type.shape.Values

/-- The message with no field set. -/
def Shape.unset : (shape : Shape) → shape.Values
  | .nil => ()
  | .cons _ _ rest => (none, rest.unset)

/-- The message of a type with no field set. -/
def MessageType.unset (type : MessageType) : Message type := type.shape.unset

mutual

/-- Equality of the values of a field can be decided. -/
def FieldType.decideEq : (type : FieldType) → DecidableEq type.Value
  | .text => inferInstanceAs (DecidableEq String)
  | .int32 => inferInstanceAs (DecidableEq Int32)
  | .int64 => inferInstanceAs (DecidableEq Int64)
  | .flag => inferInstanceAs (DecidableEq Bool)
  | .list item => @instDecidableEqList item.Value item.decideEq
  | .message _ shape => shape.decideEq
termination_by structural type => type

/-- Equality of messages can be decided. -/
def Shape.decideEq : (shape : Shape) → DecidableEq shape.Values
  | .nil => inferInstanceAs (DecidableEq Unit)
  | .cons _ type rest =>
    letI := type.decideEq
    letI := rest.decideEq
    inferInstanceAs (DecidableEq (Option type.Value × rest.Values))
termination_by structural shape => shape

end

instance (type : FieldType) : DecidableEq type.Value := type.decideEq

instance (shape : Shape) : DecidableEq shape.Values := shape.decideEq

instance (type : MessageType) : DecidableEq (Message type) := type.shape.decideEq

/-! ## Places -/

/-- A place in a shape, for a field of the given type. -/
inductive Slot : Shape → FieldType → Type where
  | here {field : Field} {type : FieldType} {rest : Shape} : Slot (.cons field type rest) type
  | there {field : Field} {other type : FieldType} {rest : Shape} (slot : Slot rest type) :
    Slot (.cons field other rest) type

namespace Slot

/-- The description of the field at a place. -/
def field : {shape : Shape} → {type : FieldType} → Slot shape type → Field
  | .cons field _ _, _, .here => field
  | .cons _ _ _, _, .there slot => slot.field

/-- The value at a place. -/
def get : {shape : Shape} → {type : FieldType} → Slot shape type → shape.Values →
    Option type.Value
  | .cons _ _ _, _, .here, (v, _) => v
  | .cons _ _ _, _, .there slot, (_, rest) => slot.get rest

/-- The message with another value at a place. -/
def set : {shape : Shape} → {type : FieldType} → Slot shape type → Option type.Value →
    shape.Values → shape.Values
  | .cons _ _ _, _, .here, v, (_, rest) => (v, rest)
  | .cons _ _ _, _, .there slot, v, (w, rest) => (w, slot.set v rest)

/-- The number of fields before a place. -/
def index : {shape : Shape} → {type : FieldType} → Slot shape type → Nat
  | .cons _ _ _, _, .here => 0
  | .cons _ _ _, _, .there slot => slot.index + 1

/-- What was set is read back. -/
@[simp] theorem get_set {type : FieldType} (v : Option type.Value) :
    ∀ {shape : Shape} (slot : Slot shape type) (m : shape.Values), slot.get (slot.set v m) = v
  | .cons _ _ _, .here, (_, _) => rfl
  | .cons _ _ _, .there slot, (_, rest) => get_set v slot rest

/-- Setting what is there changes nothing. -/
@[simp] theorem set_get {type : FieldType} :
    ∀ {shape : Shape} (slot : Slot shape type) (m : shape.Values), slot.set (slot.get m) m = m
  | .cons _ _ _, .here, (_, _) => rfl
  | .cons _ _ _, .there slot, (w, rest) => congrArg (Prod.mk w) (set_get slot rest)

/-- The last value set at a place stays. -/
@[simp] theorem set_set {type : FieldType} (v w : Option type.Value) :
    ∀ {shape : Shape} (slot : Slot shape type) (m : shape.Values),
      slot.set v (slot.set w m) = slot.set v m
  | .cons _ _ _, .here, (_, _) => rfl
  | .cons _ _ _, .there slot, (u, rest) => congrArg (Prod.mk u) (set_set v w slot rest)

/-- Setting one place leaves the others alone. -/
theorem get_set_of_index_ne :
    ∀ {shape : Shape} {a b : FieldType} (i : Slot shape a) (j : Slot shape b)
      (v : Option b.Value) (m : shape.Values), i.index ≠ j.index → i.get (j.set v m) = i.get m
  | .cons _ _ _, _, _, .here, .here, _, _, h => absurd rfl h
  | .cons _ _ _, _, _, .here, .there _, _, (_, _), _ => rfl
  | .cons _ _ _, _, _, .there _, .here, _, (_, _), _ => rfl
  | .cons _ _ _, _, _, .there i, .there j, v, (_, rest), h =>
    get_set_of_index_ne i j v rest fun e => h (congrArg (· + 1) e)

/-- Settings of two places can be exchanged. -/
theorem set_comm :
    ∀ {shape : Shape} {a b : FieldType} (i : Slot shape a) (j : Slot shape b)
      (v : Option a.Value) (w : Option b.Value) (m : shape.Values),
      i.index ≠ j.index → i.set v (j.set w m) = j.set w (i.set v m)
  | .cons _ _ _, _, _, .here, .here, _, _, _, h => absurd rfl h
  | .cons _ _ _, _, _, .here, .there _, _, _, (_, _), _ => rfl
  | .cons _ _ _, _, _, .there _, .here, _, _, (_, _), _ => rfl
  | .cons _ _ _, _, _, .there i, .there j, v, w, (u, rest), h =>
    congrArg (Prod.mk u) (set_comm i j v w rest fun e => h (congrArg (· + 1) e))

end Slot

namespace Shape

/-- The shape of a list of columns. -/
def ofList : List (Field × FieldType) → Shape
  | [] => .nil
  | (field, type) :: rest => .cons field type (ofList rest)

/-- The descriptions of the fields. -/
def fields : Shape → List Field
  | .nil => []
  | .cons field _ rest => field :: rest.fields

/-- The number of fields. -/
def size : Shape → Nat
  | .nil => 0
  | .cons _ _ rest => rest.size + 1

/-- The place of the field with a label. -/
def slot? : (shape : Shape) → (label : String) → Option ((type : FieldType) × Slot shape type)
  | .nil, _ => none
  | .cons field type rest, label =>
    if field.label = label then some ⟨type, .here⟩
    else (rest.slot? label).map fun ⟨type, slot⟩ => ⟨type, .there slot⟩

end Shape

/-- A place belongs to one of the fields. -/
theorem Slot.field_mem_fields {shape : Shape} {type : FieldType} (slot : Slot shape type) :
    slot.field ∈ shape.fields := by
  induction slot with
  | here => exact List.mem_cons_self
  | there slot ih => exact List.mem_cons_of_mem _ ih

end BalancerClient
