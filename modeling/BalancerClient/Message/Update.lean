import BalancerClient.Message.Decode

/-!
# Setting fields by name

A caller sets a field by its label, one field at a time.  A field that holds a message can
also be cleared.

## Main definitions

* `Setter` - a place to set, and whether it may be cleared.
* `Shape.setter?` - the setter of a name.
* `Setting` - a setter with its value; `Setting.apply` sets the field.
* `Setter.apply` - sets the field from a JSON value.
-/

namespace BalancerClient

/-- A field to set. -/
structure Setter (shape : Shape) where
  type : FieldType
  slot : Slot shape type
  /-- Whether null clears the field. -/
  clears : Bool

/-- Whether a field holds a message. -/
def FieldType.isMessage : FieldType → Bool
  | .message _ _ => true
  | _ => false

/-- The text after `set_or_clear_` or `set_`, and whether it was the former. -/
def settingName? (name : String) : Option (String × Bool) :=
  let after (start : String) : Option String :=
    if start.toList.isPrefixOf name.toList then
      some (String.ofList (name.toList.drop start.length))
    else none
  match after "set_or_clear_" with
  | some label => some (label, true)
  | none => (after "set_").map (·, false)

/-- The setter of a name: `set_` and a label, or `set_or_clear_` and the label of a
message. -/
def Shape.setter? (shape : Shape) (name : String) : Option (Setter shape) := do
  let (label, clears) ← settingName? name
  let ⟨type, slot⟩ ← shape.slot? label
  if clears && !type.isMessage then none else some ⟨type, slot, clears⟩

/-- A setter with the value that it is given. -/
structure Setting (shape : Shape) where
  setter : Setter shape
  value : Option setter.type.Value
  /-- Only a setter that clears can be given nothing. -/
  clears_of_none : value = none → setter.clears = true

/-- The message with the field set. -/
def Setting.apply {shape : Shape} (s : Setting shape) (m : shape.Values) : shape.Values :=
  s.setter.slot.set s.value m

/-- The message after settings, one after the other. -/
def Setting.applyAll {shape : Shape} (settings : List (Setting shape)) (m : shape.Values) :
    shape.Values :=
  settings.foldl (fun m s => s.apply m) m

/-- The setting that a setter makes of a JSON value. -/
def Setter.setting {shape : Shape} (s : Setter shape) (v : Json) :
    Except DecodeError (Setting shape) :=
  if h : s.clears = true then
    (v.asOptional s.type.decode).map fun w =>
      { setter := s, value := w, clears_of_none := fun _ => h }
  else
    (s.type.decode v).map fun w => { setter := s, value := some w, clears_of_none := nofun }

/-- The message with the field set from a JSON value. -/
def Setter.apply {shape : Shape} (s : Setter shape) (v : Json) (m : shape.Values) :
    Except DecodeError shape.Values :=
  (s.setting v).map fun setting => setting.apply m

end BalancerClient
