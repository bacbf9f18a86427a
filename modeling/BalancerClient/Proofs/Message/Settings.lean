import BalancerClient.Message.Update
import BalancerClient.Proofs.Message.Encode
import BalancerClient.Session.Trail

/-!
# Settings keep to their places

A setting writes one place of a message.  After any run of settings a place holds what was
written to it last, or what it held before, so settings of different places can be exchanged.
A setter is called by the label of the field that it sets, and the labels of the fields of a
message differ.

## Main definitions

* `Slot.carry?` - a value of one place as a value of another, if the two are the same.
* `Setting.at?` - what a setting writes to a place.
* `Shape.isWellLabelled` - the labels of a shape are fit for names of setters.

## Main statements

* `Slot.get_set_eq` - what is at a place after another one was set.
* `Setting.get_applyAll` - what is at a place after a run of settings.
* `Slot.setter?_label` - the setter called by the label of a field is at the place of the
  field.
-/

namespace BalancerClient

/-! ## Places -/

namespace Slot

/-- A value of one place as a value of another, if the two are the same. -/
def carry? : {shape : Shape} → {a b : FieldType} → Slot shape a → Slot shape b →
    Option a.Value → Option (Option b.Value)
  | .cons _ _ _, _, _, .here, .here, v => some v
  | .cons _ _ _, _, _, .there i, .there j, v => i.carry? j v
  | .cons _ _ _, _, _, .here, .there _, _ => none
  | .cons _ _ _, _, _, .there _, .here, _ => none

/-- A place holds what was set there, or what it held if another place was set. -/
theorem get_set_eq : ∀ {shape : Shape} {a b : FieldType} (i : Slot shape a) (j : Slot shape b)
    (v : Option a.Value) (m : shape.Values), j.get (i.set v m) = (i.carry? j v).getD (j.get m)
  | .cons _ _ _, _, _, .here, .here, _, (_, _) => rfl
  | .cons _ _ _, _, _, .here, .there _, _, (_, _) => rfl
  | .cons _ _ _, _, _, .there _, .here, _, (_, _) => rfl
  | .cons _ _ _, _, _, .there i, .there j, v, (_, rest) => get_set_eq i j v rest

/-- Places with the same number are places of the same field. -/
theorem field_eq_of_index_eq :
    ∀ {shape : Shape} {a b : FieldType} (i : Slot shape a) (j : Slot shape b),
    i.index = j.index → i.field = j.field
  | .cons _ _ _, _, _, .here, .here, _ => rfl
  | .cons _ _ _, _, _, .there i, .there j, h => field_eq_of_index_eq i j (Nat.succ.inj h)
  | .cons _ _ _, _, _, .here, .there _, h => nomatch h
  | .cons _ _ _, _, _, .there _, .here, h => nomatch h

/-- A message is what it holds at its places. -/
theorem ext_get : ∀ {shape : Shape} {m m' : shape.Values},
    (∀ (type : FieldType) (slot : Slot shape type), slot.get m = slot.get m') → m = m'
  | .nil, _, _, _ => rfl
  | .cons _ type rest, (v, m), (v', m'), h => by
    have hfirst : v = v' := h type .here
    have hrest : m = m' := ext_get fun type slot => h type (.there slot)
    rw [hfirst, hrest]

end Slot

/-! ## Runs of settings -/

namespace Setting

variable {shape : Shape}

/-- What a setting writes to a place, if it is one of that place. -/
def at? (s : Setting shape) {type : FieldType} (slot : Slot shape type) :
    Option (Option type.Value) :=
  s.setter.slot.carry? slot s.value

/-- After a run of settings a place holds what was written to it last, or what it held
before. -/
theorem get_applyAll (settings : List (Setting shape)) (m : shape.Values) {type : FieldType}
    (slot : Slot shape type) : slot.get (applyAll settings m) =
      (settings.filterMap (·.at? slot)).getLast?.getD (slot.get m) := by
  have hstep : ∀ (m : shape.Values) (s : Setting shape),
      slot.get (s.apply m) = (s.at? slot).getD (slot.get m) := by
    intro m s
    exact Slot.get_set_eq s.setter.slot slot s.value m
  exact view_foldl hstep m settings

/-- Runs that write the same last to every place come to the same. -/
theorem applyAll_congr {settings settings' : List (Setting shape)}
    (h : ∀ (type : FieldType) (slot : Slot shape type),
      (settings'.filterMap (·.at? slot)).getLast? =
        (settings.filterMap (·.at? slot)).getLast?)
    (m : shape.Values) : applyAll settings' m = applyAll settings m := by
  refine Slot.ext_get ?_
  intro type slot
  rw [get_applyAll, get_applyAll, h]

/-- Settings of different places can be exchanged. -/
theorem apply_comm {a b : Setting shape} (h : a.setter.slot.index ≠ b.setter.slot.index)
    (m : shape.Values) : a.apply (b.apply m) = b.apply (a.apply m) :=
  Slot.set_comm a.setter.slot b.setter.slot a.value b.value m h

end Setting

/-! ## Names of setters -/

namespace Shape

/-- The labels of the fields. -/
def labels (shape : Shape) : List String := shape.fields.map Field.label

/-- Whether the labels differ, and none makes the name of a setter look like one that
clears. -/
def isWellLabelled (shape : Shape) : Bool :=
  decide shape.labels.Nodup && shape.labels.all fun label =>
    !"or_clear_".toList.isPrefixOf label.toList

end Shape

namespace Slot

variable {type : FieldType}

theorem label_mem_labels {shape : Shape} (slot : Slot shape type) :
    slot.field.label ∈ shape.labels :=
  List.mem_map_of_mem slot.field_mem_fields

/-- Under different labels, the place that is found by the label of a field is the field's. -/
theorem slot?_label {shape : Shape} (slot : Slot shape type) (h : shape.labels.Nodup) :
    shape.slot? slot.field.label = some ⟨type, slot⟩ := by
  induction slot with
  | here => exact if_pos rfl
  | @there field other type rest slot ih =>
    obtain ⟨hlabel, hrest⟩ := List.nodup_cons.1 h
    have hne : field.label ≠ slot.field.label := by
      intro heq
      exact hlabel (heq ▸ slot.label_mem_labels)
    rw [Slot.field, Shape.slot?, if_neg hne, ih hrest]
    rfl

end Slot

theorem settingName?_set {label : String}
    (h : "or_clear_".toList.isPrefixOf label.toList = false) :
    settingName? ("set_" ++ label) = some (label, false) := by
  have hclears : "set_or_clear_".toList.isPrefixOf ("set_" ++ label).toList = false := by
    rw [String.toList_append]
    exact h
  have hsets : "set_".toList.isPrefixOf ("set_" ++ label).toList = true := by
    rw [String.toList_append]
    rfl
  have hrest : ("set_" ++ label).toList.drop "set_".length = label.toList := by
    rw [String.toList_append]
    rfl
  simp only [settingName?, hclears, hsets, hrest, Bool.false_eq_true, if_false, if_true,
    String.ofList_toList, Option.map_some]

theorem settingName?_setOrClear (label : String) :
    settingName? ("set_or_clear_" ++ label) = some (label, true) := by
  have hclears : "set_or_clear_".toList.isPrefixOf ("set_or_clear_" ++ label).toList =
      true := by
    rw [String.toList_append]
    rfl
  have hrest : ("set_or_clear_" ++ label).toList.drop "set_or_clear_".length =
      label.toList := by
    rw [String.toList_append]
    rfl
  simp only [settingName?, hclears, hrest, if_true, String.ofList_toList]

namespace Slot

variable {type : FieldType} {shape : Shape} (slot : Slot shape type)

/-- The setters called by the label of a field are at the place of the field, and only a
message can be cleared. -/
theorem setter?_label (h : shape.isWellLabelled = true) :
    shape.setter? ("set_" ++ slot.field.label) = some ⟨type, slot, false⟩ ∧
      shape.setter? ("set_or_clear_" ++ slot.field.label) =
        if type.isMessage then some ⟨type, slot, true⟩ else none := by
  obtain ⟨hnodup, hlabels⟩ := Bool.and_eq_true_iff.1 h
  have hslot := slot.slot?_label (of_decide_eq_true hnodup)
  have hlabel : "or_clear_".toList.isPrefixOf slot.field.label.toList = false := by
    simpa using List.all_eq_true.1 hlabels _ slot.label_mem_labels
  constructor
  · simp [Shape.setter?, settingName?_set hlabel, hslot]
  · cases hmessage : type.isMessage <;>
      simp [Shape.setter?, settingName?_setOrClear, hslot, hmessage]

end Slot

end BalancerClient
