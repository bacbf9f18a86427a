import BalancerClient.Proofs.Request.Fields

/-!
# What the parameters show of a field

Every field of a typed request can be told from the parameters that stand at its wire name and
below it.  An unset field has none; a scalar has the one at its name; a packed list or message
has the one at its name, even when it is empty; any other list or message has one below its
name for each scalar that is set inside it, and none at its name.

## Main definitions

* `Parameters.below` - the parameters below a name.
* `Parameters.Shows` - parameters show a field that holds a value.

## Main statements

* `Slot.shows_shape` - the parameters of a well-named message show each of its fields.
* `Operation.assemble_shows` - the same for the requests of every operation, and nothing else
  is there.
-/

namespace BalancerClient

/-! ## Parameters at a name and below it -/

namespace Parameters

/-- The parameters below a name. -/
def below (p : Parameters) (name : String) : List (String × String) :=
  p.entries.filter fun e => decide (IsBelow name e.1)

/-- Parameters show an array or an object at a name: by its text if it is packed, else by the
scalars inside it, one to one. -/
def ShowsParts (p : Parameters) (name : String) (packed : Bool) (type : FieldType)
    (v : type.Value) :
    Prop :=
  if packed then p.get? name = some (type.encode v).compact ∧ p.below name = []
  else p.get? name = none ∧
    (p.below name).Perm ((type.scalars v).map fun l => (dottedName (name :: l.path), l.text))

/-- Parameters show a field at a name. -/
def Shows (p : Parameters) (name : String) (packed : Bool) :
    (type : FieldType) → Option type.Value → Prop
  | _, none => p.get? name = none ∧ p.below name = []
  | .text, some s => p.get? name = some s ∧ p.below name = []
  | .int32, some n => p.get? name = some (toString n.toInt) ∧ p.below name = []
  | .int64, some n => p.get? name = some (toString n.toInt) ∧ p.below name = []
  | .flag, some b => p.get? name = some (toString b) ∧ p.below name = []
  | .list item, some vs => p.ShowsParts name packed (.list item) vs
  | .message title shape, some m => p.ShowsParts name packed (.message title shape) m

end Parameters

/-! ## The parameters of a field -/

namespace Slot

variable {d : Descriptor} {shape : Shape} {type : FieldType} (h : shape.isWellNamed = true)
  (slot : Slot shape type) (m : shape.Values)

include h

/-- The parameter at the name of a field comes from the field itself. -/
theorem get?_shape (text : String) :
    (WireRequest.shape d (shape.encode m)).get? slot.field.wire = some text ↔
      ⟨[slot.field.wire], text⟩ ∈ slot.sources d.isPacked m := by
  obtain ⟨hdistinct, hallow⟩ := Shape.namesAllow_encode d h m
  rw [WireRequest.get?_shape_iff hdistinct hallow, Shape.sources_encode,
    ← filter_sources slot m h, List.mem_filter]
  constructor
  · intro hsource
    obtain ⟨s, hs, hname, rfl⟩ := hsource
    obtain ⟨hne, hdots⟩ := Shape.isDotless_of_mem_sources d h hs
    have hpath : s.path = [slot.field.wire] := by
      apply dottedName_injective hne (by simp) hdots
      · simpa using isDotless_wire h slot
      · rw [dottedName_singleton]
        exact hname
    rw [← hpath]
    exact ⟨hs, by simp [hpath]⟩
  · intro hsource
    exact ⟨_, hsource.1, dottedName_singleton _, rfl⟩

/-- The parameters below the name of a field come from what is inside the field. -/
theorem below_shape_perm :
    ((WireRequest.shape d (shape.encode m)).below slot.field.wire).Perm
      (((slot.sources d.isPacked m).filter fun s => decide (s.path ≠ [slot.field.wire])).map
        Leaf.entry) := by
  obtain ⟨hdistinct, hallow⟩ := Shape.namesAllow_encode d h m
  refine ((WireRequest.entries_shape_perm hdistinct hallow).filter _).trans ?_
  rw [Shape.sources_encode, List.filter_map, ← filter_sources slot m h, List.filter_filter]
  refine List.Perm.of_eq (congrArg (List.map Leaf.entry) ?_)
  apply List.filter_congr
  intro s hs
  obtain ⟨hne, hdots⟩ := Shape.isDotless_of_mem_sources d h hs
  obtain ⟨path, text⟩ := s
  cases path with
  | nil => exact absurd rfl hne
  | cons part path =>
    have hbelow : IsBelow slot.field.wire (dottedName (part :: path)) ↔
        part = slot.field.wire ∧ path ≠ [] :=
      isBelow_dottedName (isDotless_wire h slot) hdots
    rw [Bool.eq_iff_iff]
    simp only [Function.comp_apply, Leaf.entry, Leaf.name, decide_eq_true_eq, hbelow,
      List.head?_cons,
      Bool.and_eq_true, beq_iff_eq, Option.some.injEq, ne_eq, List.cons.injEq, not_and]
    constructor
    · intro hparts
      obtain ⟨rfl, hpath⟩ := hparts
      exact ⟨fun _ => hpath, rfl⟩
    · intro hparts
      obtain ⟨hpath, rfl⟩ := hparts
      exact ⟨rfl, hpath rfl⟩

/-- A field with no sources has no parameters. -/
theorem shape_of_sources_nil (hs : slot.sources d.isPacked m = []) :
    (WireRequest.shape d (shape.encode m)).get? slot.field.wire = none ∧
      (WireRequest.shape d (shape.encode m)).below slot.field.wire = [] := by
  have hbelow := below_shape_perm (d := d) h slot m
  have hget := get?_shape (d := d) h slot m
  rw [hs] at hbelow
  simp only [hs, List.not_mem_nil, iff_false] at hget
  exact ⟨Option.eq_none_iff_forall_ne_some.2 hget, hbelow.eq_nil⟩

/-- A field that is its own source has the one parameter. -/
theorem shape_of_sources_singleton {text : String}
    (hs : slot.sources d.isPacked m = [⟨[slot.field.wire], text⟩]) :
    (WireRequest.shape d (shape.encode m)).get? slot.field.wire = some text ∧
      (WireRequest.shape d (shape.encode m)).below slot.field.wire = [] := by
  have hbelow := below_shape_perm (d := d) h slot m
  rw [get?_shape h, hs]
  refine ⟨List.mem_singleton_self _, ?_⟩
  rw [hs] at hbelow
  simpa using hbelow

/-- A list or a message is shown by its text or by the scalars inside it. -/
theorem showsParts_shape (htype : type.isStructured = true) {v : type.Value}
    (hv : slot.get m = some v) :
    (WireRequest.shape d (shape.encode m)).ShowsParts slot.field.wire
      (d.isPacked slot.field.wire) type v := by
  rw [Parameters.ShowsParts]
  split
  · next hpacked =>
    refine shape_of_sources_singleton h slot m ?_
    simp [sources, hv, FieldType.sources, hpacked, htype, Leaf.under]
  · next hpacked =>
    have hs : slot.sources d.isPacked m = (type.scalars v).map (.under slot.field.wire) := by
      simp [sources, hv, FieldType.sources, hpacked]
    have hne : ∀ s ∈ slot.sources d.isPacked m, s.path ≠ [slot.field.wire] := by
      intro s hmem
      rw [hs] at hmem
      obtain ⟨l, hl, rfl⟩ := List.mem_map.1 hmem
      simpa using FieldType.path_ne_nil_of_mem_scalars htype hl
    constructor
    · rw [Option.eq_none_iff_forall_ne_some]
      intro text htext
      exact hne _ ((get?_shape h slot m text).1 htext) rfl
    · have hbelow := below_shape_perm (d := d) h slot m
      rw [List.filter_eq_self.2 (by simpa using hne), hs, List.map_map] at hbelow
      exact hbelow

/-- The parameters of a well-named message show each of its fields. -/
theorem shows_shape :
    (WireRequest.shape d (shape.encode m)).Shows slot.field.wire
      (d.isPacked slot.field.wire) type (slot.get m) := by
  cases hv : slot.get m with
  | none => exact shape_of_sources_nil h slot m (by simp [sources, hv, FieldType.sources])
  | some v =>
    cases type with
    | list item => exact showsParts_shape h slot m rfl hv
    | message name inner => exact showsParts_shape h slot m rfl hv
    | text =>
      refine shape_of_sources_singleton h slot m ?_
      simp [sources, hv, FieldType.sources, FieldType.isStructured,
        FieldType.scalars, Leaf.under]
    | int32 =>
      refine shape_of_sources_singleton h slot m ?_
      simp [sources, hv, FieldType.sources, FieldType.isStructured,
        FieldType.scalars, Leaf.under]
    | int64 =>
      refine shape_of_sources_singleton h slot m ?_
      simp [sources, hv, FieldType.sources, FieldType.isStructured,
        FieldType.scalars, Leaf.under]
    | flag =>
      refine shape_of_sources_singleton h slot m ?_
      simp [sources, hv, FieldType.sources, FieldType.isStructured,
        FieldType.scalars, Leaf.under]

omit slot in
/-- Every parameter of a well-named message stands at the name of a field that is set, or
below it. -/
theorem exists_of_get?_shape {name text : String}
    (hget : (WireRequest.shape d (shape.encode m)).get? name = some text) :
    ∃ (type : FieldType) (slot : Slot shape type), (slot.get m).isSome ∧
      (name = slot.field.wire ∨ IsBelow slot.field.wire name) := by
  obtain ⟨hdistinct, hallow⟩ := Shape.namesAllow_encode d h m
  obtain ⟨s, hs, rfl, rfl⟩ := (WireRequest.get?_shape_iff hdistinct hallow name text).1 hget
  rw [Shape.sources_encode] at hs
  have hdots := (Shape.isDotless_of_mem_sources d h hs).2
  obtain ⟨type, slot, hset, hs⟩ := exists_of_mem_sources hs
  refine ⟨type, slot, hset, Leaf.name_eq_or_isBelow (isDotless_wire h slot) hdots ?_⟩
  obtain ⟨l, -, rfl⟩ := List.mem_map.1 hs
  rfl

end Slot

/-! ## The requests of operations -/

/-- The request of an operation is always assembled, its parameters show each of its fields,
and there are no parameters but those of fields that are set. -/
theorem Operation.assemble_shows (op : Operation) (m : Message op.request) :
    ∃ w, WireRequest.assemble op.descriptor m.toJson = .ok w ∧
      (∀ (type : FieldType) (slot : Slot op.request.shape type),
        w.parameters.Shows slot.field.wire (op.packed.contains slot.field.wire) type
          (slot.get m)) ∧
      ∀ name text, w.parameters.get? name = some text →
        ∃ (type : FieldType) (slot : Slot op.request.shape type), (slot.get m).isSome ∧
          (name = slot.field.wire ∨ IsBelow slot.field.wire name) := by
  refine ⟨WireRequest.place op.descriptor (WireRequest.shape op.descriptor
    (op.request.shape.encode m)), rfl, ?_, ?_⟩
  · intro type slot
    rw [WireRequest.place_parameters]
    exact slot.shows_shape op.isWellNamed_request m
  · intro name text hget
    rw [WireRequest.place_parameters] at hget
    exact Slot.exists_of_get?_shape op.isWellNamed_request m hget

end BalancerClient
