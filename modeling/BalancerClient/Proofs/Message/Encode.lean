import BalancerClient.Proofs.Json.RoundTrip
import BalancerClient.Proofs.Message.Scalars

/-!
# The JSON values of messages

The fields of a well-named shape have different wire names without points, and so have the
fields of the shapes inside it.  The JSON value of a message of such a shape has distinct
names and integers only, it nests no deeper than the shape, and it determines the message.

## Main definitions

* `Shape.isWellNamed` - the wire names of a shape are fit for names of parameters.
* `Shape.depth` - how deep the shapes and lists inside a shape contain each other.

## Main statements

* `FieldType.everywhere_encode` - what holds of the values of well-named fields holds
  everywhere in them.
* `FieldType.encode_injective`, `FieldType.compact_encode_injective` - the JSON value
  determines the value of a field, and so does its text.
* `FieldType.parseText_compact_encode` - the text is read as the JSON value.
-/

namespace BalancerClient

/-- The wire names of the fields. -/
def Shape.wires (shape : Shape) : List String := shape.fields.map Field.wire

mutual

/-- Whether the wire names inside a field differ and hold no points. -/
def FieldType.isWellNamed : FieldType → Bool
  | .list item => item.isWellNamed
  | .message _ shape => shape.isWellNamed
  | _ => true
termination_by structural type => type

/-- Whether the wire names of a shape, and of all shapes inside it, differ and hold no
points. -/
def Shape.isWellNamed : Shape → Bool
  | .nil => true
  | .cons field type rest =>
    decide (IsDotless field.wire) && !rest.wires.contains field.wire && type.isWellNamed &&
      rest.isWellNamed
termination_by structural shape => shape

end

mutual

/-- How deep the lists and messages of a field contain each other. -/
def FieldType.depth : FieldType → Nat
  | .list item => item.depth + 1
  | .message _ shape => shape.depth + 1
  | _ => 0
termination_by structural type => type

/-- How deep the lists and messages inside a shape contain each other. -/
def Shape.depth : Shape → Nat
  | .nil => 0
  | .cons _ type rest => max type.depth rest.depth
termination_by structural shape => shape

end

namespace Shape

theorem isWellNamed_cons {field : Field} {type : FieldType} {rest : Shape} :
    (cons field type rest).isWellNamed = true ↔
      IsDotless field.wire ∧ field.wire ∉ rest.wires ∧ type.isWellNamed = true ∧
        rest.isWellNamed = true := by
  simp [isWellNamed, and_assoc]

theorem nodup_wires : ∀ {shape : Shape}, shape.isWellNamed = true → shape.wires.Nodup
  | .nil, _ => List.nodup_nil
  | .cons _ _ rest, h => by
    obtain ⟨-, hwire, -, hrest⟩ := isWellNamed_cons.1 h
    exact List.nodup_cons.2 ⟨hwire, nodup_wires hrest⟩

theorem isDotless_of_mem_wires {wire : String} :
    ∀ {shape : Shape}, shape.isWellNamed = true → wire ∈ shape.wires → IsDotless wire
  | .cons _ _ rest, h, hmem => by
    obtain ⟨hdots, -, -, hrest⟩ := isWellNamed_cons.1 h
    rcases List.mem_cons.1 hmem with rfl | hmem
    · exact hdots
    · exact isDotless_of_mem_wires hrest hmem

/-- The members of a message's object are called by the fields that are set. -/
theorem names_encode_sublist : ∀ (shape : Shape) (m : shape.Values),
    ((shape.encode m).map Prod.fst).Sublist shape.wires
  | .nil, _ => .slnil
  | .cons field _ rest, (none, m) => (rest.names_encode_sublist m).cons field.wire
  | .cons field _ rest, (some _, m) => (rest.names_encode_sublist m).cons_cons field.wire

end Shape

namespace Slot

variable {type : FieldType}

theorem wire_mem_wires {shape : Shape} (slot : Slot shape type) :
    slot.field.wire ∈ shape.wires :=
  List.mem_map_of_mem slot.field_mem_fields

theorem isDotless_wire {shape : Shape} (h : shape.isWellNamed = true)
    (slot : Slot shape type) : IsDotless slot.field.wire :=
  Shape.isDotless_of_mem_wires h slot.wire_mem_wires

theorem isWellNamed_type : ∀ {shape : Shape}, Slot shape type → shape.isWellNamed = true →
    type.isWellNamed = true
  | .cons _ _ _, .here, h => (Shape.isWellNamed_cons.1 h).2.2.1
  | .cons _ _ _, .there slot, h => isWellNamed_type slot (Shape.isWellNamed_cons.1 h).2.2.2

theorem depth_type_le : ∀ {shape : Shape}, Slot shape type → type.depth ≤ shape.depth
  | .cons _ _ _, .here => Nat.le_max_left _ _
  | .cons _ _ _, .there slot => (depth_type_le slot).trans (Nat.le_max_right _ _)

end Slot

/-! ## Conditions everywhere inside -/

/-- A condition holds of the values of well-named fields. -/
def HoldsOfFields (p : Json → Bool) : Prop :=
  ∀ (type : FieldType) (v : type.Value), type.isWellNamed = true → p (type.encode v) = true

mutual

/-- What holds of the values of well-named fields holds everywhere inside them. -/
theorem FieldType.everywhere_encode {p : Json → Bool} (hp : HoldsOfFields p) :
    ∀ (type : FieldType) (v : type.Value), type.isWellNamed = true →
      (type.encode v).everywhere p = true
  | .text, s, h => hp .text s h
  | .int32, n, h => hp .int32 n h
  | .int64, n, h => hp .int64 n h
  | .flag, b, h => hp .flag b h
  | .list item, vs, h => by
    refine Json.everywhere_arr.2 ⟨hp (.list item) vs h, ?_⟩
    intro w hw
    obtain ⟨v, -, rfl⟩ := List.mem_map.1 hw
    exact item.everywhere_encode hp v h
  | .message name shape, m, h =>
    Json.everywhere_obj.2 ⟨hp (.message name shape) m h, shape.everywhere_encode hp m h⟩
termination_by structural type => type

theorem Shape.everywhere_encode {p : Json → Bool} (hp : HoldsOfFields p) :
    ∀ (shape : Shape) (m : shape.Values), shape.isWellNamed = true →
      ∀ member ∈ shape.encode m, member.2.everywhere p = true
  | .nil, _, _ => by simp [Shape.encode]
  | .cons _ _ rest, (none, m), h =>
    rest.everywhere_encode hp m (Shape.isWellNamed_cons.1 h).2.2.2
  | .cons _ type rest, (some v, m), h => by
    obtain ⟨-, -, htype, hrest⟩ := Shape.isWellNamed_cons.1 h
    exact List.forall_mem_cons.2
      ⟨type.everywhere_encode hp v htype, rest.everywhere_encode hp m hrest⟩
termination_by structural shape => shape

end

namespace FieldType

theorem hasDistinctNames_encode (type : FieldType) (v : type.Value)
    (h : type.isWellNamed = true) : (type.encode v).HasDistinctNames := by
  refine everywhere_encode ?_ type v h
  intro type v h
  cases type with
  | message name shape =>
    exact decide_eq_true ((shape.names_encode_sublist v).nodup (Shape.nodup_wires h))
  | text => rfl
  | int32 => rfl
  | int64 => rfl
  | flag => rfl
  | list item => rfl

theorem hasDotlessNames_encode (type : FieldType) (v : type.Value)
    (h : type.isWellNamed = true) : (type.encode v).HasDotlessNames := by
  refine everywhere_encode ?_ type v h
  intro type v h
  cases type with
  | message name shape =>
    simp only [encode, Json.namesDotless, List.all_eq_true, decide_eq_true_eq]
    intro member hmember
    have hwire :=
      (shape.names_encode_sublist v).subset (List.mem_map.2 ⟨member, hmember, rfl⟩)
    exact Shape.isDotless_of_mem_wires h hwire
  | text => rfl
  | int32 => rfl
  | int64 => rfl
  | flag => rfl
  | list item => rfl

theorem isIntegral_encode (type : FieldType) (v : type.Value) (h : type.isWellNamed = true) :
    (type.encode v).IsIntegral := by
  refine everywhere_encode ?_ type v h
  intro type v _
  cases type with
  | int32 => simp [encode, Json.int, Number.ofInt_of_isWide (isWide_int32 v), Json.isNoFloat]
  | int64 => simp [encode, Json.int, Number.ofInt_of_isWide (isWide_int64 v), Json.isNoFloat]
  | text => rfl
  | flag => rfl
  | list item => rfl
  | message name shape => rfl

end FieldType

mutual

/-- The value of a field nests no deeper than its type. -/
theorem FieldType.nesting_encode_le : ∀ (type : FieldType) (v : type.Value),
    (type.encode v).nesting ≤ type.depth
  | .text, _ => Nat.le_refl 0
  | .int32, _ => Nat.le_refl 0
  | .int64, _ => Nat.le_refl 0
  | .flag, _ => Nat.le_refl 0
  | .list item, vs => by
    refine Nat.succ_le_succ (Json.nestingItems_le_iff.2 ?_)
    intro w hw
    obtain ⟨v, -, rfl⟩ := List.mem_map.1 hw
    exact item.nesting_encode_le v
  | .message _ shape, m =>
    Nat.succ_le_succ (Json.nestingMembers_le_iff.2 (shape.nesting_encode_le m))
termination_by structural type => type

theorem Shape.nesting_encode_le : ∀ (shape : Shape) (m : shape.Values),
    ∀ member ∈ shape.encode m, member.2.nesting ≤ shape.depth
  | .nil, _ => by simp [Shape.encode]
  | .cons _ _ rest, (none, m) => by
    intro member hmember
    have := rest.nesting_encode_le m member hmember
    rw [Shape.depth]
    omega
  | .cons _ type rest, (some v, m) => by
    rw [Shape.encode, Shape.depth, List.forall_mem_cons]
    refine ⟨(type.nesting_encode_le v).trans (Nat.le_max_left _ _), ?_⟩
    intro member hmember
    exact (rest.nesting_encode_le m member hmember).trans (Nat.le_max_right _ _)
termination_by structural shape => shape

end

/-! ## The JSON value determines the value -/

theorem int_injective {m n : Int} (hm : IsWide m) (hn : IsWide n)
    (h : Json.int m = Json.int n) : m = n := by
  rw [Json.int, Json.int, Number.ofInt_of_isWide hm, Number.ofInt_of_isWide hn] at h
  simpa using h

mutual

/-- Different values have different JSON values. -/
theorem FieldType.encode_injective : ∀ (type : FieldType) {v w : type.Value},
    type.isWellNamed = true → type.encode v = type.encode w → v = w
  | .text, _, _, _, h => Json.str.inj h
  | .int32, v, w, _, h =>
    Int32.toInt_inj.1 (int_injective (isWide_int32 v) (isWide_int32 w) h)
  | .int64, v, w, _, h =>
    Int64.toInt_inj.1 (int_injective (isWide_int64 v) (isWide_int64 w) h)
  | .flag, _, _, _, h => Json.bool.inj h
  | .list item, vs, ws, hnamed, h => by
    have hitem : ∀ v w : item.Value, item.encode v = item.encode w → v = w := by
      intro v w
      exact item.encode_injective hnamed
    exact (List.map_inj_right hitem).1 (Json.arr.inj h)
  | .message _ shape, _, _, hnamed, h => shape.encode_injective hnamed (Json.obj.inj h)
termination_by structural type => type

/-- Different messages have different members. -/
theorem Shape.encode_injective : ∀ (shape : Shape) {m m' : shape.Values},
    shape.isWellNamed = true → shape.encode m = shape.encode m' → m = m'
  | .nil, _, _, _, _ => rfl
  | .cons field type rest, (v, m), (v', m'), hnamed, h => by
    obtain ⟨-, hwire, htype, hrest⟩ := Shape.isWellNamed_cons.1 hnamed
    -- a member called by the first field is not among those of the others
    have hother : ∀ (w : Json) (more : List (String × Json)) (m : rest.Values),
        (field.wire, w) :: more ≠ rest.encode m := by
      intro w more m heq
      have hmem : field.wire ∈ (rest.encode m).map Prod.fst := by simp [← heq]
      exact hwire ((rest.names_encode_sublist m).subset hmem)
    cases v with
    | none =>
      cases v' with
      | none => rw [rest.encode_injective hrest h]
      | some v' => exact absurd h.symm (hother _ _ _)
    | some v =>
      cases v' with
      | none => exact absurd h (hother _ _ _)
      | some v' =>
        rw [Shape.encode, Shape.encode, List.cons.injEq, Prod.mk.injEq] at h
        rw [type.encode_injective htype h.1.2, rest.encode_injective hrest h.2]
termination_by structural shape => shape

end

/-- The JSON value of a value is one that is read back from its text. -/
theorem FieldType.fits_encode (type : FieldType) (hnamed : type.isWellNamed = true)
    (hdepth : type.depth ≤ Json.maxNesting) (v : type.Value) :
    (type.encode v).HasDistinctNames ∧ (type.encode v).IsIntegral ∧
      (type.encode v).nesting ≤ Json.maxNesting :=
  ⟨type.hasDistinctNames_encode v hnamed, type.isIntegral_encode v hnamed,
    (type.nesting_encode_le v).trans hdepth⟩

/-- Different values have different texts. -/
theorem FieldType.compact_encode_injective (type : FieldType) {v w : type.Value}
    (hnamed : type.isWellNamed = true) (hdepth : type.depth ≤ Json.maxNesting)
    (h : (type.encode v).compact = (type.encode w).compact) : v = w := by
  exact type.encode_injective hnamed
    (Json.compact_injective (type.fits_encode hnamed hdepth v)
      (type.fits_encode hnamed hdepth w) h)

/-- The text of a value is read as its JSON value. -/
theorem FieldType.parseText_compact_encode (type : FieldType)
    (hnamed : type.isWellNamed = true) (hdepth : type.depth ≤ Json.maxNesting)
    (v : type.Value) : Json.parseText (type.encode v).compact = .ok (type.encode v) := by
  obtain ⟨hnames, hint, hnesting⟩ := type.fits_encode hnamed hdepth v
  exact Json.parse_compact hnames hint hnesting

end BalancerClient
