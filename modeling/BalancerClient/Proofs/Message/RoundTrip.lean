import BalancerClient.Exchange.Reply
import BalancerClient.Proofs.Message.Catalog

/-!
# Messages are read back

A message is written with the fields that are set and read with all others unset, so what is
written is read back.  The members of a well-named message have different names; a member
therefore meets exactly the field that it was written from, and the fields before it pass it
on.

## Main definitions

* `Shape.ListsSetFields` - members are those of the fields that are set, in the order of
  declaration.
* `Json.HasNoNull` - no value inside a value is null.

## Main statements

* `FieldType.decode_encode`, `Shape.decodeMembers_encode` - values and messages are read back.
* `Catalog.materialize_toJson` - a response whose body is a message is made from its JSON, and
  from the text of that.
-/

namespace BalancerClient

/-! ## Values -/

namespace Json

theorem asInt32_int (n : Int32) : (int n.toInt).asInt32 = .ok n := by
  have hlow := n.le_toInt
  have hhigh := n.toInt_lt
  rw [int, Number.ofInt_of_isWide (isWide_int32 n), asInt32, if_pos ⟨by omega, by omega⟩,
    Int32.ofInt_toInt]

theorem asInt64_int (n : Int64) : (int n.toInt).asInt64 = .ok n := by
  have hlow := n.le_toInt
  have hhigh := n.toInt_lt
  rw [int, Number.ofInt_of_isWide (isWide_int64 n), asInt64, if_pos ⟨by omega, by omega⟩,
    Int64.ofInt_toInt]

variable {α : Type}

/-- A list is read back if its items are. -/
theorem asList_map {encode : α → Json} {decode : Json → Except DecodeError α}
    (h : ∀ v, decode (encode v) = .ok v) (vs : List α) :
    (arr (vs.map encode)).asList decode = .ok vs := by
  have hdecode : decode ∘ encode = fun v => pure v := funext h
  rw [asList, List.mapM_map, hdecode, List.mapM_pure, List.map_id']
  rfl

theorem isNull_eq_false_iff {v : Json} : v.isNull = false ↔ v ≠ .null := by
  cases v <;> simp [isNull]

theorem asOptional_of_not_isNull (read : Json → Except DecodeError α) {v : Json}
    (h : v.isNull = false) : v.asOptional read = (read v).map some := by
  cases v with
  | null => cases h
  | _ => rfl

/-- No value inside a value is null. -/
def HasNoNull (v : Json) : Prop := v.everywhere (fun w => !w.isNull) = true

end Json

@[simp] theorem FieldType.isNull_encode (type : FieldType) (v : type.Value) :
    (type.encode v).isNull = false := by
  cases type <;> rfl

theorem FieldType.hasNoNull_encode (type : FieldType) (v : type.Value)
    (h : type.isWellNamed = true) : (type.encode v).HasNoNull := by
  refine everywhere_encode ?_ type v h
  intro type v _
  simp

/-! ## Messages -/

namespace Shape

variable {field : Field} {type : FieldType} {rest : Shape}

theorem decodeMembers_cons (shape : Shape) (name : String) (v : Json)
    (members : List (String × Json)) (m : shape.Values) :
    shape.decodeMembers ((name, v) :: members) m =
      (shape.decodeMember name v m).bind (shape.decodeMembers members) := rfl

/-- Members that are not called by the first field are read into the others. -/
theorem decodeMembers_of_notMem {members : List (String × Json)}
    (h : field.wire ∉ members.map Prod.fst) (w : Option type.Value) (m : rest.Values) :
    (cons field type rest).decodeMembers members (w, m) =
      (rest.decodeMembers members m).map (w, ·) := by
  induction members generalizing m with
  | nil => rfl
  | cons member members ih =>
    obtain ⟨name, v⟩ := member
    rw [List.map_cons, List.mem_cons, not_or] at h
    rw [decodeMembers_cons, decodeMembers_cons, decodeMember, if_neg h.1]
    cases rest.decodeMember name v m with
    | error error => rfl
    | ok m' => exact ih h.2 m'

end Shape

mutual

/-- The value of a field is read back. -/
theorem FieldType.decode_encode : ∀ (type : FieldType) (v : type.Value),
    type.isWellNamed = true → type.decode (type.encode v) = .ok v
  | .text, _, _ => rfl
  | .int32, n, _ => Json.asInt32_int n
  | .int64, n, _ => Json.asInt64_int n
  | .flag, _, _ => rfl
  | .list item, vs, h => Json.asList_map (fun v => item.decode_encode v h) vs
  | .message _ shape, m, h => shape.decodeMembers_encode m h
termination_by structural type => type

/-- A message is read back from its members. -/
theorem Shape.decodeMembers_encode : ∀ (shape : Shape) (m : shape.Values),
    shape.isWellNamed = true → shape.decodeMembers (shape.encode m) shape.unset = .ok m
  | .nil, _, _ => rfl
  | .cons field type rest, (v, m), h => by
    obtain ⟨-, hwire, htype, hrest⟩ := Shape.isWellNamed_cons.1 h
    have hnames : field.wire ∉ (rest.encode m).map Prod.fst := by
      intro hmem
      exact hwire ((rest.names_encode_sublist m).subset hmem)
    -- the members of the other fields leave the first field as it is
    have hothers : ∀ w, (Shape.cons field type rest).decodeMembers (rest.encode m) (w,
        rest.unset) = .ok (w, m) := by
      intro w
      rw [Shape.decodeMembers_of_notMem hnames, rest.decodeMembers_encode m hrest]
      rfl
    cases v with
    | none => exact hothers none
    | some v =>
      rw [Shape.encode, Shape.decodeMembers_cons, Shape.unset, Shape.decodeMember, if_pos rfl,
        Json.asOptional_of_not_isNull _ (type.isNull_encode v), type.decode_encode v htype]
      exact hothers (some v)
termination_by structural shape => shape

end

/-- A message is read back from its object. -/
theorem MessageType.ofJson_toJson {type : MessageType} (h : type.shape.isWellNamed = true)
    (m : Message type) : type.ofJson m.toJson = .ok m :=
  type.shape.decodeMembers_encode m h

/-- A message is read back from the text of its object. -/
theorem Message.parseText_compact_toJson {type : MessageType}
    (h : type.shape.isWellNamed = true ∧ type.shape.depth < Json.maxNesting)
    (m : Message type) : Json.parseText m.toJson.compact = .ok m.toJson := by
  exact (FieldType.message type.name type.shape).parseText_compact_encode h.1 h.2 m

/-! ## Members -/

namespace Shape

/-- Members are those of the fields that are set: each has the wire name and the value of one,
they stand in the order of declaration, and no name stands twice. -/
structure ListsSetFields (shape : Shape) (m : shape.Values) (members : List (String × Json)) :
    Prop where
  mem_iff : ∀ name v, (name, v) ∈ members ↔
    ∃ (type : FieldType) (slot : Slot shape type) (value : type.Value),
      slot.get m = some value ∧ name = slot.field.wire ∧ v = type.encode value
  inOrder : (members.map Prod.fst).Sublist shape.wires
  distinct : (members.map Prod.fst).Nodup

theorem mem_encode_iff (name : String) (v : Json) : ∀ (shape : Shape) (m : shape.Values),
    (name, v) ∈ shape.encode m ↔
      ∃ (type : FieldType) (slot : Slot shape type) (value : type.Value),
        slot.get m = some value ∧ name = slot.field.wire ∧ v = type.encode value
  | .nil, _ => by
    constructor
    · intro hmem
      exact absurd hmem List.not_mem_nil
    · intro hslot
      obtain ⟨_, slot, -⟩ := hslot
      nomatch slot
  | .cons field type rest, (w, m) => by
    have hrest := mem_encode_iff name v rest m
    constructor
    · intro hmem
      have hcases : (∃ value, w = some value ∧ name = field.wire ∧ v = type.encode value) ∨
          (name, v) ∈ rest.encode m := by
        cases w with
        | none => exact .inr hmem
        | some w =>
          rw [encode, List.mem_cons, Prod.mk.injEq] at hmem
          exact hmem.imp_left fun h => ⟨w, rfl, h⟩
      rcases hcases with ⟨value, hw, hname⟩ | hmem
      · exact ⟨type, .here, value, hw, hname⟩
      · obtain ⟨type', slot, value, hslot⟩ := hrest.1 hmem
        exact ⟨type', .there slot, value, hslot⟩
    · intro hslot
      obtain ⟨type', slot, value, hget, hname, hv⟩ := hslot
      cases slot with
      | here =>
        obtain rfl : w = some value := hget
        subst hname hv
        exact List.mem_cons_self
      | there slot =>
        have hmem := hrest.2 ⟨type', slot, value, hget, hname, hv⟩
        cases w with
        | none => exact hmem
        | some w => exact List.mem_cons_of_mem _ hmem

theorem listsSetFields_encode {shape : Shape} (h : shape.isWellNamed = true)
    (m : shape.Values) : shape.ListsSetFields m (shape.encode m) where
  mem_iff name v := mem_encode_iff name v shape m
  inOrder := shape.names_encode_sublist m
  distinct := (shape.names_encode_sublist m).nodup (nodup_wires h)

end Shape

/-- A response whose body is a message of the service is made from the message's JSON, and
from what the text of that is read as.  The object holds the fields that are set and nothing
else, and null nowhere. -/
theorem Catalog.materialize_toJson {type : MessageType} (htype : type ∈ types)
    (m : Message type) (status : Nat) (headers : Headers) :
    type.reader.materialize ⟨status, headers⟩ m.toJson = .ok ⟨⟨status, headers⟩, m⟩ ∧
      (∃ v, Json.parseText m.toJson.compact = .ok v ∧
        type.reader.materialize ⟨status, headers⟩ v = .ok ⟨⟨status, headers⟩, m⟩) ∧
      ∃ members, m.toJson = .obj members ∧ type.shape.ListsSetFields m members ∧
        m.toJson.HasNoNull := by
  have hreadable := Catalog.isReadable htype
  have hmade : type.reader.materialize ⟨status, headers⟩ m.toJson =
      .ok ⟨⟨status, headers⟩, m⟩ := by
    simp only [BodyReader.materialize, MessageType.reader,
      MessageType.ofJson_toJson hreadable.1 m]
  refine ⟨hmade, ⟨m.toJson, Message.parseText_compact_toJson hreadable m, hmade⟩, ?_⟩
  exact ⟨_, rfl, Shape.listsSetFields_encode hreadable.1 m,
    (FieldType.message type.name type.shape).hasNoNull_encode m hreadable.1⟩

/-- A zone of a load balancer with a text that needs escapes, an empty one, and two addresses
of which the second has no field set. -/
theorem Catalog.materialize_toJson_of_zone :
    let m : Message zoneMappingAttribute := (some "\u00e4\"\n", none, some "",
      some [(some "a", none, none, none, none, some [], ()), loadBalancerAddress.unset], ())
    m.toJson.compact =
      "\x7b\"VSwitchId\":\"\u00e4\\\"\\n\",\"Status\":\"\",\"LoadBalancerAddresses\":" ++
        "[\x7b\"AllocationId\":\"a\",\"Ipv4LocalAddresses\":[]\x7d,\x7b\x7d]\x7d" ∧
      zoneMappingAttribute ∈ types ∧
      ∃ v, Json.parseText m.toJson.compact = .ok v ∧
        zoneMappingAttribute.reader.materialize ⟨200, {}⟩ v = .ok ⟨⟨200, {}⟩, m⟩ := by
  intro m
  have hmem : zoneMappingAttribute ∈ types := List.mem_of_getElem? (i := 7) rfl
  exact ⟨by decide +kernel, hmem, (materialize_toJson hmem m 200 {}).2.1⟩

end BalancerClient
