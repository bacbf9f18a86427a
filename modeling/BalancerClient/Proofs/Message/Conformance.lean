import BalancerClient.Proofs.Message.Parts

/-!
# Which values are messages

A value conforms to a type by rules on its form: an object with members that conform to the
fields they are called by, an array with elements that conform to the fields in their places,
texts, truth values, and integers in the range of their field.  Null conforms to nothing, but
it may stand for a field that is not set.  The values that conform are those that are decoded,
and the order of members does not matter.

## Main definitions

* `FieldType.Conforms` - a value conforms to a type.
* `Json.SameUpToOrder` - two values differ in the order of members only, here or further
  inside.
* `MessageType.DecodesExactly` - what is asked of the decoding of a value as a message.

## Main statements

* `FieldType.exists_decode_iff_conforms` - a value is decoded if and only if it conforms.
* `FieldType.decode_of_sameUpToOrder` - decoding does not depend on the order of members.
* `Catalog.materialize_decodesExactly` - responses are made of the values that conform.
-/

namespace BalancerClient

/-! ## Conforming values -/

/-- A value conforms to a type.  Members that no field is called by may hold anything, and an
array may have fewer elements than there are fields. -/
inductive FieldType.Conforms : FieldType → Json → Prop where
  | text (s : String) : Conforms .text (.str s)
  | flag (b : Bool) : Conforms .flag (.bool b)
  | int32 {n : Int} {wide : IsWide n} (hrange : -0x80000000 ≤ n ∧ n < 0x80000000) :
    Conforms .int32 (.num (.int n wide))
  | int64 {n : Int} {wide : IsWide n} (hrange : -0x8000000000000000 ≤ n ∧
      n < 0x8000000000000000) :
    Conforms .int64 (.num (.int n wide))
  | list {item : FieldType} {items : List Json} (hitems : ∀ v ∈ items, Conforms item v) :
    Conforms (.list item) (.arr items)
  | object {name : String} {shape : Shape} {members : List (String × Json)}
      (hmembers : ∀ (type : FieldType) (slot : Slot shape type) (v : Json),
        (slot.field.wire, v) ∈ members → v ≠ .null → Conforms type v) :
    Conforms (.message name shape) (.obj members)
  | array {name : String} {shape : Shape} {items : List Json}
      (hlength : items.length ≤ shape.size)
      (hitems : ∀ (type : FieldType) (slot : Slot shape type) (v : Json),
        items[slot.index]? = some v → v ≠ .null → Conforms type v) :
    Conforms (.message name shape) (.arr items)

namespace FieldType

/-- A value conforms to a message if it has the form of one, and its parts conform or are
null. -/
theorem conforms_message_iff {name : String} {shape : Shape} {v : Json}
    (hnames : v.HasDistinctNames) : (message name shape).Conforms v ↔
      shape.Admits v ∧ ∀ (type : FieldType) (slot : Slot shape type),
        slot.part v ≠ .null → type.Conforms (slot.part v) := by
  cases v with
  | obj members =>
    have hdiffer : (members.map Prod.fst).Nodup := (Json.hasDistinctNames_obj.1 hnames).1
    constructor
    · intro h
      cases h with
      | object hmembers =>
        refine ⟨trivial, fun type slot hpart => ?_⟩
        exact hmembers type slot _ ((slot.part_obj_iff hdiffer hpart).1 rfl) hpart
    · intro h
      refine .object fun type slot w hmem hw => ?_
      obtain rfl := (slot.part_obj_iff hdiffer hw).2 hmem
      exact h.2 type slot hw
  | arr items =>
    constructor
    · intro h
      cases h with
      | array hlength hitems =>
        refine ⟨hlength, fun type slot hpart => ?_⟩
        exact hitems type slot _ ((slot.part_arr_iff hpart).1 rfl) hpart
    · intro h
      refine .array h.1 fun type slot w hitem hw => ?_
      obtain rfl := (slot.part_arr_iff hw).2 hitem
      exact h.2 type slot hw
  | _ =>
    refine iff_of_false ?_ And.left
    intro h
    cases h

/-- A value is decoded if and only if it conforms. -/
theorem exists_decode_iff_conforms {type : FieldType} (hnamed : type.isWellNamed = true)
    {v : Json} (hnames : v.HasDistinctNames) :
    (∃ x, type.decode v = .ok x) ↔ type.Conforms v := by
  induction type generalizing v with
  | text =>
    constructor
    · intro hdecoded
      obtain ⟨s, hs⟩ := hdecoded
      cases v with
      | str s => exact .text s
      | _ => cases hs
    · intro h
      cases h with
      | text s => exact ⟨s, rfl⟩
  | flag =>
    constructor
    · intro hdecoded
      obtain ⟨b, hb⟩ := hdecoded
      cases v with
      | bool b => exact .flag b
      | _ => cases hb
    · intro h
      cases h with
      | flag b => exact ⟨b, rfl⟩
  | int32 =>
    constructor
    · intro hdecoded
      obtain ⟨n, hn⟩ := hdecoded
      have hlow := n.le_toInt
      have hhigh := n.toInt_lt
      obtain rfl := Json.eq_int_of_asInt32 hn
      rw [Json.int, Number.ofInt_of_isWide (isWide_int32 n)]
      exact .int32 ⟨by omega, by omega⟩
    · intro h
      cases h with
      | int32 hrange => exact ⟨_, if_pos hrange⟩
  | int64 =>
    constructor
    · intro hdecoded
      obtain ⟨n, hn⟩ := hdecoded
      have hlow := n.le_toInt
      have hhigh := n.toInt_lt
      obtain rfl := Json.eq_int_of_asInt64 hn
      rw [Json.int, Number.ofInt_of_isWide (isWide_int64 n)]
      exact .int64 ⟨by omega, by omega⟩
    · intro h
      cases h with
      | int64 hrange => exact ⟨_, if_pos hrange⟩
  | list item ih =>
    constructor
    · intro hdecoded
      obtain ⟨xs, hxs⟩ := hdecoded
      obtain ⟨items, rfl, hitems⟩ := decode_list_iff.1 hxs
      refine .list fun v hv => ?_
      rw [← ih hnamed (Json.hasDistinctNames_arr.1 hnames v hv)]
      exact Json.exists_mapM_eq_ok_iff.1 ⟨xs, Json.mapM_eq_ok_iff.2 hitems⟩ v hv
    · intro h
      cases h with
      | list hitems =>
        refine Json.exists_mapM_eq_ok_iff.2 fun v hv => ?_
        exact (ih hnamed (Json.hasDistinctNames_arr.1 hnames v hv)).2 (hitems v hv)
  | message name shape ih =>
    rw [conforms_message_iff hnames]
    -- a place can be read from its part if that is null or conforms
    have hpart : ∀ (type : FieldType) (slot : Slot shape type),
        (∃ w, (slot.part v).asOptional type.decode = .ok w) ↔
          (slot.part v ≠ .null → type.Conforms (slot.part v)) := by
      intro type slot
      rw [← ih type slot (slot.isWellNamed_type hnamed) (slot.hasDistinctNames_part hnames)]
      simp only [Json.asOptional_eq_ok_iff]
      by_cases hnull : slot.part v = .null
      · simp [hnull]
      · simp [hnull]
    constructor
    · intro hdecoded
      obtain ⟨m, hm⟩ := hdecoded
      obtain ⟨hadmits, hread⟩ := (decode_message_iff hnamed hnames).1 hm
      exact ⟨hadmits, fun type slot => (hpart type slot).1 ⟨_, hread type slot⟩⟩
    · intro hv
      obtain ⟨hadmits, hconforms⟩ := hv
      obtain ⟨m, hm⟩ := Shape.exists_of_forall_slot
        (p := fun type slot w => (slot.part v).asOptional type.decode = .ok w)
        fun type slot => (hpart type slot).2 (hconforms type slot)
      exact ⟨m, (decode_message_iff hnamed hnames).2 ⟨hadmits, hm⟩⟩

end FieldType

/-! ## The order of members -/

namespace Json

/-- Two values are the same up to the order of the members of objects. -/
inductive SameUpToOrder : Json → Json → Prop where
  | scalar {v : Json} (h : v.isStructured = false) : SameUpToOrder v v
  | array {items items' : List Json} (hlength : items.length = items'.length)
      (hitems : ∀ (i : Nat) (v v' : Json), items[i]? = some v → items'[i]? = some v' →
        SameUpToOrder v v') :
    SameUpToOrder (.arr items) (.arr items')
  | object {members members' : List (String × Json)}
      (hnames : (members.map Prod.fst).Perm (members'.map Prod.fst))
      (hmembers : ∀ (name : String) (v v' : Json), (name, v) ∈ members →
        (name, v') ∈ members' → SameUpToOrder v v') :
    SameUpToOrder (.obj members) (.obj members')

namespace SameUpToOrder

variable {v v' : Json}

theorem symm (h : v.SameUpToOrder v') : v'.SameUpToOrder v := by
  induction h with
  | scalar h => exact .scalar h
  | array hlength _ ih => exact .array hlength.symm fun i v v' hv hv' => ih i v' v hv' hv
  | object hnames _ ih =>
    exact .object hnames.symm fun name v v' hv hv' => ih name v' v hv' hv

theorem eq_null_iff (h : v.SameUpToOrder v') : v = .null ↔ v' = .null := by
  cases h with
  | scalar => exact Iff.rfl
  | array => simp
  | object => simp

theorem hasDistinctNames (h : v.SameUpToOrder v') (hv : v.HasDistinctNames) :
    v'.HasDistinctNames := by
  induction h with
  | scalar => exact hv
  | @array items items' hlength _ ih =>
    refine hasDistinctNames_arr.2 fun w' hw' => ?_
    obtain ⟨i, hi, rfl⟩ := List.mem_iff_getElem.1 hw'
    have hitem : items[i]? = some items[i] := List.getElem?_eq_getElem (hlength ▸ hi)
    exact ih i _ _ hitem (List.getElem?_eq_getElem hi)
      (hasDistinctNames_arr.1 hv _ (List.mem_of_getElem? hitem))
  | @object members members' hnames _ ih =>
    obtain ⟨hdiffer, hmembers⟩ := hasDistinctNames_obj.1 hv
    refine hasDistinctNames_obj.2 ⟨hnames.nodup_iff.1 hdiffer, ?_⟩
    intro member hw'
    obtain ⟨name, w'⟩ := member
    obtain ⟨⟨_, w⟩, hw, rfl⟩ := List.mem_map.1 (hnames.mem_iff.2 (List.mem_map_of_mem hw'))
    exact ih _ w w' hw hw' (hmembers _ hw)

/-- The parts of two such values are such values. -/
theorem part {shape : Shape} {type : FieldType} (slot : Slot shape type)
    (h : v.SameUpToOrder v') (hv : v.HasDistinctNames) :
    (slot.part v).SameUpToOrder (slot.part v') := by
  have hv' := h.hasDistinctNames hv
  have hnull : Json.null.SameUpToOrder .null := .scalar rfl
  cases h with
  | scalar h =>
    cases v with
    | arr => cases h
    | obj => cases h
    | _ => exact hnull
  | @array items items' hlength hitems =>
    rw [Slot.part, Slot.part]
    by_cases hi : slot.index < items.length
    · have hitem := List.getElem?_eq_getElem hi
      have hitem' := List.getElem?_eq_getElem (hlength ▸ hi)
      rw [hitem, hitem']
      exact hitems _ _ _ hitem hitem'
    · rw [List.getElem?_eq_none (by omega), List.getElem?_eq_none (by omega)]
      exact hnull
  | @object members members' hnames hmembers =>
    have hlookup := @lookup_eq_some_iff_mem members (hasDistinctNames_obj.1 hv).1
    have hlookup' := @lookup_eq_some_iff_mem members' (hasDistinctNames_obj.1 hv').1
    rw [Slot.part, Slot.part]
    cases hw : members.lookup slot.field.wire with
    | none =>
      have hw' :=
        lookup_eq_none_iff_notMem.2 (mt hnames.mem_iff.2 (lookup_eq_none_iff_notMem.1 hw))
      rw [hw']
      exact hnull
    | some w =>
      have hmem : slot.field.wire ∈ members'.map Prod.fst :=
        hnames.mem_iff.1 (List.mem_map_of_mem (hlookup.1 hw))
      cases hw' : members'.lookup slot.field.wire with
      | none => exact absurd hmem (lookup_eq_none_iff_notMem.1 hw')
      | some w' => exact hmembers _ _ _ (hlookup.1 hw) (hlookup'.1 hw')

theorem admits {shape : Shape} (h : v.SameUpToOrder v') (hv : shape.Admits v) :
    shape.Admits v' := by
  cases h with
  | scalar => exact hv
  | array hlength => exact hlength.symm.trans_le hv
  | object => trivial

end SameUpToOrder

end Json

/-- Decoding does not depend on the order of members. -/
theorem FieldType.decode_of_sameUpToOrder {type : FieldType}
    (hnamed : type.isWellNamed = true) {v v' : Json} (h : v.SameUpToOrder v')
    (hnames : v.HasDistinctNames) {x : type.Value}
    (hx : type.decode v = .ok x) : type.decode v' = .ok x := by
  induction type generalizing v v' with
  | text | int32 | int64 | flag =>
    cases h with
    | scalar => exact hx
    | array => cases hx
    | object => cases hx
  | list item ih =>
    obtain ⟨items, rfl, hread⟩ := decode_list_iff.1 hx
    cases h with
    | scalar => exact hx
    | @array _ items' hlength hitems =>
      refine decode_list_iff.2 ⟨items', rfl, List.ext_getElem? fun i => ?_⟩
      -- the elements with one number are decoded alike, by the statement for the items
      have hread_i : items[i]?.map item.decode = x[i]?.map .ok := by
        rw [← List.getElem?_map, hread, List.getElem?_map]
      rw [List.getElem?_map, List.getElem?_map, ← hread_i]
      cases hv : items[i]? with
      | none =>
        rw [List.getElem?_eq_none (hlength ▸ List.getElem?_eq_none_iff.1 hv)]
      | some v =>
        obtain ⟨hi, -⟩ := List.getElem?_eq_some_iff.1 hv
        have hv' := List.getElem?_eq_getElem (hlength ▸ hi)
        have hdistinct := Json.hasDistinctNames_arr.1 hnames v (List.mem_of_getElem? hv)
        rw [hv, Option.map_some] at hread_i
        obtain ⟨y, -, hy⟩ := Option.map_eq_some_iff.1 hread_i.symm
        rw [hv', Option.map_some, Option.map_some, ← hy,
          ih hnamed (hitems i v _ hv hv') hdistinct hy.symm]
  | message name shape ih =>
    obtain ⟨hadmits, hread⟩ := (decode_message_iff hnamed hnames).1 hx
    refine (decode_message_iff hnamed (h.hasDistinctNames hnames)).2 ⟨h.admits hadmits, ?_⟩
    intro type slot
    have hpart := h.part slot hnames
    rcases Json.asOptional_eq_ok_iff.1 (hread type slot) with
      ⟨hnull, hunset⟩ | ⟨hnull, x, hx, hset⟩
    · exact Json.asOptional_eq_ok_iff.2 (.inl ⟨hpart.eq_null_iff.1 hnull, hunset⟩)
    · have hx' :=
        ih type slot (slot.isWellNamed_type hnamed) hpart
        (slot.hasDistinctNames_part hnames) hx
      exact Json.asOptional_eq_ok_iff.2 (.inr ⟨mt hpart.eq_null_iff.2 hnull, x, hx', hset⟩)

/-! ## Responses -/

namespace MessageType

variable {type : MessageType} {v w : Json}

/-- Values that are decoded alike make the same response. -/
theorem materialize_congr (parts : Parts)
    (h : (FieldType.message type.name type.shape).decode v =
      (FieldType.message type.name type.shape).decode w) :
    type.reader.materialize parts v = type.reader.materialize parts w := by
  have hread : type.reader.decode v = type.reader.decode w := h
  rw [BodyReader.materialize, BodyReader.materialize, hread]

/-- A response is made with the given parts, and with what the value is decoded as. -/
theorem materialize_eq_ok_iff {parts : Parts} {r : Response (Message type)} :
    type.reader.materialize parts v = .ok r ↔
      r.parts = parts ∧ (FieldType.message type.name type.shape).decode v = .ok r.body := by
  obtain ⟨given, body⟩ := r
  have hread : type.reader.decode v = (FieldType.message type.name type.shape).decode v := rfl
  rw [BodyReader.materialize, hread]
  cases (FieldType.message type.name type.shape).decode v with
  | error error => simp
  | ok m => simp [eq_comm]

/-- Where no response is made, the value does not fit the type of the body. -/
theorem materialize_eq_error {parts : Parts}
    (h : ¬ ∃ r, type.reader.materialize parts v = .ok r) :
    ∃ error, type.reader.materialize parts v =
      .error (.deserialization (.mismatch error)) := by
  cases hread : type.reader.decode v with
  | error error => exact ⟨error, by rw [BodyReader.materialize, hread]⟩
  | ok m => exact absurd ⟨⟨parts, m⟩, materialize_eq_ok_iff.2 ⟨rfl, hread⟩⟩ h

/-- A response is made of the values that conform to the type of the body. -/
theorem exists_materialize_iff_conforms (hnamed : type.shape.isWellNamed = true)
    (hnames : v.HasDistinctNames) (parts : Parts) :
    (∃ r, type.reader.materialize parts v = .ok r) ↔
      (FieldType.message type.name type.shape).Conforms v := by
  have hfield : (FieldType.message type.name type.shape).isWellNamed = true := hnamed
  rw [← FieldType.exists_decode_iff_conforms hfield hnames]
  constructor
  · intro hmade
    obtain ⟨r, hr⟩ := hmade
    exact ⟨r.body, (materialize_eq_ok_iff.1 hr).2⟩
  · intro hdecoded
    obtain ⟨m, hm⟩ := hdecoded
    exact ⟨⟨parts, m⟩, materialize_eq_ok_iff.2 ⟨rfl, hm⟩⟩

end MessageType

/-- What is asked of the making of a response from a value.  It succeeds if and only if the
value conforms to the type of the body, else it ends in a deserialization error.  The response
has the given parts, and each field of its body is the decoded part of the value, or unset
where that is absent or null: a scalar is the part itself, and a list is decoded element by
element.  An array is as good as the object with its elements as members, and the order of
members does not matter. -/
structure MessageType.DecodesExactly (type : MessageType) (parts : Parts) (v : Json) :
    Prop where
  accepted : (∃ r, type.reader.materialize parts v = .ok r) ↔
    (FieldType.message type.name type.shape).Conforms v
  refused : ¬ (FieldType.message type.name type.shape).Conforms v →
    ∃ error, type.reader.materialize parts v = .error (.deserialization (.mismatch error))
  kept : ∀ r, type.reader.materialize parts v = .ok r → r.parts = parts
  set : ∀ r, type.reader.materialize parts v = .ok r →
    ∀ (field : FieldType) (slot : Slot type.shape field), slot.part v ≠ .null →
      ∃ x, field.decode (slot.part v) = .ok x ∧ slot.get r.body = some x ∧
        ((slot.part v).isStructured = false → field.encode x = slot.part v)
  elements : ∀ r, type.reader.materialize parts v = .ok r →
    ∀ (item : FieldType) (slot : Slot type.shape (.list item)) (xs : List item.Value),
      slot.get r.body = some xs →
        ∃ items, slot.part v = .arr items ∧ items.map item.decode = xs.map .ok
  unset : ∀ r, type.reader.materialize parts v = .ok r →
    ∀ (field : FieldType) (slot : Slot type.shape field), slot.part v = .null →
      slot.get r.body = none
  positional : ∀ items, v = .arr items → items.length ≤ type.shape.size →
    type.reader.materialize parts v =
      type.reader.materialize parts (.obj (type.shape.wires.zip items))
  unordered : ∀ v', v.SameUpToOrder v' → ∀ r,
    type.reader.materialize parts v = .ok r ↔ type.reader.materialize parts v' = .ok r

/-- Responses with the messages of the service are made from the values that conform to their
types, and from no others, field by field. -/
theorem Catalog.materialize_decodesExactly {type : MessageType} (htype : type ∈ types)
    (parts : Parts) {v : Json} (hnames : v.HasDistinctNames) :
    type.DecodesExactly parts v := by
  have hnamed : type.shape.isWellNamed = true := (Catalog.isReadable htype).1
  have hfield : (FieldType.message type.name type.shape).isWellNamed = true := hnamed
  have hconforms := MessageType.exists_materialize_iff_conforms hnamed hnames parts
  have hread : ∀ r, type.reader.materialize parts v = .ok r →
      ∀ (field : FieldType) (slot : Slot type.shape field),
        (slot.part v).asOptional field.decode = .ok (slot.get r.body) := by
    intro r hr
    exact ((FieldType.decode_message_iff hnamed hnames).1
      (MessageType.materialize_eq_ok_iff.1 hr).2).2
  refine ⟨hconforms, fun hv => MessageType.materialize_eq_error (mt hconforms.1 hv),
    fun r hr => (MessageType.materialize_eq_ok_iff.1 hr).1, ?set, ?elements, ?unset,
      ?positional, ?unordered⟩
  case set =>
    intro r hr field slot hset
    rcases Json.asOptional_eq_ok_iff.1 (hread r hr field slot) with ⟨hnull, -⟩ | ⟨-, hx⟩
    · exact absurd hnull hset
    · obtain ⟨x, hx, hget⟩ := hx
      exact ⟨x, hx, hget, fun hscalar => FieldType.encode_of_decode hscalar hx⟩
  case elements =>
    intro r hr item slot xs hxs
    rcases Json.asOptional_eq_ok_iff.1 (hread r hr _ slot) with ⟨-, hunset⟩ | ⟨-, x, hx, hget⟩
    · rw [hxs] at hunset
      cases hunset
    · obtain rfl : xs = x := Option.some.inj (hxs.symm.trans hget)
      exact FieldType.decode_list_iff.1 hx
  case unset =>
    intro r hr field slot hnull
    have hslot := hread r hr field slot
    rw [hnull] at hslot
    exact (Except.ok.inj hslot).symm
  case positional =>
    intro items hv hlength
    subst hv
    exact MessageType.materialize_congr parts
      (FieldType.decode_arr (Shape.nodup_wires hnamed) hlength)
  case unordered =>
    intro v' hv' r
    rw [MessageType.materialize_eq_ok_iff, MessageType.materialize_eq_ok_iff]
    refine and_congr_right fun _ => ⟨?_, ?_⟩
    · exact FieldType.decode_of_sameUpToOrder hfield hv' hnames
    · exact FieldType.decode_of_sameUpToOrder hfield hv'.symm (hv'.hasDistinctNames hnames)

/-- A zone of a load balancer as an array, with an unset field and with two addresses: an
object whose members are unknown or null, and an empty array. -/
theorem Catalog.materialize_decodesExactly_of_zone :
    let v : Json := .arr [.str "a", .null, .str "",
      .arr [.obj [("Unknown", .arr []), ("AllocationId", .null)], .arr []]]
    let m : Message zoneMappingAttribute :=
      (some "a", none, some "",
        some [loadBalancerAddress.unset, loadBalancerAddress.unset], ())
    zoneMappingAttribute ∈ types ∧ v.HasDistinctNames ∧
      zoneMappingAttribute.DecodesExactly ⟨200, {}⟩ v ∧
      zoneMappingAttribute.reader.materialize ⟨200, {}⟩ v = .ok ⟨⟨200, {}⟩, m⟩ := by
  intro v m
  have hmem : zoneMappingAttribute ∈ types := List.mem_of_getElem? (i := 7) rfl
  have hnames : v.HasDistinctNames := by decide
  exact ⟨hmem, hnames, materialize_decodesExactly hmem ⟨200, {}⟩ hnames, rfl⟩

-- Names are compared letter by letter, and null leaves a field unset.
example : Catalog.tag.ofJson (.obj [("key", .str "a"), ("Value", .null)]) =
    .ok Catalog.tag.unset := rfl

end BalancerClient
