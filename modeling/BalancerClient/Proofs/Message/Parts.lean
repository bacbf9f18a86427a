import BalancerClient.Proofs.Message.RoundTrip
import BalancerClient.Proofs.Message.Slots

/-!
# How values are decoded

Scalars are decoded as what they are, and lists element by element.

A message is read from an object by the names of members, and from an array by the numbers of
elements.  Either way every place has a part of the value to be read from, which is null if
there is no such member or element, and reading the message is reading each place from its
part.  The two ways agree: the elements of an array are read like members that are called by
the wire names.

## Main definitions

* `Slot.part` - the part of a value that a place is read from.
* `Shape.Admits` - a value is an object, or an array that is not too long.

## Main statements

* `FieldType.encode_of_decode`, `FieldType.decode_list_iff` - scalars and lists.
* `FieldType.decode_arr` - an array is read like the object with its elements as members.
* `FieldType.decode_message_iff` - a message is read place by place.
-/

namespace BalancerClient

theorem lookup_eq_none_iff_notMem {members : List (String × Json)} {name : String} :
    members.lookup name = none ↔ name ∉ members.map Prod.fst := by
  rw [List.lookup_eq_none_iff, List.mem_map]
  constructor
  · intro h hmem
    obtain ⟨p, hp, hname⟩ := hmem
    exact bne_iff_ne.1 (h p hp) hname.symm
  · intro h p hp
    exact bne_iff_ne.2 fun hname => h ⟨p, hp, hname.symm⟩

/-- Under different names, the member that is looked up is the one with the name. -/
theorem lookup_eq_some_iff_mem {members : List (String × Json)}
    (h : (members.map Prod.fst).Nodup) {name : String} {v : Json} :
    members.lookup name = some v ↔ (name, v) ∈ members := by
  constructor
  · exact mem_of_lookup_eq_some
  · intro hmem
    cases hw : members.lookup name with
    | none => exact absurd (List.mem_map_of_mem hmem) (lookup_eq_none_iff_notMem.1 hw)
    | some w =>
      have heq : (name, w) = (name, v) :=
        List.inj_on_of_nodup_map h (mem_of_lookup_eq_some hw) hmem rfl
      rw [(Prod.mk.inj heq).2]

/-! ## Values -/

namespace Json

variable {α : Type}

/-- A value that may be null is read as nothing set, or else as what it is. -/
theorem asOptional_eq_ok_iff {read : Json → Except DecodeError α} {v : Json} {w : Option α} :
    v.asOptional read = .ok w ↔
      (v = .null ∧ w = none) ∨ (v ≠ .null ∧ ∃ x, read v = .ok x ∧ w = some x) := by
  by_cases hv : v = .null
  · subst hv
    simp [eq_comm]
  · rw [asOptional_of_not_isNull _ (isNull_eq_false_iff.2 hv)]
    cases read v with
    | error error => simp [hv, Except.map]
    | ok x => simp [hv, Except.map, eq_comm]

/-- What is read as an integer of 32 bits is that integer. -/
theorem eq_int_of_asInt32 {v : Json} {n : Int32} (h : v.asInt32 = .ok n) :
    v = .int n.toInt := by
  rcases v with _ | _ | ⟨⟨k, wide⟩ | _⟩ | _ | _ | _
  case num.int =>
    by_cases hrange : -0x80000000 ≤ k ∧ k < 0x80000000
    · obtain rfl : Int32.ofInt k = n := Except.ok.inj ((if_pos hrange).symm.trans h)
      rw [Int32.toInt_ofInt_of_le hrange.1 hrange.2, int, Number.ofInt_of_isWide wide]
    · cases (if_neg hrange).symm.trans h
  all_goals cases h

/-- What is read as an integer of 64 bits is that integer. -/
theorem eq_int_of_asInt64 {v : Json} {n : Int64} (h : v.asInt64 = .ok n) :
    v = .int n.toInt := by
  rcases v with _ | _ | ⟨⟨k, wide⟩ | _⟩ | _ | _ | _
  case num.int =>
    by_cases hrange : -0x8000000000000000 ≤ k ∧ k < 0x8000000000000000
    · obtain rfl : Int64.ofInt k = n := Except.ok.inj ((if_pos hrange).symm.trans h)
      rw [Int64.toInt_ofInt_of_le hrange.1 hrange.2, int, Number.ofInt_of_isWide wide]
    · cases (if_neg hrange).symm.trans h
  all_goals cases h

/-- A list is read element by element. -/
theorem mapM_eq_ok_iff {read : Json → Except DecodeError α} {items : List Json}
    {xs : List α} : items.mapM read = .ok xs ↔ items.map read = xs.map .ok := by
  induction items generalizing xs with
  | nil => cases xs <;> simp [pure, Except.pure]
  | cons v items ih =>
    rw [List.mapM_cons, List.map_cons]
    cases hv : read v with
    | error error => cases xs <;> simp [bind, Except.bind]
    | ok x =>
      cases xs with
      | nil => cases items.mapM read <;> simp [bind, Except.bind, pure, Except.pure]
      | cons x' xs =>
        rw [List.map_cons, List.cons.injEq, ← ih]
        cases items.mapM read <;> simp [bind, Except.bind, pure, Except.pure]

theorem exists_mapM_eq_ok_iff {read : Json → Except DecodeError α} {items : List Json} :
    (∃ xs, items.mapM read = .ok xs) ↔ ∀ v ∈ items, ∃ x, read v = .ok x := by
  simp only [mapM_eq_ok_iff]
  induction items with
  | nil => exact iff_of_true ⟨[], rfl⟩ (List.forall_mem_nil _)
  | cons v items ih =>
    rw [List.forall_mem_cons, ← ih]
    constructor
    · intro hread
      obtain ⟨xs, hxs⟩ := hread
      cases xs with
      | nil => cases hxs
      | cons x xs => exact ⟨⟨x, (List.cons.inj hxs).1⟩, xs, (List.cons.inj hxs).2⟩
    · intro hread
      obtain ⟨⟨x, hx⟩, xs, hxs⟩ := hread
      exact ⟨x :: xs, congrArg₂ List.cons hx hxs⟩

end Json

namespace FieldType

/-- What is decoded from a text, a truth value or a number is that very value. -/
theorem encode_of_decode {type : FieldType} {v : Json} (hv : v.isStructured = false)
    {x : type.Value} (hx : type.decode v = .ok x) : type.encode x = v := by
  cases type with
  | int32 => exact (Json.eq_int_of_asInt32 hx).symm
  | int64 => exact (Json.eq_int_of_asInt64 hx).symm
  | text =>
    cases v with
    | str s => exact congrArg Json.str (Except.ok.inj hx).symm
    | _ => cases hx
  | flag =>
    cases v with
    | bool b => exact congrArg Json.bool (Except.ok.inj hx).symm
    | _ => cases hx
  | list item =>
    cases v with
    | arr items => cases hv
    | _ => cases hx
  | message name shape =>
    cases v with
    | arr items => cases hv
    | obj members => cases hv
    | _ => cases hx

/-- A list is decoded from an array, element by element. -/
theorem decode_list_iff {item : FieldType} {v : Json} {xs : List item.Value} :
    (list item).decode v = .ok xs ↔ ∃ items, v = .arr items ∧ items.map item.decode =
      xs.map .ok := by
  constructor
  · intro h
    cases v with
    | arr items => exact ⟨items, rfl, Json.mapM_eq_ok_iff.1 h⟩
    | _ => cases h
  · intro h
    obtain ⟨items, rfl, hitems⟩ := h
    exact Json.mapM_eq_ok_iff.2 hitems

end FieldType

/-! ## Members -/

namespace Shape

variable {field : Field} {type : FieldType} {rest : Shape}

/-- A member that no field is called by is passed over. -/
theorem decodeMember_of_notMem {name : String} (v : Json) :
    ∀ {shape : Shape}, name ∉ shape.wires →
    ∀ m : shape.Values, shape.decodeMember name v m = .ok m
  | .nil, _, _ => rfl
  | .cons field type rest, h, (w, m) => by
    obtain ⟨hfield, hrest⟩ := not_or.1 (mt List.mem_cons.2 h)
    rw [decodeMember, if_neg (Ne.symm hfield), decodeMember_of_notMem v hrest]
    rfl

/-- The first field is read from the member with its name, the others are read without it. -/
theorem decodeMembers_eq_ok_cons_iff (hwire : field.wire ∉ rest.wires)
    {members : List (String × Json)} (hnames : (members.map Prod.fst).Nodup)
    {w : Option type.Value} {m m' : rest.Values} :
    (cons field type rest).decodeMembers members (none, m) = .ok (w, m') ↔
      ((members.lookup field.wire).getD .null).asOptional type.decode = .ok w ∧
        rest.decodeMembers members m = .ok m' := by
  induction members generalizing m with
  | nil => simp [decodeMembers, pure, Except.pure, eq_comm]
  | cons member members ih =>
    obtain ⟨name, v⟩ := member
    rw [List.map_cons, List.nodup_cons] at hnames
    rw [decodeMembers_cons, decodeMembers_cons, decodeMember]
    by_cases hname : field.wire = name
    · -- the member of the first field, which the others pass over
      subst hname
      rw [if_pos rfl, List.lookup_cons_self, Option.getD_some, decodeMember_of_notMem v hwire]
      cases v.asOptional type.decode with
      | error error => simp [Except.map, Except.bind]
      | ok w' =>
        change (cons field type rest).decodeMembers members (w', m) = _ ↔ _
        rw [decodeMembers_of_notMem hnames.1]
        cases hrest : rest.decodeMembers members m with
        | error error => simp [Except.map, Except.bind, hrest]
        | ok m' => simp [Except.map, Except.bind, hrest]
    · -- any other member
      rw [if_neg hname, lookup_cons_of_ne hname]
      cases rest.decodeMember name v m with
      | error error => simp [Except.map, Except.bind]
      | ok m => exact ih hnames.2

/-- A message is read from members if each place is read from the member with its name. -/
theorem decodeMembers_eq_ok_iff {members : List (String × Json)}
    (hnames : (members.map Prod.fst).Nodup) :
    ∀ {shape : Shape}, shape.wires.Nodup → ∀ {m : shape.Values},
      shape.decodeMembers members shape.unset = .ok m ↔
        ∀ (type : FieldType) (slot : Slot shape type),
        ((members.lookup slot.field.wire).getD .null).asOptional type.decode =
          .ok (slot.get m)
  | .nil, _, m => by
    have hnil : ∀ members, Shape.nil.decodeMembers members () = .ok () := by
      intro members
      induction members with
      | nil => rfl
      | cons member members ih => exact ih
    exact iff_of_true (hnil members) fun _ slot => nomatch slot
  | .cons field type rest, h, (w, m) => by
    obtain ⟨hwire, hrest⟩ := List.nodup_cons.1 h
    rw [unset, decodeMembers_eq_ok_cons_iff hwire hnames,
      decodeMembers_eq_ok_iff hnames hrest]
    constructor
    · intro hread type slot
      cases slot with
      | here => exact hread.1
      | there slot => exact hread.2 type slot
    · intro hread
      exact ⟨hread _ .here, fun type slot => hread type (.there slot)⟩

/-! ## Elements -/

/-- As many elements are left over as there are too many. -/
theorem left_of_decodeItems :
    ∀ {shape : Shape} {items : List Json} {m : shape.Values} {left : Nat},
    shape.decodeItems items = .ok (m, left) → left = items.length - shape.size
  | .nil, items, _, _, h => by
    obtain rfl := (Prod.mk.inj (Except.ok.inj h)).2
    rfl
  | .cons _ _ _, [], _, _, h => by
    obtain rfl := (Prod.mk.inj (Except.ok.inj h)).2
    exact (Nat.zero_sub _).symm
  | .cons field type rest, v :: items, (w, m), left, h => by
    rw [decodeItems] at h
    cases hv : v.asOptional type.decode with
    | error error => simp [hv] at h
    | ok w' =>
      cases hitems : rest.decodeItems items with
      | error error => simp [hv, hitems, Except.map] at h
      | ok read =>
        obtain ⟨m', left'⟩ := read
        simp only [hv, hitems, Except.map, Except.ok.injEq, Prod.mk.injEq] at h
        rw [← h.2, left_of_decodeItems hitems, size, List.length_cons, Nat.add_sub_add_right]

/-- Elements are read like members that are called by the wire names. -/
theorem decodeItems_eq : ∀ {shape : Shape}, shape.wires.Nodup → ∀ {items : List Json},
    items.length ≤ shape.size →
      shape.decodeItems items =
        (shape.decodeMembers (shape.wires.zip items) shape.unset).map (·, 0)
  | .nil, _, [], _ => rfl
  | .cons _ _ _, _, [], _ => rfl
  | .cons field type rest, h, v :: items, hlength => by
    obtain ⟨hwire, hrest⟩ := List.nodup_cons.1 h
    have hothers : field.wire ∉ (rest.wires.zip items).map Prod.fst := by
      intro hmem
      obtain ⟨⟨wire, w⟩, hzip, rfl⟩ := List.mem_map.1 hmem
      exact hwire (List.of_mem_zip hzip).1
    have hitems : rest.decodeItems items =
        (rest.decodeMembers (rest.wires.zip items) rest.unset).map (·, 0) :=
      decodeItems_eq hrest (Nat.le_of_succ_le_succ hlength)
    change _ = Except.map _
      ((cons field type rest).decodeMembers ((field.wire, v) :: rest.wires.zip items) _)
    rw [decodeItems, decodeMembers_cons, unset, decodeMember, if_pos rfl, hitems]
    cases v.asOptional type.decode with
    | error error => rfl
    | ok w =>
      change _ = Except.map _ ((cons field type rest).decodeMembers _ (w, rest.unset))
      rw [decodeMembers_of_notMem hothers]
      cases rest.decodeMembers (rest.wires.zip items) rest.unset with
      | error error => rfl
      | ok m => rfl

end Shape

theorem map_fst_zip_sublist {α β : Type} : ∀ (l : List α) (l' : List β),
    ((l.zip l').map Prod.fst).Sublist l
  | [], _ => .slnil
  | _ :: _, [] => List.nil_sublist _
  | a :: l, _ :: l' => (map_fst_zip_sublist l l').cons_cons a

/-- The member that is called by the wire name of a place is the element with the place's
number. -/
theorem Slot.lookup_zip_wires {type : FieldType} : ∀ {shape : Shape} (slot : Slot shape type),
    shape.wires.Nodup → ∀ items : List Json,
      (shape.wires.zip items).lookup slot.field.wire = items[slot.index]?
  | .cons _ _ _, .here, _, [] => rfl
  | .cons _ _ _, .there _, _, [] => rfl
  | .cons _ _ _, .here, _, _ :: _ => List.lookup_cons_self
  | .cons field _ rest, .there slot, h, v :: items => by
    obtain ⟨hwire, hrest⟩ := List.nodup_cons.1 h
    have hne : slot.field.wire ≠ field.wire := by
      intro heq
      exact hwire (heq ▸ slot.wire_mem_wires)
    change ((field.wire, v) :: rest.wires.zip items).lookup slot.field.wire =
      items[slot.index]?
    rw [lookup_cons_of_ne hne]
    exact lookup_zip_wires slot hrest items

/-! ## Parts -/

/-- The part of a value that a place is read from: the member with the wire name, or the
element with the number of the place.  Where there is none, it is null. -/
def Slot.part {shape : Shape} {type : FieldType} (slot : Slot shape type) : Json → Json
  | .obj members => (members.lookup slot.field.wire).getD .null
  | .arr items => items[slot.index]?.getD .null
  | _ => .null

/-- The values that a message can be read from, as far as its parts are right: objects, and
arrays with no more elements than there are fields. -/
def Shape.Admits (shape : Shape) : Json → Prop
  | .obj _ => True
  | .arr items => items.length ≤ shape.size
  | _ => False

namespace Slot

variable {shape : Shape} {type : FieldType} (slot : Slot shape type)

/-- A part of an object that is not null is a member. -/
theorem part_obj_iff {members : List (String × Json)} (hnames : (members.map Prod.fst).Nodup)
    {w : Json} (hw : w ≠ .null) :
    slot.part (.obj members) = w ↔ (slot.field.wire, w) ∈ members := by
  rw [← lookup_eq_some_iff_mem hnames, part]
  cases members.lookup slot.field.wire with
  | none => simp [Ne.symm hw]
  | some v => simp

/-- A part of an array that is not null is an element. -/
theorem part_arr_iff {items : List Json} {w : Json} (hw : w ≠ .null) :
    slot.part (.arr items) = w ↔ items[slot.index]? = some w := by
  rw [part]
  cases items[slot.index]? with
  | none => simp [Ne.symm hw]
  | some v => simp

theorem hasDistinctNames_part {v : Json} (h : v.HasDistinctNames) :
    (slot.part v).HasDistinctNames := by
  by_cases hpart : slot.part v = .null
  · rw [hpart]
    rfl
  · cases v with
    | obj members =>
      obtain ⟨hnames, hmembers⟩ := Json.hasDistinctNames_obj.1 h
      exact hmembers _ ((slot.part_obj_iff hnames hpart).1 rfl)
    | arr items =>
      have hitem := (slot.part_arr_iff hpart).1 rfl
      exact Json.hasDistinctNames_arr.1 h _ (List.mem_of_getElem? hitem)
    | _ => exact absurd rfl hpart

end Slot

namespace FieldType

variable {name : String} {shape : Shape}

/-- An array that is not too long is read like the object with its elements as members. -/
theorem decode_arr (h : shape.wires.Nodup) {items : List Json}
    (hlength : items.length ≤ shape.size) : (message name shape).decode (.arr items) =
      (message name shape).decode (.obj (shape.wires.zip items)) := by
  rw [decode_obj, decode, Shape.decodeItems_eq h hlength]
  cases shape.decodeMembers (shape.wires.zip items) shape.unset with
  | error error => rfl
  | ok m => rfl

/-- A message is read if the value has the form of one, and each place is read from its
part. -/
theorem decode_message_iff (hnamed : shape.isWellNamed = true) {v : Json}
    (hnames : v.HasDistinctNames) {m : shape.Values} :
    (message name shape).decode v = .ok m ↔
      shape.Admits v ∧ ∀ (type : FieldType) (slot : Slot shape type),
        (slot.part v).asOptional type.decode = .ok (slot.get m) := by
  have hwires := Shape.nodup_wires hnamed
  cases v with
  | obj members =>
    rw [decode_obj,
      Shape.decodeMembers_eq_ok_iff (Json.hasDistinctNames_obj.1 hnames).1 hwires]
    exact (and_iff_right trivial).symm
  | arr items =>
    by_cases hlength : items.length ≤ shape.size
    · have hzip : ((shape.wires.zip items).map Prod.fst).Nodup :=
        (map_fst_zip_sublist _ _).nodup hwires
      rw [decode_arr hwires hlength, decode_obj, Shape.decodeMembers_eq_ok_iff hzip hwires]
      simp only [Slot.lookup_zip_wires _ hwires]
      exact (and_iff_right hlength).symm
    · refine iff_of_false ?_ fun hread => hlength hread.1
      intro hread
      rw [decode] at hread
      cases hitems : shape.decodeItems items with
      | error error => simp [hitems] at hread
      | ok read =>
        obtain ⟨m', left⟩ := read
        have hleft := Shape.left_of_decodeItems hitems
        rw [hitems] at hread
        simp only at hread
        rw [if_neg (by omega)] at hread
        cases hread
  | _ =>
    refine iff_of_false ?_ And.left
    intro hread
    cases hread

end FieldType

end BalancerClient
