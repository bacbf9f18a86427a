import BalancerClient.Proofs.Message.RoundTrip
import BalancerClient.Proofs.Request.Normal
import BalancerClient.Proofs.Request.Violations
import Mathlib.Order.Interval.Set.Defs

/-!
# Numbers of list elements

The elements of a list are numbered on the wire from 1 on, and an element in which no scalar
is set leaves its number unused.  No request that is accepted has such an element: wherever a
request holds a list of messages, some scalar of these messages is required, and each of them
is checked.  So the numbers that parameters use below the name of a list are those up to its
length.

## Main definitions

* `Shape.requiresScalar` - some scalar of a message is required.
* `Shape.isGapless` - wherever a message holds a list of messages, these require a scalar.
* `Shape.HasList` - a list of so many elements stands at a way.
* `Parameters.numbersBelow` - the numbers in use below a name.

## Main statements

* `Shape.exists_at_of_hasList` - every element of a list of an accepted message has a scalar
  inside.
* `WireRequest.numbersBelow_shape` - then its numbers are used one and all.
* `Operation.numbersBelow_eq_Icc` - so it is with the lists of every accepted request.
-/

namespace BalancerClient

/-! ## Required scalars -/

/-- Whether some field that holds a scalar is required. -/
def Shape.requiresScalar : Shape → Bool
  | .nil => false
  | .cons field type rest =>
    (field.rules.contains .required && !type.isStructured) || rest.requiresScalar

mutual

/-- Whether the messages in the lists inside a field require a scalar. -/
def FieldType.isGapless : FieldType → Bool
  | .list (.message _ shape) => shape.requiresScalar && shape.isGapless
  | .list item => !item.isStructured
  | .message _ shape => shape.isGapless
  | _ => true
termination_by structural type => type

/-- Whether the messages in the lists inside a shape require a scalar. -/
def Shape.isGapless : Shape → Bool
  | .nil => true
  | .cons _ type rest => type.isGapless && rest.isGapless
termination_by structural shape => shape

end

/-- The messages in the lists of every request require a scalar. -/
theorem Operation.isGapless_request (op : Operation) : op.request.shape.isGapless = true := by
  have hall : Operation.all.all (fun op => op.request.shape.isGapless) = true :=
    by decide +kernel
  exact List.all_eq_true.1 hall op op.mem_all

namespace Shape

theorem findings_cons_eq_nil {field : Field} {type : FieldType} {rest : Shape}
    {v : Option type.Value} {m : rest.Values}
    (h : (Shape.cons field type rest).findings (v, m) = []) :
    (∀ rule ∈ field.rules, rule.breach? (v.map type.facet) = none) ∧
      (∀ value, v = some value → type.findings value = []) ∧ rest.findings m = [] := by
  rw [findings, List.append_eq_nil_iff, List.append_eq_nil_iff, List.map_eq_nil_iff,
    List.map_eq_nil_iff, List.filterMap_eq_nil_iff, List.flatMap_eq_nil_iff] at h
  obtain ⟨hrules, hinner, hrest⟩ := h
  refine ⟨hrules, ?_, hrest⟩
  intro value hvalue
  exact hinner value (Option.mem_toList.2 hvalue)

/-- A message without findings has the scalar that is required. -/
theorem scalars_ne_nil_of_requiresScalar : ∀ {shape : Shape} {m : shape.Values},
    shape.requiresScalar = true → shape.findings m = [] → shape.scalars m ≠ []
  | .cons field type rest, (v, m), hrequires, hfindings => by
    obtain ⟨hrules, -, hrest⟩ := findings_cons_eq_nil hfindings
    rw [requiresScalar, Bool.or_eq_true, Bool.and_eq_true, List.contains_iff_mem,
      Bool.not_eq_true'] at hrequires
    rcases hrequires with ⟨hrequired, hscalar⟩ | hrequires
    · cases v with
      | none => exact absurd (hrules _ hrequired) (Option.some_ne_none _)
      | some value =>
        intro hnil
        rw [scalars, List.append_eq_nil_iff, List.map_eq_nil_iff] at hnil
        exact FieldType.scalars_ne_nil hscalar value hnil.1
    · have hne := scalars_ne_nil_of_requiresScalar hrequires hrest
      cases v with
      | none => exact hne
      | some value =>
        intro hnil
        rw [scalars, List.append_eq_nil_iff] at hnil
        exact hne hnil.2

end Shape

namespace Slot

variable {type : FieldType}

theorem isGapless_of_slot : ∀ {shape : Shape}, Slot shape type → shape.isGapless = true →
    type.isGapless = true
  | .cons _ _ _, .here, h => (Bool.and_eq_true_iff.1 h).1
  | .cons _ _ _, .there slot, h => isGapless_of_slot slot (Bool.and_eq_true_iff.1 h).2

/-- What a field holds has no findings if the message has none. -/
theorem findings_get :
    ∀ {shape : Shape} (slot : Slot shape type) {m : shape.Values} {v : type.Value},
    shape.findings m = [] → slot.get m = some v → type.findings v = []
  | .cons _ _ _, .here, (_, _), v, h, hget => (Shape.findings_cons_eq_nil h).2.1 v hget
  | .cons _ _ _, .there slot, (_, _), _, h, hget =>
    findings_get slot (Shape.findings_cons_eq_nil h).2.2 hget

end Slot

/-- The messages of a list have no findings if the list has none. -/
theorem findings_eq_nil_of_mem_list {name : String} {shape : Shape} {ms : List shape.Values}
    (h : (FieldType.list (.message name shape)).findings ms = []) {m : shape.Values}
    (hm : m ∈ ms) : shape.findings m = [] := by
  obtain ⟨i, hi⟩ := List.mem_iff_getElem?.1 hm
  have hmem : (m, i + 1) ∈ ms.zipIdx 1 := by
    rw [List.mk_mem_zipIdx_iff_le_and_getElem?_sub]
    exact ⟨Nat.le_add_left 1 i, hi⟩
  rw [FieldType.findings, numberedFindings, List.flatMap_eq_nil_iff] at h
  exact List.map_eq_nil_iff.1 (h _ hmem)

/-- Every element of a list without findings has a scalar inside. -/
theorem FieldType.scalars_ne_nil_of_mem_list {item : FieldType} {vs : List item.Value}
    (hgapless : (FieldType.list item).isGapless = true)
    (h : (FieldType.list item).findings vs = [])
    {v : item.Value} (hv : v ∈ vs) : item.scalars v ≠ [] := by
  cases item with
  | message name shape =>
    rw [isGapless, Bool.and_eq_true] at hgapless
    exact Shape.scalars_ne_nil_of_requiresScalar hgapless.1 (findings_eq_nil_of_mem_list h hv)
  | list item => cases hgapless
  | text => exact scalars_ne_nil rfl v
  | int32 => exact scalars_ne_nil rfl v
  | int64 => exact scalars_ne_nil rfl v
  | flag => exact scalars_ne_nil rfl v

/-! ## Lists in a message -/

/-- A list of so many elements stands at a way in a message: in a field of its own, or further
inside, in a message or in an element of a list of messages. -/
inductive Shape.HasList : {shape : Shape} → shape.Values → List String → Nat → Prop where
  | field {shape : Shape} {m : shape.Values} {item : FieldType}
      (slot : Slot shape (.list item))
      {vs : List item.Value} (hset : slot.get m = some vs) :
        HasList m [slot.field.wire] vs.length
  | nested {shape inner : Shape} {m : shape.Values} {name : String}
      (slot : Slot shape (.message name inner)) {v : inner.Values}
        (hset : slot.get m = some v)
      {way : List String} {count : Nat} (h : HasList v way count) :
    HasList m (slot.field.wire :: way) count
  | element {shape inner : Shape} {m : shape.Values} {name : String}
      (slot : Slot shape (.list (.message name inner))) {vs : List inner.Values}
      (hset : slot.get m = some vs) {i : Nat} {v : inner.Values} (helement : vs[i]? = some v)
      {way : List String} {count : Nat} (h : HasList v way count) :
    HasList m (slot.field.wire :: toString (i + 1) :: way) count

namespace Shape

/-- A field that is set is a member of the message's object. -/
theorem mem_encode_of_get {shape : Shape} {m : shape.Values} {type : FieldType}
    (slot : Slot shape type) {v : type.Value} (h : slot.get m = some v) :
    (slot.field.wire, type.encode v) ∈ shape.encode m :=
  (mem_encode_iff _ _ shape m).2 ⟨type, slot, v, h, rfl, rfl⟩

/-- A list of a message without findings is found in the message's object, and every element
of it has a scalar inside. -/
theorem exists_at_of_hasList {shape : Shape} {m : shape.Values} {way : List String}
    {count : Nat} (h : HasList m way count) (hgapless : shape.isGapless = true)
    (hfindings : shape.findings m = []) :
    ∃ items, (Json.obj (shape.encode m)).At way (.arr items) ∧ items.length = count ∧
      ∀ v ∈ items, v.leaves ≠ [] := by
  induction h with
  | @field shape m item slot vs hset =>
    refine ⟨vs.map item.encode, .member (mem_encode_of_get slot hset) (.here _),
      List.length_map _, ?_⟩
    intro v hv
    obtain ⟨value, hvalue, rfl⟩ := List.mem_map.1 hv
    rw [item.leaves_encode]
    exact FieldType.scalars_ne_nil_of_mem_list (slot.isGapless_of_slot hgapless)
      (slot.findings_get hfindings hset) hvalue
  | nested slot hset h ih =>
    obtain ⟨items, hat, hitems⟩ :=
      ih (slot.isGapless_of_slot hgapless) (slot.findings_get hfindings hset)
    exact ⟨items, .member (mem_encode_of_get slot hset) hat, hitems⟩
  | @element shape inner m name slot vs hset i v helement way count h ih =>
    have hinner : (FieldType.list (.message name inner)).isGapless = true :=
      slot.isGapless_of_slot hgapless
    rw [FieldType.isGapless, Bool.and_eq_true] at hinner
    obtain ⟨items, hat, hitems⟩ := ih hinner.2
      (findings_eq_nil_of_mem_list (slot.findings_get hfindings hset)
        (List.mem_of_getElem? helement))
    have hitem : (vs.map (FieldType.message name inner).encode)[i]? =
        some (.obj (inner.encode v)) := by
      rw [List.getElem?_map, helement]
      rfl
    exact ⟨items, .member (mem_encode_of_get slot hset) (.element hitem hat), hitems⟩

theorem HasList.way_ne_nil {shape : Shape} {m : shape.Values} {way : List String}
    {count : Nat} (h : HasList m way count) : way ≠ [] := by
  cases h <;> exact List.cons_ne_nil _ _

end Shape

/-! ## Numbers on the wire -/

/-- The numbers in use below a name: those that stand, behind the name and a point, at the end
of the name of a parameter or before a further point in it. -/
def Parameters.numbersBelow (p : Parameters) (name : String) : Set Nat :=
  {n | ∃ other ∈ p.names,
    other = pathName name (toString n) ∨ IsBelow (pathName name (toString n)) other}

theorem Parameters.mem_names_iff {p : Parameters} {name : String} :
    name ∈ p.names ↔ ∃ text, p.get? name = some text := by
  simp only [names, List.mem_map, Prod.exists, mem_entries_iff, exists_and_right,
    exists_eq_right]

/-- A number is in use if there is a parameter at it or below it. -/
theorem Parameters.mem_numbersBelow_iff {p : Parameters} {name : String} {n : Nat} :
    n ∈ p.numbersBelow name ↔ ¬ (p.get? (pathName name (toString n)) = none ∧
      p.below (pathName name (toString n)) = []) := by
  constructor
  · intro h
    obtain ⟨other, hother, hname⟩ := h
    rintro ⟨hget, hbelow⟩
    obtain ⟨text, htext⟩ := mem_names_iff.1 hother
    rcases hname with rfl | hname
    · rw [hget] at htext
      cases htext
    · have hmem : (other, text) ∈ p.below (pathName name (toString n)) :=
        List.mem_filter.2 ⟨(mem_entries_iff p _ _).2 htext, decide_eq_true hname⟩
      rw [hbelow] at hmem
      cases hmem
  · intro h
    by_cases hget : p.get? (pathName name (toString n)) = none
    · obtain ⟨e, he⟩ := List.exists_mem_of_ne_nil _ fun hbelow => h ⟨hget, hbelow⟩
      obtain ⟨hmem, hname⟩ := List.mem_filter.1 he
      exact ⟨e.1, List.mem_map.2 ⟨e, hmem, rfl⟩, .inr (of_decide_eq_true hname)⟩
    · exact ⟨_, mem_names_iff.2 (Option.ne_none_iff_exists'.1 hget), .inl rfl⟩

namespace WireRequest

variable {d : Descriptor} {members : List (String × Json)}
  (hdistinct : (Json.obj members).HasDistinctNames) (hallow : NamesAllow d members)

include hdistinct hallow

omit hdistinct in
/-- The parts of a way that leads into no packed member hold no point. -/
theorem isDotless_of_at {part : String} {path : List String} {v : Json}
    (hat : (Json.obj members).At (part :: path) v) (hpacked : d.isPacked part = false) :
    ∀ p ∈ part :: path, IsDotless p := by
  obtain ⟨u, hmem, hat⟩ := Json.at_obj_cons.1 hat
  obtain ⟨hpart, hinner⟩ := hallow _ hmem
  exact List.forall_mem_cons.2 ⟨hpart, Json.isDotless_of_at hat (hinner hpacked)⟩

/-- The number of an element with a scalar inside is in use. -/
theorem mem_numbersBelow_shape {part : String} {path : List String} {n : Nat} {v : Json}
    (hat : (Json.obj members).At (part :: path ++ [toString n]) v) (hv : v.leaves ≠ [])
    (hpacked : d.isPacked part = false) :
    n ∈ (shape d members).numbersBelow (dottedName (part :: path)) := by
  obtain ⟨l, hl⟩ := List.exists_mem_of_ne_nil _ hv
  obtain ⟨w, hw, htext⟩ := Json.mem_leaves_iff.1 hl
  have hget : (shape d members).get? (dottedName (part :: path ++ [toString n] ++ l.path)) =
      some l.text :=
    get?_shape_of_at hdistinct hallow (Json.at_append.2 ⟨v, hat, hw⟩) htext fun _ => hpacked
  refine ⟨_, Parameters.mem_names_iff.2 ⟨_, hget⟩, ?_⟩
  rw [pathName_dottedName (List.cons_ne_nil _ _)]
  by_cases hnil : l.path = []
  · left
    rw [hnil, List.append_nil]
  · right
    exact isBelow_dottedName_append (List.cons_ne_nil _ _) hnil

/-- If every element of a list has a scalar inside, the numbers in use below its name are
those up to its length. -/
theorem numbersBelow_shape {part : String} {path : List String} {items : List Json}
    (hat : (Json.obj members).At (part :: path) (.arr items))
    (hpacked : d.isPacked part = false) (hitems : ∀ v ∈ items, v.leaves ≠ []) :
    (shape d members).numbersBelow (dottedName (part :: path)) = Set.Icc 1 items.length := by
  ext n
  rw [Set.mem_Icc]
  constructor
  · intro hn
    by_contra hout
    -- an element of the list would have a number up to the length
    have hnone : ∀ w, ¬ (Json.obj members).At (part :: path ++ [toString n]) w := by
      intro w hw
      obtain ⟨u, hu, hw⟩ := Json.at_append.1 hw
      obtain rfl := Json.at_unique hdistinct hu hat
      obtain ⟨i, v, hi, hv, -⟩ := Json.exists_of_at_arr hw
      obtain rfl := toString_nat_injective hi
      have hlt := (List.getElem?_eq_some_iff.1 hv).1
      omega
    have hdots : ∀ p ∈ part :: path ++ [toString n], IsDotless p := by
      rw [List.forall_mem_append, List.forall_mem_singleton]
      exact ⟨isDotless_of_at hallow hat hpacked, isDotless_toString n⟩
    have hshape := shape_of_not_at hdistinct hallow (List.cons_ne_nil _ _) hdots hnone
    rw [Parameters.mem_numbersBelow_iff, pathName_dottedName (List.cons_ne_nil _ _)] at hn
    exact hn hshape
  · intro hn
    obtain ⟨i, rfl⟩ : ∃ i, n = i + 1 := ⟨n - 1, by omega⟩
    have hi : items[i]? = some items[i] := List.getElem?_eq_getElem (by omega)
    have hitem : (Json.obj members).At (part :: path ++ [toString (i + 1)]) items[i] :=
      Json.at_append.2 ⟨_, hat, .element hi (.here _)⟩
    exact mem_numbersBelow_shape hdistinct hallow hitem
      (hitems _ (List.mem_of_getElem? hi)) hpacked

end WireRequest

/-! ## The lists of requests -/

/-- An accepted request is assembled, and each of its lists that is not packed or inside a
packed field uses the numbers from 1 up to its length, and no others. -/
theorem Operation.numbersBelow_eq_Icc {op : Operation} {m : Message op.request}
    (h : op.request.validate m = .ok ()) :
    ∃ w, WireRequest.assemble op.descriptor m.toJson = .ok w ∧
      ∀ way count, Shape.HasList m way count → (∀ wire ∈ op.packed, way.head? ≠ some wire) →
        w.parameters.numbersBelow (dottedName way) = Set.Icc 1 count := by
  obtain ⟨hdistinct, hallow⟩ := Shape.namesAllow_encode op.descriptor op.isWellNamed_request m
  refine ⟨WireRequest.place op.descriptor (WireRequest.shape op.descriptor
    (op.request.shape.encode m)), rfl, ?_⟩
  intro way count hlist houtside
  have hfindings : op.request.shape.findings m = [] :=
    MessageType.findings_eq_nil_of_validate op.isListed_request h
  obtain ⟨items, hat, rfl, hitems⟩ :=
    Shape.exists_at_of_hasList hlist op.isGapless_request hfindings
  obtain ⟨part, path, rfl⟩ := List.exists_cons_of_ne_nil hlist.way_ne_nil
  have hpacked : op.descriptor.isPacked part = false := by
    rw [← Bool.not_eq_true, Descriptor.isPacked, List.contains_iff_mem]
    intro hpacked
    exact houtside part hpacked rfl
  rw [WireRequest.place_parameters]
  exact WireRequest.numbersBelow_shape hdistinct hallow hat hpacked hitems

/-- A server group whose health check names two answers, with two tags that have no more than
a key. -/
theorem Operation.numbersBelow_eq_Icc_of_server_group :
    let tag : Message Catalog.tag := (some "team", none, ())
    let check : Message Catalog.healthCheckConfig :=
      (none, none, none, none, none, none, none, none, none, some ["http_2xx", "http_3xx"],
        none, ())
    let m : Message Operation.createServerGroup.request :=
      (some "web", none, none, some "vpc-1", none, none, none, none, none, none,
        some check, none, some [tag, tag], none, none, none, ())
    Operation.createServerGroup.request.validate m = .ok () ∧
      ∃ w, WireRequest.assemble Operation.createServerGroup.descriptor m.toJson = .ok w ∧
        w.parameters.numbersBelow "HealthCheckConfig.HealthCheckHttpCode" = Set.Icc 1 2 ∧
        w.parameters.numbersBelow "Tag" = Set.Icc 1 2 := by
  intro tag check m
  have haccepted : Operation.createServerGroup.request.validate m = .ok () :=
    by decide +kernel
  have hcodes : Shape.HasList check ["HealthCheckHttpCode"] 2 :=
    @Shape.HasList.field Catalog.healthCheckConfig.shape check .text
      (.there <| .there <| .there <| .there <| .there <| .there <| .there <| .there <|
        .there .here)
      ["http_2xx", "http_3xx"] rfl
  have hnested : Shape.HasList m ["HealthCheckConfig", "HealthCheckHttpCode"] 2 :=
    @Shape.HasList.nested _ Catalog.healthCheckConfig.shape m "HealthCheckConfig"
      (.there <| .there <| .there <| .there <| .there <| .there <| .there <|
        .there <| .there <| .there .here) check rfl _ _ hcodes
  have htags : Shape.HasList m ["Tag"] 2 :=
    @Shape.HasList.field _ m (.message "Tag" Catalog.tag.shape)
      (.there <| .there <| .there <| .there <| .there <| .there <| .there <|
        .there <| .there <| .there <| .there <| .there .here) [tag, tag] rfl
  obtain ⟨w, hw, hnumbers⟩ := numbersBelow_eq_Icc haccepted
  refine ⟨haccepted, w, hw, ?_, ?_⟩
  · have hname : dottedName ["HealthCheckConfig", "HealthCheckHttpCode"] =
        "HealthCheckConfig.HealthCheckHttpCode" := by decide +kernel
    rw [← hname]
    exact hnumbers _ _ hnested (by decide)
  · rw [← dottedName_singleton "Tag"]
    exact hnumbers _ _ htags (by decide)

end BalancerClient
