import BalancerClient.Proofs.Message.Catalog
import BalancerClient.Proofs.Request.Sources

/-!
# The sources of the fields of a message

The parameters of a typed message come from its fields, one field after the other.  The
sources of a field are read off its value: the text of a packed list or message, else the
scalars that are set inside.  They stand below the wire name of the field, and in a well-named
shape no other field has that name, so they can be told from all the rest.

## Main definitions

* `FieldType.sources`, `Shape.sources` - what the parameters of a field and of a message come
  from.

## Main statements

* `Shape.sources_encode` - they are the sources of the message's object.
* `Slot.filter_sources` - the sources that start with a field's wire name are those of the
  field.
-/

namespace BalancerClient

namespace FieldType

/-- Whether the values of a field are arrays or objects. -/
def isStructured : FieldType → Bool
  | .list _ | .message _ _ => true
  | _ => false

@[simp] theorem isStructured_encode (type : FieldType) (v : type.Value) :
    (type.encode v).isStructured = type.isStructured := by
  cases type <;> rfl

/-- What the parameters of a field come from, seen from its name. -/
def sources (packed : Bool) (type : FieldType) : Option type.Value → List Leaf
  | none => []
  | some v =>
    if packed && type.isStructured then [⟨[], (type.encode v).compact⟩] else type.scalars v

theorem memberSources_encode (d : Descriptor) (name : String) (type : FieldType)
    (v : type.Value) : WireRequest.memberSources d (name, type.encode v) =
      (type.sources (d.isPacked name) (some v)).map (.under name) := by
  rw [WireRequest.memberSources, sources, isStructured_encode, leaves_encode]
  split <;> rfl

/-- The scalars inside a list or a message stand below its name. -/
theorem path_ne_nil_of_mem_scalars {type : FieldType} (h : type.isStructured = true)
    {v : type.Value} {l : Leaf} (hl : l ∈ type.scalars v) : l.path ≠ [] := by
  rw [← leaves_encode] at hl
  cases type with
  | list item =>
    rw [encode, Json.leaves, Json.itemLeaves_eq_numbered] at hl
    obtain ⟨i, w, -, l', -, rfl⟩ := mem_numbered.1 hl
    simp
  | message name shape =>
    obtain ⟨part, w, -, l', -, rfl⟩ := Json.mem_memberLeaves.1 hl
    simp
  | text => simp [isStructured] at h
  | int32 => simp [isStructured] at h
  | int64 => simp [isStructured] at h
  | flag => simp [isStructured] at h

end FieldType

namespace Shape

/-- What the parameters of a message come from. -/
def sources (packed : String → Bool) : (shape : Shape) → shape.Values → List Leaf
  | .nil, _ => []
  | .cons field type rest, (v, m) =>
    (type.sources (packed field.wire) v).map (.under field.wire) ++ rest.sources packed m

/-- The sources of a message are those of its object. -/
theorem sources_encode (d : Descriptor) : ∀ (shape : Shape) (m : shape.Values),
    WireRequest.sources d (shape.encode m) = shape.sources d.isPacked m
  | .nil, _ => rfl
  | .cons field type rest, (v, m) => by
    cases v with
    | none => exact rest.sources_encode d m
    | some v =>
      rw [encode, WireRequest.sources_cons, type.memberSources_encode,
        rest.sources_encode d m, sources]

variable {packed : String → Bool}

/-- The sources of a message start with the wire names of its fields. -/
theorem head?_path_of_mem_sources {s : Leaf} : ∀ {shape : Shape} {m : shape.Values},
    s ∈ shape.sources packed m → ∃ wire ∈ shape.wires, s.path.head? = some wire
  | .nil, _, hs => absurd hs List.not_mem_nil
  | .cons field type rest, (v, m), hs => by
    rcases List.mem_append.1 hs with hs | hs
    · obtain ⟨l, -, rfl⟩ := List.mem_map.1 hs
      exact ⟨field.wire, List.mem_cons_self, rfl⟩
    · obtain ⟨wire, hwire, hpath⟩ := head?_path_of_mem_sources hs
      exact ⟨wire, List.mem_cons_of_mem _ hwire, hpath⟩

/-- No source starts with a name that is none of the wire names. -/
theorem head?_path_ne_of_notMem {shape : Shape} {wire : String} (h : wire ∉ shape.wires)
    {m : shape.Values} {s : Leaf} (hs : s ∈ shape.sources packed m) :
    s.path.head? ≠ some wire := by
  obtain ⟨other, hother, hpath⟩ := head?_path_of_mem_sources hs
  intro heq
  rw [hpath, Option.some.injEq] at heq
  exact h (heq ▸ hother)

/-- The names of a well-named message are fit for parameters. -/
theorem namesAllow_encode (d : Descriptor) {shape : Shape} (h : shape.isWellNamed = true)
    (m : shape.Values) :
    (Json.obj (shape.encode m)).HasDistinctNames ∧
      WireRequest.NamesAllow d (shape.encode m) := by
  have hdistinct := (FieldType.message "" shape).hasDistinctNames_encode m h
  have hdotless := (FieldType.message "" shape).hasDotlessNames_encode m h
  obtain ⟨hnames, hinner⟩ := Json.hasDotlessNames_obj.1 hdotless
  refine ⟨hdistinct, ?_⟩
  intro member hmember
  exact ⟨hnames member hmember, fun _ => hinner member hmember⟩

/-- The ways of the sources are not empty, and none of their parts holds a point. -/
theorem isDotless_of_mem_sources (d : Descriptor) {shape : Shape}
    (h : shape.isWellNamed = true) {m : shape.Values} {s : Leaf}
    (hs : s ∈ shape.sources d.isPacked m) :
    s.path ≠ [] ∧ ∀ part ∈ s.path, IsDotless part := by
  rw [← sources_encode] at hs
  exact WireRequest.isDotless_of_mem_sources (namesAllow_encode d h m).2 hs

end Shape

namespace Slot

variable {packed : String → Bool}

/-- What the parameters of a field come from. -/
def sources (packed : String → Bool) {shape : Shape} {type : FieldType}
    (slot : Slot shape type) (m : shape.Values) : List Leaf :=
  (type.sources (packed slot.field.wire) (slot.get m)).map (.under slot.field.wire)

/-- What is below a name is all that starts with it, or nothing. -/
theorem filter_map_under (l : List Leaf) (part wire : String) :
    (l.map (Leaf.under part)).filter (·.path.head? == some wire) =
      if part = wire then l.map (Leaf.under part) else [] := by
  split
  · next heq =>
    rw [List.filter_eq_self]
    intro s hs
    obtain ⟨l, -, rfl⟩ := List.mem_map.1 hs
    simpa using heq
  · next hne =>
    rw [List.filter_eq_nil_iff]
    intro s hs
    obtain ⟨l, -, rfl⟩ := List.mem_map.1 hs
    simpa using hne

/-- Those of a message's sources that start with a field's wire name are the sources of the
field. -/
theorem filter_sources {shape : Shape} {type : FieldType} (slot : Slot shape type) :
    ∀ m : shape.Values, shape.isWellNamed = true →
      (shape.sources packed m).filter (·.path.head? == some slot.field.wire) =
        slot.sources packed m := by
  induction slot with
  | @here field type rest =>
    intro values h
    obtain ⟨v, m⟩ := values
    obtain ⟨-, hwire, -, -⟩ := Shape.isWellNamed_cons.1 h
    have hrest : (rest.sources packed m).filter (·.path.head? == some field.wire) = [] := by
      rw [List.filter_eq_nil_iff]
      intro s hs
      simpa using Shape.head?_path_ne_of_notMem hwire hs
    rw [Shape.sources, List.filter_append]
    simp only [Slot.field, hrest, filter_map_under, if_true, List.append_nil]
    rfl
  | @there field other type rest slot ih =>
    intro values h
    obtain ⟨v, m⟩ := values
    obtain ⟨-, hwire, -, hrest⟩ := Shape.isWellNamed_cons.1 h
    have hne : field.wire ≠ slot.field.wire := by
      intro heq
      exact hwire (heq ▸ slot.wire_mem_wires)
    rw [Shape.sources, List.filter_append]
    simp only [Slot.field, filter_map_under, if_neg hne, List.nil_append, ih m hrest]
    rfl

/-- Every source of a message is the source of a field that is set. -/
theorem exists_of_mem_sources {s : Leaf} : ∀ {shape : Shape} {m : shape.Values},
    s ∈ shape.sources packed m →
      ∃ (type : FieldType) (slot : Slot shape type), (slot.get m).isSome ∧
        s ∈ slot.sources packed m
  | .nil, _, hs => absurd hs List.not_mem_nil
  | .cons field type rest, (v, m), hs => by
    rcases List.mem_append.1 hs with hs | hs
    · refine ⟨type, .here, ?_, hs⟩
      cases v with
      | none => exact absurd hs List.not_mem_nil
      | some v => rfl
    · obtain ⟨type, slot, hset, hs⟩ := exists_of_mem_sources hs
      exact ⟨type, .there slot, hset, hs⟩

end Slot

end BalancerClient
