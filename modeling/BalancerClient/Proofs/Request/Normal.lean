import BalancerClient.Proofs.Request.Fields
import Mathlib.Data.List.DropRight

/-!
# What the wire form forgets

The parameters of a request tell it from all others, up to lists and messages in which no
scalar is set: those leave no trace, unless they are packed.  A request in normal form has
none of them but the ones that are elements of a list with a scalar further behind, which keep
their places.  Two requests have the same parameters if and only if they have the same normal
form.

## Main definitions

* `FieldType.norm`, `Shape.norm` - the normal form of the value of a field and of a message.
* `SameLeaves` - lists of leaves with the same members.

## Main statements

* `Shape.sources_norm` - the normal form has the parameters of the message.
* `Shape.norm_eq_of_sameLeaves` - messages with the same leaves have the same normal form.
* `Operation.assemble_eq_iff_norm_eq` - the wire form determines the request up to its normal
  form.
-/

namespace BalancerClient

/-! ## Normal forms -/

/-- The normal form of a field that may be unset, by the normal forms of its values: a packed
field stays as it is, any other one without a scalar inside is unset. -/
def FieldType.normField (type : FieldType) (packed : Bool) (norm : type.Value → type.Value) :
    Option type.Value → Option type.Value
  | none => none
  | some v =>
    if packed then some v else if (type.scalars v).isEmpty then none else some (norm v)

mutual

/-- The normal form of the value of a field: a list ends with the last element that has a
scalar. -/
def FieldType.norm : (type : FieldType) → type.Value → type.Value
  | .text, s => s
  | .int32, n => n
  | .int64, n => n
  | .flag, b => b
  | .list item, vs => (vs.rdropWhile fun v => (item.scalars v).isEmpty).map item.norm
  | .message _ shape, m => shape.norm (fun _ => false) m
termination_by structural type => type

/-- The normal form of a message some of whose fields are packed. -/
def Shape.norm : (shape : Shape) → (packed : String → Bool) → shape.Values → shape.Values
  | .nil, _, m => m
  | .cons field type rest, packed, (v, m) =>
    (type.normField (packed field.wire) type.norm v, rest.norm packed m)
termination_by structural shape => shape

end

theorem FieldType.norm_of_not_isStructured {type : FieldType} (h : type.isStructured = false)
    (v : type.Value) : type.norm v = v := by
  cases type with
  | list item => simp [isStructured] at h
  | message name shape => simp [isStructured] at h
  | text => rfl
  | int32 => rfl
  | int64 => rfl
  | flag => rfl

theorem FieldType.scalars_ne_nil {type : FieldType} (h : type.isStructured = false)
    (v : type.Value) : type.scalars v ≠ [] := by
  cases type with
  | list item => simp [isStructured] at h
  | message name shape => simp [isStructured] at h
  | text => simp [scalars]
  | int32 => simp [scalars]
  | int64 => simp [scalars]
  | flag => simp [scalars]

theorem Shape.sources_of_not_packed : ∀ (shape : Shape) (m : shape.Values),
    shape.sources (fun _ => false) m = shape.scalars m
  | .nil, _ => rfl
  | .cons field type rest, (v, m) => by
    cases v with
    | none => exact rest.sources_of_not_packed m
    | some v =>
      rw [sources, rest.sources_of_not_packed m, scalars]
      rfl

/-! ## The end of a list -/

section Lists

variable {α β : Type}

theorem rdropWhile_cons (p : α → Bool) (v : α) (vs : List α) :
    (v :: vs).rdropWhile p =
      if vs.rdropWhile p = [] ∧ p v = true then [] else v :: vs.rdropWhile p := by
  simp only [List.rdropWhile, List.reverse_cons, List.dropWhile_append,
    List.reverse_eq_nil_iff]
  by_cases hvs : vs.reverse.dropWhile p = []
  · by_cases hv : p v = true
    · simp [hvs, hv]
    · simp [hvs, hv]
  · simp [hvs]

theorem numbered_eq_nil {leaves : α → List Leaf} {vs : List α} (h : ∀ v ∈ vs, leaves v = [])
    (number : Nat) : numbered leaves number vs = [] := by
  induction vs generalizing number with
  | nil => rfl
  | cons v rest ih =>
    rw [numbered, h v List.mem_cons_self, ih fun w hw => h w (List.mem_cons_of_mem _ hw)]
    rfl

theorem rdropWhile_eq_nil {leaves : α → List Leaf} {vs : List α} {number : Nat}
    (h : numbered leaves number vs = []) :
    (vs.rdropWhile fun v => (leaves v).isEmpty) = [] := by
  rw [List.rdropWhile_eq_nil_iff]
  induction vs generalizing number with
  | nil => simp
  | cons v rest ih =>
    rw [numbered, List.append_eq_nil_iff, List.map_eq_nil_iff] at h
    exact List.forall_mem_cons.2 ⟨List.isEmpty_iff.2 h.1, ih h.2⟩

/-- Elements without leaves at the end of a list leave no trace. -/
theorem numbered_rdropWhile (leaves : α → List Leaf) (vs : List α) (number : Nat) :
    numbered leaves number (vs.rdropWhile fun v => (leaves v).isEmpty) =
      numbered leaves number vs := by
  induction vs generalizing number with
  | nil => rfl
  | cons v rest ih =>
    rw [rdropWhile_cons]
    split
    · next hdrop =>
      symm
      apply numbered_eq_nil
      rw [List.forall_mem_cons]
      refine ⟨List.isEmpty_iff.1 hdrop.2, ?_⟩
      intro w hw
      exact List.isEmpty_iff.1 (List.rdropWhile_eq_nil_iff.1 hdrop.1 w hw)
    · rw [numbered, numbered, ih]

theorem numbered_map (f : α → β) (leaves : β → List Leaf) (vs : List α) (number : Nat) :
    numbered leaves number (vs.map f) = numbered (fun v => leaves (f v)) number vs := by
  induction vs generalizing number with
  | nil => rfl
  | cons v rest ih => rw [List.map_cons, numbered, numbered, ih]

end Lists

/-! ## Normal forms have the same parameters -/

theorem FieldType.sources_normField {type : FieldType} {norm : type.Value → type.Value}
    (h : ∀ v, type.scalars (norm v) = type.scalars v) (packed : Bool)
    (v : Option type.Value) :
    type.sources packed (type.normField packed norm v) = type.sources packed v := by
  cases v with
  | none => rfl
  | some v =>
    rw [normField]
    cases packed with
    | true => rfl
    | false =>
      rw [if_neg Bool.false_ne_true]
      split
      · next hempty => exact (List.isEmpty_iff.1 hempty).symm
      · exact h v

mutual

/-- The scalars of a value are those of its normal form. -/
theorem FieldType.scalars_norm : ∀ (type : FieldType) (v : type.Value),
    type.scalars (type.norm v) = type.scalars v
  | .text, _ => rfl
  | .int32, _ => rfl
  | .int64, _ => rfl
  | .flag, _ => rfl
  | .list item, vs => by
    have hitem : (fun v => item.scalars (item.norm v)) = item.scalars := by
      ext v : 1
      exact item.scalars_norm v
    rw [FieldType.norm, FieldType.scalars, numbered_map, hitem, numbered_rdropWhile]
    rfl
  | .message _ shape, m => by
    have hshape := shape.sources_norm (fun _ => false) m
    rw [shape.sources_of_not_packed, shape.sources_of_not_packed] at hshape
    exact hshape
termination_by structural type => type

/-- What the parameters of a message come from is what those of its normal form come from. -/
theorem Shape.sources_norm : ∀ (shape : Shape) (packed : String → Bool) (m : shape.Values),
    shape.sources packed (shape.norm packed m) = shape.sources packed m
  | .nil, _, _ => rfl
  | .cons field type rest, packed, (v, m) => by
    have hfield := type.sources_normField type.scalars_norm (packed field.wire) v
    rw [Shape.norm, Shape.sources, Shape.sources, hfield, rest.sources_norm packed m]
termination_by structural shape => shape

end

/-! ## The same parameters have the same normal form -/

/-- Lists of leaves have the same members. -/
def SameLeaves (a b : List Leaf) : Prop := ∀ l, l ∈ a ↔ l ∈ b

namespace SameLeaves

variable {a b : List Leaf}

theorem symm (h : SameLeaves a b) : SameLeaves b a := by
  intro l
  exact (h l).symm

theorem eq_nil (h : SameLeaves [] b) : b = [] := by
  rw [List.eq_nil_iff_forall_not_mem]
  intro l hl
  exact absurd ((h l).2 hl) List.not_mem_nil

theorem isEmpty_eq (h : SameLeaves a b) : a.isEmpty = b.isEmpty := by
  rw [Bool.eq_iff_iff, List.isEmpty_iff, List.isEmpty_iff]
  constructor
  · intro ha
    subst ha
    exact h.eq_nil
  · intro hb
    subst hb
    exact h.symm.eq_nil

theorem text_eq {s t : String} (h : SameLeaves [⟨[], s⟩] [⟨[], t⟩]) : s = t := by
  have hmem := (h ⟨[], s⟩).1 (List.mem_singleton_self _)
  simpa using hmem

/-- What is below a part can be told from what is not. -/
theorem of_append_under {part : String} {more more' : List Leaf}
    (h : SameLeaves (a.map (Leaf.under part) ++ more) (b.map (Leaf.under part) ++ more'))
    (hmore : ∀ l ∈ more, l.path.head? ≠ some part)
    (hmore' : ∀ l ∈ more', l.path.head? ≠ some part) :
    SameLeaves a b ∧ SameLeaves more more' := by
  have hunder : ∀ {a more : List Leaf}, (∀ l ∈ more, l.path.head? ≠ some part) →
      ∀ l, l ∈ a ↔ l.under part ∈ a.map (Leaf.under part) ++ more := by
    intro a more hmore l
    rw [List.mem_append, List.mem_map_of_injective (Leaf.under_injective part)]
    constructor
    · intro hl
      exact .inl hl
    · intro hl
      rcases hl with hl | hl
      · exact hl
      · exact absurd rfl (hmore _ hl)
  have hother : ∀ {a more : List Leaf} {l : Leaf}, l.path.head? ≠ some part →
      (l ∈ more ↔ l ∈ a.map (Leaf.under part) ++ more) := by
    intro a more l hl
    rw [List.mem_append]
    constructor
    · intro hmem
      exact .inr hmem
    · intro hmem
      rcases hmem with hmem | hmem
      · obtain ⟨l', -, rfl⟩ := List.mem_map.1 hmem
        exact absurd rfl hl
      · exact hmem
  constructor
  · intro l
    rw [hunder hmore l, h, ← hunder hmore' l]
  · intro l
    by_cases hl : l.path.head? = some part
    · constructor
      · intro hmem
        exact absurd hl (hmore l hmem)
      · intro hmem
        exact absurd hl (hmore' l hmem)
    · rw [hother (a := a) hl, h, ← hother hl]

end SameLeaves

/-- Lists whose elements have the same leaves at the same numbers are equal up to their
ends. -/
theorem map_rdropWhile_eq {α β : Type} {leaves : α → List Leaf} {f : α → β}
    (hf : ∀ v w, SameLeaves (leaves v) (leaves w) → f v = f w) :
    ∀ {vs ws : List α} {number : Nat},
      SameLeaves (numbered leaves number vs) (numbered leaves number ws) →
      (vs.rdropWhile fun v => (leaves v).isEmpty).map f =
        (ws.rdropWhile fun v => (leaves v).isEmpty).map f
  | [], ws, number, h => by
    have hws : (ws.rdropWhile fun v => (leaves v).isEmpty) = [] := rdropWhile_eq_nil h.eq_nil
    rw [hws]
    rfl
  | v :: vs, [], number, h => by
    have hvs : ((v :: vs).rdropWhile fun v => (leaves v).isEmpty) = [] :=
      rdropWhile_eq_nil h.symm.eq_nil
    rw [hvs]
    rfl
  | v :: vs, w :: ws, number, h => by
    obtain ⟨hhead, htail⟩ := SameLeaves.of_append_under h
      (fun l hl => head?_path_of_mem_numbered hl) (fun l hl => head?_path_of_mem_numbered hl)
    have ih := map_rdropWhile_eq hf htail
    have hnil : (vs.rdropWhile fun v => (leaves v).isEmpty) = [] ↔
        (ws.rdropWhile fun v => (leaves v).isEmpty) = [] := by
      rw [← List.map_eq_nil_iff (f := f), ih, List.map_eq_nil_iff]
    rw [rdropWhile_cons, rdropWhile_cons]
    simp only [hhead.isEmpty_eq, hnil]
    split
    · rfl
    · rw [List.map_cons, List.map_cons, hf v w hhead, ih]

namespace FieldType

/-- What is asked of a field for its text to determine it. -/
def IsReadable (type : FieldType) : Prop :=
  type.isWellNamed = true ∧ type.depth ≤ Json.maxNesting

theorem sources_some_ne_nil (type : FieldType) (v : type.Value) :
    type.sources true (some v) ≠ [] := by
  rw [sources]
  split
  · simp
  · next h => exact scalars_ne_nil (by simpa using h) v

/-- A field with no sources is unset in the normal form. -/
theorem normField_eq_none {type : FieldType} {packed : Bool} {norm : type.Value → type.Value}
    {v : Option type.Value} (h : type.sources packed v = []) :
    type.normField packed norm v = none := by
  cases v with
  | none => rfl
  | some v =>
    cases packed with
    | true => exact absurd h (type.sources_some_ne_nil v)
    | false =>
      have hempty : type.scalars v = [] := h
      simp [normField, hempty]

/-- Fields with the same sources have the same normal form. -/
theorem normField_eq {type : FieldType} (htype : type.IsReadable)
    (hnorm : ∀ v w, SameLeaves (type.scalars v) (type.scalars w) → type.norm v = type.norm w)
    {packed : Bool} {v w : Option type.Value}
    (h : SameLeaves (type.sources packed v) (type.sources packed w)) :
    type.normField packed type.norm v = type.normField packed type.norm w := by
  cases v with
  | none => rw [normField_eq_none h.eq_nil, normField]
  | some v =>
    cases w with
    | none => rw [normField_eq_none h.symm.eq_nil, normField]
    | some w =>
      cases packed with
      | true =>
        refine congrArg some ?_
        cases htype' : type.isStructured with
        | true =>
          simp only [sources, htype', Bool.and_self, if_true] at h
          exact type.compact_encode_injective htype.1 htype.2 h.text_eq
        | false =>
          simp only [sources, htype', Bool.and_false, if_neg Bool.false_ne_true] at h
          have hvw := hnorm v w h
          rwa [norm_of_not_isStructured htype', norm_of_not_isStructured htype'] at hvw
      | false =>
        have hscalars : SameLeaves (type.scalars v) (type.scalars w) := h
        simp only [normField, if_neg Bool.false_ne_true, hscalars.isEmpty_eq,
          hnorm v w hscalars]

end FieldType

mutual

/-- Values with the same scalars have the same normal form. -/
theorem FieldType.norm_eq_of_sameLeaves : ∀ (type : FieldType) (v w : type.Value),
    type.IsReadable → SameLeaves (type.scalars v) (type.scalars w) → type.norm v = type.norm w
  | .text, v, w, _, h => h.text_eq
  | .int32, v, w, _, h => Int32.toInt_inj.1 (toString_int_injective h.text_eq)
  | .int64, v, w, _, h => Int64.toInt_inj.1 (toString_int_injective h.text_eq)
  | .flag, v, w, _, h => by
    have htext : toString v = toString w := h.text_eq
    revert htext
    cases v <;> cases w <;> decide
  | .list item, vs, ws, ⟨hnamed, hdepth⟩, h => by
    have hitem : item.IsReadable := ⟨hnamed, Nat.le_of_succ_le hdepth⟩
    exact map_rdropWhile_eq (fun v w => item.norm_eq_of_sameLeaves v w hitem) h
  | .message _ shape, m, m', ⟨hnamed, hdepth⟩, h => by
    refine shape.norm_eq_of_sameLeaves (fun _ => false) m m' hnamed
      (Nat.le_of_succ_le hdepth) ?_
    rw [shape.sources_of_not_packed, shape.sources_of_not_packed]
    exact h
termination_by structural type => type

/-- Messages with the same sources have the same normal form. -/
theorem Shape.norm_eq_of_sameLeaves :
    ∀ (shape : Shape) (packed : String → Bool) (m m' : shape.Values),
    shape.isWellNamed = true → shape.depth ≤ Json.maxNesting →
    SameLeaves (shape.sources packed m) (shape.sources packed m') →
    shape.norm packed m = shape.norm packed m'
  | .nil, _, _, _, _, _, _ => rfl
  | .cons field type rest, packed, (v, m), (v', m'), hnamed, hdepth, h => by
    obtain ⟨-, hwire, htype, hrest⟩ := Shape.isWellNamed_cons.1 hnamed
    rw [Shape.depth, Nat.max_le] at hdepth
    have hreadable : type.IsReadable := ⟨htype, hdepth.1⟩
    obtain ⟨hfield, hmore⟩ := SameLeaves.of_append_under h
      (fun l hl => Shape.head?_path_ne_of_notMem hwire hl)
      (fun l hl => Shape.head?_path_ne_of_notMem hwire hl)
    have hv :=
      type.normField_eq hreadable (fun v w => type.norm_eq_of_sameLeaves v w hreadable) hfield
    have hm := rest.norm_eq_of_sameLeaves packed m m' hrest hdepth.2 hmore
    rw [Shape.norm, Shape.norm, hv, hm]
termination_by structural shape => shape

end

/-! ## Equal wire forms -/

namespace WireRequest

/-- Requests whose names allow it have the same parameters if and only if they have the same
sources. -/
theorem shape_eq_iff {d : Descriptor} {members members' : List (String × Json)}
    (h : (Json.obj members).HasDistinctNames ∧ NamesAllow d members)
    (h' : (Json.obj members').HasDistinctNames ∧ NamesAllow d members') :
    shape d members = shape d members' ↔
      SameLeaves (sources d members) (sources d members') := by
  have hnames := nodup_name_sources h.1 h.2
  have hnames' := nodup_name_sources h'.1 h'.2
  rw [shape_eq_ofList_sources h.1 h.2, shape_eq_ofList_sources h'.1 h'.2,
    Parameters.ofList_eq_iff (by rwa [map_fst_map_entry]) (by rwa [map_fst_map_entry])]
  constructor
  · -- a source is found again by its parameter, because its name can be cut into its way
    have hfind : ∀ {ms ms' : List (String × Json)}, NamesAllow d ms → NamesAllow d ms' →
        ((sources d ms).map Leaf.entry).Perm ((sources d ms').map Leaf.entry) →
        ∀ l ∈ sources d ms, l ∈ sources d ms' := by
      intro ms ms' hms hms' hperm l hl
      obtain ⟨l', hl', hentry⟩ := List.mem_map.1 (hperm.mem_iff.1 (List.mem_map_of_mem hl))
      obtain ⟨hname, htext⟩ := Prod.mk.inj hentry
      obtain ⟨hne, hdots⟩ := isDotless_of_mem_sources hms hl
      obtain ⟨hne', hdots'⟩ := isDotless_of_mem_sources hms' hl'
      have hpath := dottedName_injective hne' hne hdots' hdots hname
      obtain ⟨path, text⟩ := l
      obtain ⟨path', text'⟩ := l'
      obtain rfl : path' = path := hpath
      obtain rfl : text' = text := htext
      exact hl'
    intro hperm l
    exact ⟨hfind h.2 h'.2 hperm l, hfind h'.2 h.2 hperm.symm l⟩
  · intro hsame
    refine List.Perm.map _ ?_
    rw [List.perm_ext_iff_of_nodup hnames.of_map hnames'.of_map]
    exact hsame

theorem place_eq_iff (d : Descriptor) (p p' : Parameters) :
    (place d p).query = (place d p').query ∧ (place d p).body = (place d p').body ↔
      p = p' := by
  cases hloc : d.location <;> simp [place, hloc]

end WireRequest

/-- Messages of a well-named shape have the same parameters if and only if they have the same
normal form. -/
theorem Shape.shape_encode_eq_iff (d : Descriptor) {shape : Shape}
    (hnamed : shape.isWellNamed = true) (hdepth : shape.depth ≤ Json.maxNesting)
    (m m' : shape.Values) :
    WireRequest.shape d (shape.encode m) = WireRequest.shape d (shape.encode m') ↔
      shape.norm d.isPacked m = shape.norm d.isPacked m' := by
  rw [WireRequest.shape_eq_iff (namesAllow_encode d hnamed m) (namesAllow_encode d hnamed m'),
    sources_encode, sources_encode]
  constructor
  · exact shape.norm_eq_of_sameLeaves d.isPacked m m' hnamed hdepth
  · intro h l
    rw [← shape.sources_norm d.isPacked m, h, shape.sources_norm]

namespace Operation

/-- The normal form of a request: packed fields stay as they are. -/
def norm (op : Operation) (m : Message op.request) : Message op.request :=
  op.request.shape.norm op.packed.contains m

/-- Requests of an operation are always assembled, and have the same query and the same body
if and only if they have the same normal form. -/
theorem assemble_eq_iff_norm_eq (op : Operation) (m m' : Message op.request) :
    ∃ w w', WireRequest.assemble op.descriptor m.toJson = .ok w ∧
      WireRequest.assemble op.descriptor m'.toJson = .ok w' ∧
      (w.query = w'.query ∧ w.body = w'.body ↔ op.norm m = op.norm m') := by
  refine ⟨_, _, rfl, rfl, ?_⟩
  rw [WireRequest.place_eq_iff]
  exact Shape.shape_encode_eq_iff op.descriptor op.isWellNamed_request
    op.depth_request_le m m'

end Operation

end BalancerClient
