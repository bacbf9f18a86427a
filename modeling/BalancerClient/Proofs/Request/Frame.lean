import BalancerClient.Proofs.Message.Labels
import BalancerClient.Proofs.Message.RoundTrip
import BalancerClient.Proofs.Request.Fields

/-!
# What a setting changes

The parameters of a request come from its fields, and a setting writes one field.  So settings
change no parameters but those at the wire names of the fields that they write, and below
these names.  What a message looks like after a run of settings depends on what was written
last to each of its fields, and on nothing else.

## Main definitions

* `Setting.wire` - the wire name of the field that a setting writes.
* `WireRequest.AgreeBut` - parameters are the same except at the names of settings and below
  them.
* `Setting.KeepsFrame` - what a run of settings does to a message, and what it leaves alone.

## Main statements

* `Setting.get?_shape_applyAll` - settings change only parameters of the fields that they
  write.
* `Catalog.settings_keepFrame` - settings keep the frame in all messages of the service.
-/

namespace BalancerClient

/-! ## Sources -/

namespace Slot

variable {packed : String → Bool} {shape : Shape} {type : FieldType}

/-- The sources of a field are among those of its message. -/
theorem mem_sources (h : shape.isWellNamed = true) (slot : Slot shape type)
    {m : shape.Values} {s : Leaf} (hs : s ∈ slot.sources packed m) :
    s ∈ shape.sources packed m := by
  rw [← slot.filter_sources m h] at hs
  exact List.mem_of_mem_filter hs

end Slot

namespace Setting

variable {shape : Shape}

/-- The wire name of the field that a setting writes. -/
def wire (s : Setting shape) : String := s.setter.slot.field.wire

/-- A setting keeps the sources that do not start with the wire name of its field. -/
theorem mem_sources_apply {packed : String → Bool} (h : shape.isWellNamed = true)
    (s : Setting shape) (m : shape.Values) {l : Leaf} (hl : l.path.head? ≠ some s.wire) :
    l ∈ shape.sources packed (s.apply m) ↔ l ∈ shape.sources packed m := by
  -- a field that has the source is another one, so it holds the same before and after
  have hkeep : ∀ {type : FieldType} (slot : Slot shape type) {m' : shape.Values},
      l ∈ slot.sources packed m' → slot.get (s.apply m) = slot.get m := by
    intro type slot m' hmem
    obtain ⟨l', -, rfl⟩ := List.mem_map.1 hmem
    refine Slot.get_set_of_index_ne slot s.setter.slot s.value m ?_
    intro hindex
    rw [slot.field_eq_of_index_eq s.setter.slot hindex] at hl
    exact hl rfl
  constructor
  · intro hmem
    obtain ⟨type, slot, -, hslot⟩ := Slot.exists_of_mem_sources hmem
    have hsame := hkeep slot hslot
    refine slot.mem_sources h ?_
    rwa [Slot.sources, hsame] at hslot
  · intro hmem
    obtain ⟨type, slot, -, hslot⟩ := Slot.exists_of_mem_sources hmem
    have hsame := hkeep slot hslot
    refine slot.mem_sources h ?_
    rwa [Slot.sources, hsame]

/-- A setting changes no parameter but those at the wire name of its field and below it. -/
theorem get?_shape_apply (d : Descriptor) (h : shape.isWellNamed = true) (s : Setting shape)
    (m : shape.Values) {name : String} (hname : name ≠ s.wire)
    (hbelow : ¬ IsBelow s.wire name) :
    (WireRequest.shape d (shape.encode (s.apply m))).get? name =
      (WireRequest.shape d (shape.encode m)).get? name := by
  have hwire : IsDotless s.wire := s.setter.slot.isDotless_wire h
  have hsources : ∀ l : Leaf, l.name = name → (∀ part ∈ l.path, IsDotless part) →
      (l ∈ shape.sources d.isPacked (s.apply m) ↔ l ∈ shape.sources d.isPacked m) := by
    intro l hl hdots
    apply mem_sources_apply h
    intro hhead
    rcases Leaf.name_eq_or_isBelow hwire hdots hhead with heq | hunder
    · exact hname (hl ▸ heq)
    · exact hbelow (hl ▸ hunder)
  apply Option.ext
  intro text
  obtain ⟨hdistinct, hallow⟩ := Shape.namesAllow_encode d h m
  obtain ⟨hdistinct', hallow'⟩ := Shape.namesAllow_encode d h (s.apply m)
  rw [WireRequest.get?_shape_iff hdistinct hallow,
    WireRequest.get?_shape_iff hdistinct' hallow',
    Shape.sources_encode, Shape.sources_encode]
  constructor
  · intro hsource
    obtain ⟨l, hmem, hl, htext⟩ := hsource
    exact ⟨l, (hsources l hl (Shape.isDotless_of_mem_sources d h hmem).2).1 hmem, hl, htext⟩
  · intro hsource
    obtain ⟨l, hmem, hl, htext⟩ := hsource
    exact ⟨l, (hsources l hl (Shape.isDotless_of_mem_sources d h hmem).2).2 hmem, hl, htext⟩

/-- Neither does a run of settings, apart from those at the wire names of its fields and below
them. -/
theorem get?_shape_applyAll (d : Descriptor) (h : shape.isWellNamed = true) {name : String}
    {settings : List (Setting shape)} (hnames : ∀ s ∈ settings, name ≠ s.wire ∧
      ¬ IsBelow s.wire name)
    (m : shape.Values) :
    (WireRequest.shape d (shape.encode (applyAll settings m))).get? name =
      (WireRequest.shape d (shape.encode m)).get? name := by
  induction settings generalizing m with
  | nil => rfl
  | cons s rest ih =>
    obtain ⟨hname, hbelow⟩ := hnames s List.mem_cons_self
    calc (WireRequest.shape d (shape.encode (applyAll rest (s.apply m)))).get? name
        = (WireRequest.shape d (shape.encode (s.apply m))).get? name :=
          ih (fun r hr => hnames r (List.mem_cons_of_mem s hr)) _
      _ = (WireRequest.shape d (shape.encode m)).get? name :=
          get?_shape_apply d h s m hname hbelow

end Setting

/-! ## Messages of the service -/

/-- Requests in wire form have the same parameters, in the query and in the body, except at
the wire names of settings and below them. -/
def WireRequest.AgreeBut {shape : Shape} (settings : List (Setting shape))
    (w w' : WireRequest) : Prop :=
  ∀ name, (∀ s ∈ settings, name ≠ s.wire ∧ ¬ IsBelow s.wire name) →
    w.query.get? name = w'.query.get? name ∧ w.body.get? name = w'.body.get? name

namespace WireRequest

/-- Parameters that agree at a name agree there wherever they are put. -/
theorem get?_place {d : Descriptor} {p p' : Parameters} {name : String}
    (h : p.get? name = p'.get? name) :
    (place d p).query.get? name = (place d p').query.get? name ∧
      (place d p).body.get? name = (place d p').body.get? name := by
  cases hloc : d.location with
  | query => simp [place, hloc, h]
  | body => simp [place, hloc, h]

end WireRequest

/-- What a run of settings does to a message, and what it leaves alone. -/
structure Setting.KeepsFrame {type : MessageType} (settings : List (Setting type.shape))
    (m : Message type) : Prop where
  /-- Every field has the setters called by its label. -/
  called : ∀ (t : FieldType) (slot : Slot type.shape t),
    type.shape.setter? ("set_" ++ slot.field.label) = some ⟨t, slot, false⟩ ∧
      type.shape.setter? ("set_or_clear_" ++ slot.field.label) =
        if t.isMessage then some ⟨t, slot, true⟩ else none
  /-- The label of a field says what its name on the wire is. -/
  named : ∀ (t : FieldType) (slot : Slot type.shape t),
    slot.field.wire = Catalog.wireOf type.name slot.field.label
  /-- A field holds what was written to it last, or what it held before. -/
  last : ∀ (t : FieldType) (slot : Slot type.shape t), slot.get (applyAll settings m) =
    (settings.filterMap (·.at? slot)).getLast?.getD (slot.get m)
  /-- Settings of different fields can be exchanged. -/
  exchange : ∀ a b : Setting type.shape, a.setter.slot.index ≠ b.setter.slot.index →
    a.apply (b.apply m) = b.apply (a.apply m)
  /-- Runs that write the same last to every field come to the same. -/
  same : ∀ settings' : List (Setting type.shape),
    (∀ (t : FieldType) (slot : Slot type.shape t),
      (settings'.filterMap (·.at? slot)).getLast? =
        (settings.filterMap (·.at? slot)).getLast?) →
    applyAll settings' m = applyAll settings m
  /-- The text of the result is that of an object with the fields that are set, in their
  order. -/
  text : ∃ members, Message.toJson (applyAll settings m) = .obj members ∧
    Json.parseText (Json.obj members).compact = .ok (.obj members) ∧
      type.shape.ListsSetFields (applyAll settings m) members
  /-- If the message is the request of an operation, only parameters of written fields
  change. -/
  parameters : ∀ op : Operation, op.request = type → ∃ w w',
    WireRequest.assemble op.descriptor (Message.toJson m) = .ok w ∧
      WireRequest.assemble op.descriptor (Message.toJson (applyAll settings m)) = .ok w' ∧
        WireRequest.AgreeBut settings w w'

/-- Settings write the fields that they are called by, and leave everything else alone, in all
messages of the service. -/
theorem Catalog.settings_keepFrame {type : MessageType} (htype : type ∈ types)
    (m : Message type) (settings : List (Setting type.shape)) :
    Setting.KeepsFrame settings m where
  called _ slot := slot.setter?_label (isWellLabelled htype)
  named _ slot := wire_eq_wireOf htype slot.field_mem_fields
  last _ slot := Setting.get_applyAll settings m slot
  exchange _ _ hindex := Setting.apply_comm hindex m
  same _ hlast := Setting.applyAll_congr hlast m
  text := by
    have hreadable := isReadable htype
    exact ⟨_, rfl, Message.parseText_compact_toJson hreadable _,
      Shape.listsSetFields_encode hreadable.1 _⟩
  parameters := by
    intro op hop
    subst hop
    refine ⟨_, _, rfl, rfl, ?_⟩
    intro name hnames
    exact WireRequest.get?_place
      (Setting.get?_shape_applyAll op.descriptor op.isWellNamed_request hnames m).symm

/-- A load balancer is given a name, a protection and another name, and the protection is
cleared. -/
theorem Catalog.settings_keepFrame_of_cleared_protection :
    let name (text : String) : Setting createLoadBalancerRequest.shape :=
      { setter := ⟨.text, .there .here, false⟩, value := some text, clears_of_none := nofun }
    let protection (v : Option deletionProtectionConfig.shape.Values) :
        Setting createLoadBalancerRequest.shape :=
      { setter := ⟨.message "DeletionProtectionConfig" deletionProtectionConfig.shape,
          .there
            (.there (.there (.there (.there (.there (.there (.there (.there .here)))))))),
            true⟩
        value := v
        clears_of_none := fun _ => rfl }
    let settings := [name "a", protection (some (some true, none, none, ())), name "b",
        protection none]
    createLoadBalancerRequest ∈ types ∧
      (@Message.toJson createLoadBalancerRequest
        (Setting.applyAll settings createLoadBalancerRequest.unset)).compact =
          "\x7b\"LoadBalancerName\":\"b\"\x7d" ∧
      (protection none).setter.slot.get
        (Setting.applyAll settings createLoadBalancerRequest.unset) =
        none := by
  intro name protection settings
  have hmem : createLoadBalancerRequest ∈ types := List.mem_of_getElem? (i := 9) rfl
  refine ⟨hmem, by decide +kernel, ?_⟩
  exact (settings_keepFrame hmem createLoadBalancerRequest.unset settings).last _
    (protection none).setter.slot

end BalancerClient
