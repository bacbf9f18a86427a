import BalancerClient.Proofs.Message.RoundTrip
import BalancerClient.Proofs.Request.Presence

/-!
# Packing can be undone

A packed field goes into one parameter as the compact text of its JSON value.  Reading the
text gives the value back, and decoding that gives back the list that the request holds.

## Main definitions

* `Operation.packedLists` - the lists that are packed.

## Main statements

* `Json.parseText_pack` - the text of a packed value is read as the value.
* `FieldType.decode_parseText_compact` - the text of a value is read, and decoded as the
  value.
* `Operation.packing_undone` - packed lists are those of the request.
-/

namespace BalancerClient

namespace Json

/-- Only null is packed into no parameter. -/
theorem pack_eq_none_iff {name : String} {v : Json} : v.pack name = none ↔ v = null := by
  cases v <;> simp [pack, isNull]

theorem pack_of_ne_null {v : Json} (h : v ≠ null) (name : String) :
    v.pack name = some (name, v.compact) := by
  simp [pack, isNull_eq_false_iff.2 h]

/-- The text of a packed value is read as the value. -/
theorem parseText_pack {v : Json} (hnull : v ≠ null) (hnames : v.HasDistinctNames)
    (hint : v.IsIntegral) (hdepth : v.nesting ≤ maxNesting) (name : String) :
    ∃ text, v.pack name = some (name, text) ∧ parseText text = .ok v :=
  ⟨v.compact, pack_of_ne_null hnull name, parse_compact hnames hint hdepth⟩

end Json

/-- The text of a value of a field is read, and decoded as the value. -/
theorem FieldType.decode_parseText_compact {type : FieldType}
    (hnamed : type.isWellNamed = true) (hdepth : type.depth ≤ Json.maxNesting)
    (v : type.Value) :
    ∃ json, Json.parseText (type.encode v).compact = .ok json ∧ type.decode json = .ok v :=
  ⟨type.encode v, type.parseText_compact_encode hnamed hdepth v, type.decode_encode v hnamed⟩

namespace Operation

/-- The lists that are sent as one parameter each, by their operations and wire names. -/
def packedLists : List (Operation × String) := [
  (.startShiftLoadBalancerZones, "ZoneMappings"),
  (.cancelShiftLoadBalancerZones, "ZoneMappings"),
  (.listTagResources, "Tag")]

theorem mem_packedLists_iff {op : Operation} {wire : String} :
    (op, wire) ∈ packedLists ↔ wire ∈ op.packed := by
  cases op <;> simp [packedLists, packed]

theorem exists_slot_of_mem_packedLists {op : Operation} {wire : String}
    (h : (op, wire) ∈ packedLists) :
    ∃ (item : FieldType) (slot : Slot op.request.shape (.list item)),
      slot.field.wire = wire := by
  simp only [packedLists, List.mem_cons, List.not_mem_nil, or_false, Prod.mk.injEq] at h
  rcases h with ⟨rfl, rfl⟩ | ⟨rfl, rfl⟩ | ⟨rfl, rfl⟩
  · exact ⟨_, .there .here, rfl⟩
  · exact ⟨_, .there .here, rfl⟩
  · exact ⟨_, .there <| .there .here, rfl⟩

/-- The parameter of a packed list is the text of the list. -/
theorem get?_shape_of_packed {op : Operation} {item : FieldType}
    (slot : Slot op.request.shape (.list item)) (h : slot.field.wire ∈ op.packed)
    {m : Message op.request} {vs : List item.Value} (hset : slot.get m = some vs) :
    (WireRequest.shape op.descriptor (op.request.shape.encode m)).get? slot.field.wire =
      some ((FieldType.list item).encode vs).compact := by
  have hpacked : op.descriptor.isPacked slot.field.wire = true := by
    rwa [Descriptor.isPacked, List.contains_iff_mem]
  have hparts := slot.showsParts_shape (d := op.descriptor) op.isWellNamed_request m rfl hset
  rw [Parameters.ShowsParts, if_pos hpacked] at hparts
  exact hparts.1

/-- Packing can be undone.  A value that is not null, holds integers only and is not too deep
is packed into a text from which it is read again, with all its members in their order; null
is packed into nothing, and nothing else is.  So the parameter of a packed list is read and
decoded as the list that the request holds, whatever its elements are and whether there are
any. -/
theorem packing_undone :
    (∀ (name : String) (v : Json), v ≠ .null → v.HasDistinctNames → v.IsIntegral →
      v.nesting ≤ Json.maxNesting → ∃ text, v.pack name = some (name, text) ∧
        Json.parseText text = .ok v) ∧
    (∀ (name : String) (v : Json), v.pack name = none ↔ v = .null) ∧
    ∀ (op : Operation) (wire : String), (op, wire) ∈ packedLists →
      (∃ (item : FieldType) (slot : Slot op.request.shape (.list item)),
        slot.field.wire = wire) ∧
      ∀ (item : FieldType) (slot : Slot op.request.shape (.list item)),
        slot.field.wire = wire →
        ∀ (m : Message op.request) (vs : List item.Value), slot.get m = some vs →
          ∃ w text json, WireRequest.assemble op.descriptor m.toJson = .ok w ∧
            w.parameters.get? wire = some text ∧ Json.parseText text = .ok json ∧
            (FieldType.list item).decode json = .ok vs := by
  refine ⟨?_, fun name v => Json.pack_eq_none_iff, ?_⟩
  · intro name v hnull hnames hint hdepth
    exact Json.parseText_pack hnull hnames hint hdepth name
  · intro op wire hlist
    refine ⟨exists_slot_of_mem_packedLists hlist, ?_⟩
    intro item slot hwire m vs hset
    subst hwire
    obtain ⟨json, hread, hdecode⟩ := FieldType.decode_parseText_compact
      (slot.isWellNamed_type op.isWellNamed_request)
      (slot.depth_type_le.trans op.depth_request_le) vs
    refine ⟨WireRequest.place op.descriptor (WireRequest.shape op.descriptor
      (op.request.shape.encode m)), _, json, rfl, ?_, hread, hdecode⟩
    rw [WireRequest.place_parameters]
    exact get?_shape_of_packed slot (mem_packedLists_iff.1 hlist) hset

/-- An object whose members do not stand in the order of their names, and a request for
resources by two tags, one with a quotation mark, a line break and an empty value, the other
with no field set. -/
theorem packing_undone_of_tags :
    let v : Json := .obj [("Zeta", .int (-1)), ("Alpha", .arr [.null, .str "\\"])]
    let tags : List (Message Catalog.tag) := [(some "a\"\n", some "", ()), Catalog.tag.unset]
    let m : Message Operation.listTagResources.request :=
      (none, none, some tags, none, none, none, ())
    (∃ text, v.pack "Config" = some ("Config", text) ∧ Json.parseText text = .ok v) ∧
      (.listTagResources, "Tag") ∈ packedLists ∧
      ∃ w text json, WireRequest.assemble Operation.listTagResources.descriptor m.toJson =
        .ok w ∧ w.parameters.get? "Tag" = some text ∧ Json.parseText text = .ok json ∧
        (FieldType.list (.message "Tag" Catalog.tag.shape)).decode json = .ok tags := by
  intro v tags m
  have hlist : (.listTagResources, "Tag") ∈ packedLists := by decide
  obtain ⟨hpack, -, hlists⟩ := packing_undone
  refine ⟨hpack "Config" v (by simp [v]) (by decide) (by decide) (by decide), hlist, ?_⟩
  exact (hlists _ _ hlist).2 (.message "Tag" Catalog.tag.shape) (.there <|
    .there .here) rfl m tags rfl

end Operation

end BalancerClient
