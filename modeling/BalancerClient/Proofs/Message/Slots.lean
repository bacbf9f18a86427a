import BalancerClient.Message.Shape

/-!
# Messages place by place

What is said of a message is often said of each of its places, without regard to how a shape
lists them.  Values for all places make up a message, and a statement about types may take for
granted what it says of the types at the places of a shape.

## Main statements

* `FieldType.induct`, `Shape.induct` - induction over types and shapes, by way of places.
* `Shape.exists_of_forall_slot` - a message is made from values for its places.
-/

namespace BalancerClient

namespace FieldType

section Induction

variable {motive : FieldType → Prop} (text : motive .text) (int32 : motive .int32)
  (int64 : motive .int64) (flag : motive .flag) (list : ∀ item, motive item →
    motive (.list item))
  (message : ∀ name shape, (∀ type, Slot shape type → motive type) →
    motive (.message name shape))

include text int32 int64 flag list message

/-- Induction over types, by way of the items of lists and the places of messages. -/
@[induction_eliminator] theorem induct (type : FieldType) : motive type := by
  refine @FieldType.rec motive (fun shape => ∀ type, Slot shape type →
    motive type) text int32 int64 flag list message ?noField ?field type
  case noField =>
    intro type slot
    nomatch slot
  case field =>
    intro field first rest hfirst hrest type slot
    cases slot with
    | here => exact hfirst
    | there slot => exact hrest type slot

end Induction

end FieldType

namespace Shape

/-- Induction over shapes, by way of the messages in fields and in lists. -/
@[elab_as_elim] theorem induct {motive : Shape → Prop}
    (step : ∀ shape, (∀ name inner, Slot shape (.message name inner) → motive inner) →
      (∀ name inner, Slot shape (.list (.message name inner)) → motive inner) → motive shape)
    (shape : Shape) : motive shape := by
  have htype : ∀ type : FieldType, ∀ name inner,
      type = .message name inner ∨ type = .list (.message name inner) → motive inner := by
    intro type
    induction type with
    | message title shape ih =>
      intro name inner h
      rcases h with h | h
      · cases h
        exact step shape (fun name inner slot => ih _ slot name inner (.inl rfl))
          (fun name inner slot => ih _ slot name inner (.inr rfl))
      · cases h
    | list item ih =>
      intro name inner h
      rcases h with h | h
      · cases h
      · cases h
        exact ih name inner (.inl rfl)
    | _ =>
      intro name inner h
      rcases h with h | h <;> cases h
  exact htype (.message "" shape) _ _ (.inl rfl)

/-- Values for all places make up a message. -/
theorem exists_of_forall_slot : ∀ {shape : Shape}
    {p : (type : FieldType) → Slot shape type → Option type.Value → Prop},
    (∀ type slot, ∃ v, p type slot v) → ∃ m : shape.Values, ∀ type slot,
    p type slot (slot.get m)
  | .nil, _, _ => ⟨(), fun _ slot => nomatch slot⟩
  | .cons _ first rest, p, h => by
    obtain ⟨v, hv⟩ := h first .here
    have hrest : ∃ m : rest.Values, ∀ type slot, p type (.there slot) (slot.get m) :=
      exists_of_forall_slot fun type slot => h type (.there slot)
    obtain ⟨m, hm⟩ := hrest
    refine ⟨(v, m), ?_⟩
    intro type slot
    cases slot with
    | here => exact hv
    | there slot => exact hm type slot

end Shape

end BalancerClient
