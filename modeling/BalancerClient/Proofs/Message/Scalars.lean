import BalancerClient.Message.Encode
import BalancerClient.Proofs.Request.Leaves

/-!
# The scalars of a message

The scalars that are set in a message are listed with the ways to them: the wire names of
fields and the numbers of elements.  The list is read off the typed message, without a look at
JSON, and it is the list of the scalars inside the message's JSON value.

## Main definitions

* `FieldType.scalars`, `Shape.scalars` - the scalars that are set.

## Main statements

* `FieldType.leaves_encode`, `Shape.memberLeaves_encode` - they are those of the JSON value.
-/

namespace BalancerClient

mutual

/-- The scalars that are set in the value of a field: a text as it is, an integer in decimal
digits, and a truth value by its name. -/
def FieldType.scalars : (type : FieldType) → type.Value → List Leaf
  | .text, s => [⟨[], s⟩]
  | .int32, n => [⟨[], toString n.toInt⟩]
  | .int64, n => [⟨[], toString n.toInt⟩]
  | .flag, b => [⟨[], toString b⟩]
  | .list item, vs => numbered item.scalars 1 vs
  | .message _ shape, m => shape.scalars m
termination_by structural type => type

/-- The scalars that are set in a message. -/
def Shape.scalars : (shape : Shape) → shape.Values → List Leaf
  | .nil, _ => []
  | .cons _ _ rest, (none, m) => rest.scalars m
  | .cons field type rest, (some v, m) =>
    (type.scalars v).map (.under field.wire) ++ rest.scalars m
termination_by structural shape => shape

end

/-! ## Texts -/

/-- An integer in decimal digits. -/
theorem ofList_intChars (n : Int) : String.ofList (intChars n) = toString n := by
  apply String.toList_inj.1
  rw [String.toList_ofList, intChars]
  cases n with
  | ofNat n =>
    have hn : ¬ (Int.ofNat n < 0) := Int.not_lt.2 (Int.natCast_nonneg n)
    rw [if_neg hn]
    show Nat.toDigits 10 n = (Nat.repr n).toList
    rw [Nat.toList_repr]
  | negSucc n =>
    rw [if_pos (Int.negSucc_lt_zero n)]
    show '-' :: Nat.toDigits 10 (n + 1) = ("-" ++ Nat.repr (n + 1)).toList
    rw [String.toList_append, Nat.toList_repr]
    rfl

/-- An integer is determined by its digits and its sign. -/
theorem toString_int_injective {m n : Int} (h : toString m = toString n) : m = n := by
  have hminus : ∀ k : Nat, ∀ cs, '-' :: cs ≠ Nat.toDigits 10 k := by
    intro k cs heq
    obtain ⟨c, digits, hdigits, hdigit⟩ := exists_toDigits k
    rw [hdigits, List.cons.injEq] at heq
    exact absurd (hdigit c List.mem_cons_self) (by rw [← heq.1]; decide)
  have hchars := congrArg String.toList h
  rw [← ofList_intChars, ← ofList_intChars, String.toList_ofList,
    String.toList_ofList, intChars, intChars] at hchars
  by_cases hm : m < 0
  · by_cases hn : n < 0
    · rw [if_pos hm, if_pos hn, List.cons.injEq] at hchars
      have := toDigits_injective hchars.2
      omega
    · rw [if_pos hm, if_neg hn] at hchars
      exact absurd hchars (hminus _ _)
  · by_cases hn : n < 0
    · rw [if_neg hm, if_pos hn] at hchars
      exact absurd hchars.symm (hminus _ _)
    · rw [if_neg hm, if_neg hn] at hchars
      have := toDigits_injective hchars
      omega

/-- An integer of 64 bits is written in decimal digits. -/
theorem scalarText?_int {n : Int} (h : IsWide n) :
    (Json.int n).scalarText? = some (toString n) := by
  rw [Json.int, Number.ofInt_of_isWide h, Json.scalarText?, Number.chars, ofList_intChars]

/-- An integer of 64 bits is a leaf by its decimal digits. -/
theorem leaves_int {n : Int} (h : IsWide n) : (Json.int n).leaves = [⟨[], toString n⟩] :=
  Json.leaves_of_scalarText? (scalarText?_int h)

theorem isWide_int32 (n : Int32) : IsWide n.toInt := by
  have hlow := n.le_toInt
  have hhigh := n.toInt_lt
  exact ⟨by omega, by omega⟩

theorem isWide_int64 (n : Int64) : IsWide n.toInt := by
  have hlow := n.le_toInt
  have hhigh := n.toInt_lt
  exact ⟨by omega, by omega⟩

/-! ## The leaves of the JSON value -/

theorem itemLeaves_map {α : Type} {encode : α → Json} {leaves : α → List Leaf}
    (h : ∀ v, (encode v).leaves = leaves v) (vs : List α) (number : Nat) :
    Json.itemLeaves number (vs.map encode) = numbered leaves number vs := by
  rw [Json.itemLeaves_eq_numbered]
  induction vs generalizing number with
  | nil => rfl
  | cons v rest ih => rw [List.map_cons, numbered, h, ih, numbered]

mutual

/-- The scalars inside the JSON value of a field are those that are set. -/
theorem FieldType.leaves_encode : ∀ (type : FieldType) (v : type.Value),
    (type.encode v).leaves = type.scalars v
  | .text, s => rfl
  | .int32, n => leaves_int (isWide_int32 n)
  | .int64, n => leaves_int (isWide_int64 n)
  | .flag, b => by cases b <;> rfl
  | .list item, vs => itemLeaves_map item.leaves_encode vs 1
  | .message _ shape, m => shape.memberLeaves_encode m
termination_by structural type => type

/-- The scalars inside the members of a message's object are those that are set. -/
theorem Shape.memberLeaves_encode : ∀ (shape : Shape) (m : shape.Values),
    Json.memberLeaves (shape.encode m) = shape.scalars m
  | .nil, _ => rfl
  | .cons _ _ rest, (none, m) => rest.memberLeaves_encode m
  | .cons field type rest, (some v, m) => by
    rw [Shape.encode, Json.memberLeaves, type.leaves_encode v, rest.memberLeaves_encode m,
      Shape.scalars]
termination_by structural shape => shape

end

end BalancerClient
