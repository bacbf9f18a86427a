import BalancerClient.Json.Basic
import Mathlib.Data.List.Nodup

/-!
# Values with a condition everywhere inside

Much of what is said of a value is said of every value inside it: that the members of an
object have different names, that no number is a floating point number.  Such a condition is
one recursion with a parameter, and is passed on to items and members by one lemma each.

What holds of a value if it holds of the items of an array and of the members of an object
holds of all values; `induction` goes by this rule.

## Main definitions

* `Json.everywhere` - a condition on a value and all values inside it.
* `Json.HasDistinctNames`, `Json.IsIntegral` - the two conditions above.

## Main statements

* `Json.induct` - induction over values.
-/

namespace BalancerClient.Json

/-! ## Induction -/

section Induction

variable {motive : Json → Prop} (null : motive null) (bool : ∀ b, motive (bool b))
  (num : ∀ n, motive (num n)) (str : ∀ s, motive (str s))
  (arr : ∀ items, (∀ v ∈ items, motive v) → motive (arr items))
  (obj : ∀ members, (∀ m ∈ members, motive m.2) → motive (obj members))

include null bool num str arr obj

/-- Induction over values, by way of items and members. -/
@[induction_eliminator] theorem induct (v : Json) : motive v := by
  refine @Json.rec motive (fun items => ∀ v ∈ items, motive v) (fun members => ∀ m ∈ members,
    motive m.2)
    (fun m => motive m.2) null bool num str arr obj ?noItem ?item ?noMember ?member ?named v
  case noItem => simp
  case item =>
    intro v items hv hitems
    exact List.forall_mem_cons.2 ⟨hv, hitems⟩
  case noMember => simp
  case member =>
    intro m members hm hmembers
    exact List.forall_mem_cons.2 ⟨hm, hmembers⟩
  case named =>
    intro name v hv
    exact hv

end Induction

/-! ## Conditions -/

mutual

/-- Whether a condition holds of a value and of every value inside it. -/
def everywhere (p : Json → Bool) : Json → Bool
  | null => p null
  | bool b => p (bool b)
  | num n => p (num n)
  | str s => p (str s)
  | arr items => p (arr items) && everywhereItems p items
  | obj members => p (obj members) && everywhereMembers p members
termination_by structural v => v

/-- Whether a condition holds of the items of an array and of every value inside them. -/
def everywhereItems (p : Json → Bool) : List Json → Bool
  | [] => true
  | v :: rest => v.everywhere p && everywhereItems p rest
termination_by structural vs => vs

/-- Whether a condition holds of the members of an object and of every value inside them. -/
def everywhereMembers (p : Json → Bool) : List (String × Json) → Bool
  | [] => true
  | (_, v) :: rest => v.everywhere p && everywhereMembers p rest
termination_by structural ms => ms

end

theorem everywhereItems_iff (p : Json → Bool) (items : List Json) :
    everywhereItems p items = true ↔ ∀ v ∈ items, v.everywhere p = true := by
  induction items with
  | nil => simp [everywhereItems]
  | cons v rest ih => simp [everywhereItems, ih]

theorem everywhereMembers_iff (p : Json → Bool) (members : List (String × Json)) :
    everywhereMembers p members = true ↔ ∀ m ∈ members, m.2.everywhere p = true := by
  induction members with
  | nil => simp [everywhereMembers]
  | cons m rest ih => simp [everywhereMembers, ih]

theorem everywhere_arr {p : Json → Bool} {items : List Json} :
    (arr items).everywhere p = true ↔ p (arr items) = true ∧ ∀ v ∈ items,
      v.everywhere p = true := by
  rw [everywhere, Bool.and_eq_true, everywhereItems_iff]

theorem everywhere_obj {p : Json → Bool} {members : List (String × Json)} :
    (obj members).everywhere p = true ↔
      p (obj members) = true ∧ ∀ m ∈ members, m.2.everywhere p = true := by
  rw [everywhere, Bool.and_eq_true, everywhereMembers_iff]

/-! ## Names -/

/-- Whether the members of an object have different names. -/
def namesDiffer : Json → Bool
  | obj members => decide (members.map Prod.fst).Nodup
  | _ => true

/-- Every object in a value has each of its names once. -/
def HasDistinctNames (v : Json) : Prop := v.everywhere namesDiffer = true

instance (v : Json) : Decidable v.HasDistinctNames :=
  inferInstanceAs (Decidable (v.everywhere namesDiffer = true))

theorem hasDistinctNames_arr {items : List Json} :
    (arr items).HasDistinctNames ↔ ∀ v ∈ items, v.HasDistinctNames := by
  simp [HasDistinctNames, everywhere_arr, namesDiffer]

theorem hasDistinctNames_obj {members : List (String × Json)} :
    (obj members).HasDistinctNames ↔
      (members.map Prod.fst).Nodup ∧ ∀ m ∈ members, m.2.HasDistinctNames := by
  simp only [HasDistinctNames, everywhere_obj, namesDiffer, decide_eq_true_eq]

/-! ## Numbers -/

/-- Whether a value is no floating point number. -/
def isNoFloat : Json → Bool
  | num (.float _) => false
  | _ => true

/-- Every number in a value is an integer. -/
def IsIntegral (v : Json) : Prop := v.everywhere isNoFloat = true

instance (v : Json) : Decidable v.IsIntegral :=
  inferInstanceAs (Decidable (v.everywhere isNoFloat = true))

theorem isIntegral_arr {items : List Json} :
    (arr items).IsIntegral ↔ ∀ v ∈ items, v.IsIntegral := by
  simp [IsIntegral, everywhere_arr, isNoFloat]

theorem isIntegral_obj {members : List (String × Json)} :
    (obj members).IsIntegral ↔ ∀ m ∈ members, m.2.IsIntegral := by
  simp [IsIntegral, everywhere_obj, isNoFloat]

/-! ## Nesting -/

theorem nestingItems_le_iff {items : List Json} {depth : Nat} :
    nestingItems items ≤ depth ↔ ∀ v ∈ items, v.nesting ≤ depth := by
  induction items with
  | nil => simp [nestingItems]
  | cons v rest ih => rw [nestingItems, Nat.max_le, ih, List.forall_mem_cons]

theorem nestingMembers_le_iff {members : List (String × Json)} {depth : Nat} :
    nestingMembers members ≤ depth ↔ ∀ m ∈ members, m.2.nesting ≤ depth := by
  induction members with
  | nil => simp [nestingMembers]
  | cons m rest ih => rw [nestingMembers, Nat.max_le, ih, List.forall_mem_cons]

end BalancerClient.Json
