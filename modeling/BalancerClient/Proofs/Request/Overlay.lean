import BalancerClient.Proofs.Request.Leaves

/-!
# Flattening lays a value over parameters

Flattening a value under a name sets the parameters of the scalars inside it and leaves all
others alone.  Ways that differ may have one name, because a member's name may hold points or
be empty, or read like the number of an element.  Of the scalars with one name the last one in
the value gives the text.

## Main definitions

* `Leaf.nameBelow` - the name of a scalar's parameter, seen from above the value.
* `Json.pruned` - a value without the arrays, objects and nulls that hold no scalar.

## Main statements

* `Json.get?_flatten` - what flattening makes of a parameter.
* `Json.leaves_pruned` - what holds no scalar adds none.
* `Json.flatten_overlays` - all that flattening does.
-/

namespace BalancerClient

namespace Leaf

/-- The name of a scalar's parameter when its value has a name. -/
def nameBelow (name : String) (l : Leaf) : String := dottedName (name :: l.path)

/-- A scalar has the name of its value, or one further below. -/
theorem nameBelow_eq_or_isBelow (name : String) (l : Leaf) :
    l.nameBelow name = name ∨ IsBelow name (l.nameBelow name) := by
  by_cases h : l.path = []
  · left
    rw [nameBelow, h, dottedName_singleton]
  · right
    have hbelow := isBelow_dottedName_append (List.cons_ne_nil name []) h
    rwa [dottedName_singleton] at hbelow

end Leaf

namespace Json

theorem flatten_eq_insertAll_leaves (name : String) (v : Json) (p : Parameters) :
    v.flatten name p = p.insertAll (v.leaves.map fun l => (l.nameBelow name, l.text)) := by
  have hflat : FlattensTo [name] v := flatten_eq_insertAll v (List.cons_ne_nil name [])
  have hflat := hflat p
  rwa [dottedName_singleton] at hflat

/-- The last scalar of a name gives its text; without any the name keeps what it had. -/
theorem get?_flatten (name key : String) (v : Json) (p : Parameters) :
    (v.flatten name p).get? key =
      ((v.leaves.filter fun l => l.nameBelow name = key).getLast?.map Leaf.text).or
        (p.get? key) := by
  rw [flatten_eq_insertAll_leaves, Parameters.get?_insertAll, List.filter_map,
    List.getLast?_map, Option.map_map]
  rfl

/-! ## Parts without scalars -/

mutual

/-- The value with null in place of each array and object that holds no scalar, and without
the members that hold none.  An element stays, because it takes a number. -/
def pruned : Json → Json
  | arr items => if itemLeaves 1 items = [] then null else arr (prunedItems items)
  | obj members => if memberLeaves members = [] then null else obj (prunedMembers members)
  | v => v
termination_by structural v => v

/-- The elements of a list, each without the parts that hold no scalar. -/
def prunedItems : List Json → List Json
  | [] => []
  | v :: rest => v.pruned :: prunedItems rest
termination_by structural items => items

/-- The members that hold a scalar, without the parts that hold none. -/
def prunedMembers : List (String × Json) → List (String × Json)
  | [] => []
  | (part, v) :: rest =>
    if v.leaves = [] then prunedMembers rest else (part, v.pruned) :: prunedMembers rest
termination_by structural members => members

end

theorem itemLeaves_prunedItems {items : List Json}
    (h : ∀ v ∈ items, v.pruned.leaves = v.leaves)
    (number : Nat) : itemLeaves number (prunedItems items) = itemLeaves number items := by
  induction items generalizing number with
  | nil => rfl
  | cons v rest ih =>
    obtain ⟨hv, hrest⟩ := List.forall_mem_cons.1 h
    rw [prunedItems, itemLeaves, hv, ih hrest, itemLeaves]

theorem memberLeaves_prunedMembers {members : List (String × Json)}
    (h : ∀ m ∈ members, m.2.pruned.leaves = m.2.leaves) :
    memberLeaves (prunedMembers members) = memberLeaves members := by
  induction members with
  | nil => rfl
  | cons m rest ih =>
    obtain ⟨part, v⟩ := m
    obtain ⟨hv, hrest⟩ := List.forall_mem_cons.1 h
    rw [prunedMembers, memberLeaves]
    split
    · next hnone => rw [hnone, List.map_nil, List.nil_append, ih hrest]
    · rw [memberLeaves, hv, ih hrest]

/-- Parts that hold no scalar add none, at any depth. -/
theorem leaves_pruned (v : Json) : v.pruned.leaves = v.leaves := by
  induction v with
  | arr items ih =>
    rw [pruned, leaves]
    split
    · next hnone => rw [leaves, hnone]
    · rw [leaves, itemLeaves_prunedItems ih]
  | obj members ih =>
    rw [pruned, leaves]
    split
    · next hnone => rw [leaves, hnone]
    · rw [leaves, memberLeaves_prunedMembers ih]
  | null => rfl
  | bool b => rfl
  | num n => rfl
  | str s => rfl

/-! ## All that flattening does -/

/-- Flattening is an overlay.  A name gets the text of the last scalar, members and elements
being taken in their order and each with all that is inside it, whose way from the given name
has that name; without one it keeps what it had.  The scalars are those at the ends of the
ways, on which an element goes by its number counted from 1 among all elements.  Null, empty
arrays and empty objects change nothing at any depth, and what changes is the given name or
stands below it. -/
theorem flatten_overlays (name : String) (v : Json) (p : Parameters) :
    (∀ key, (v.flatten name p).get? key =
      ((v.leaves.filter fun l => l.nameBelow name = key).getLast?.map Leaf.text).or
        (p.get? key)) ∧
    (∀ l, l ∈ v.leaves ↔ ∃ w, v.At l.path w ∧ w.scalarText? = some l.text) ∧
    v.pruned.flatten name p = v.flatten name p ∧
    ∀ key, (v.flatten name p).get? key ≠ p.get? key → key = name ∨ IsBelow name key := by
  refine ⟨fun key => get?_flatten name key v p, fun l => mem_leaves_iff, ?_, ?_⟩
  · rw [flatten_eq_insertAll_leaves, leaves_pruned, ← flatten_eq_insertAll_leaves]
  · intro key hchanged
    have hne : v.leaves.filter (fun l => l.nameBelow name = key) ≠ [] := by
      intro hnil
      rw [get?_flatten, hnil] at hchanged
      exact hchanged rfl
    obtain ⟨l, hl⟩ := List.exists_mem_of_ne_nil _ hne
    obtain rfl : l.nameBelow name = key := by simpa using (List.mem_filter.1 hl).2
    exact l.nameBelow_eq_or_isBelow name

example :
    ((obj [("a.b", .str "1"), ("", arr [null, .bool true]),
    ("a", obj [("b", .str "2")])]).flatten "n"
    {}).entries = [("n..2", "true"), ("n.a.b", "2")] := by decide

end Json

end BalancerClient
