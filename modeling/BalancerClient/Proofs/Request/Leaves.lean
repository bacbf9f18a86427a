import BalancerClient.Proofs.Json.WellFormed
import BalancerClient.Proofs.Request.Names
import BalancerClient.Proofs.Request.Parameters

/-!
# The scalars inside a value

Flattening sets one parameter for each scalar inside a value, named by the way to it.  The
scalars are listed here with their ways, and the parameters of a value are shown to be this
list.  Members have different names and elements different numbers, so no two scalars share a
way.

## Main definitions

* `Leaf` - a scalar and the way to it.
* `numbered` - the leaves of the elements of a list.
* `Json.leaves` - the scalars inside a value, in their order.
* `Json.HasDotlessNames` - no name inside a value holds a point.

## Main statements

* `Json.flatten_eq_insertAll` - flattening sets the parameters of the scalars.
* `Json.mem_leaves_iff` - the ways lead to the scalars of the value, and to nothing else.
* `Json.nodup_leaves` - no two scalars share a way.
-/

namespace BalancerClient

/-- A scalar inside a value: the names and numbers on the way to it, and its text. -/
structure Leaf where
  path : List String
  text : String
  deriving DecidableEq

namespace Leaf

/-- The same scalar, seen from one level above. -/
def under (part : String) (l : Leaf) : Leaf := ⟨part :: l.path, l.text⟩

/-- The name of a scalar's parameter. -/
def name (l : Leaf) : String := dottedName l.path

/-- The parameter of a scalar. -/
def entry (l : Leaf) : String × String := (l.name, l.text)

@[simp] theorem under_path (part : String) (l : Leaf) :
    (l.under part).path = part :: l.path := rfl

@[simp] theorem under_text (part : String) (l : Leaf) : (l.under part).text = l.text := rfl

theorem under_injective (part : String) : Function.Injective (under part) := by
  intro l l' h
  obtain ⟨path, text⟩ := l
  obtain ⟨path', text'⟩ := l'
  simpa [under] using h

/-- A parameter whose path starts with a name stands at that name or below it. -/
theorem name_eq_or_isBelow {wire : String} (hwire : IsDotless wire) {l : Leaf}
    (hdots : ∀ part ∈ l.path, IsDotless part) (h : l.path.head? = some wire) :
    l.name = wire ∨ IsBelow wire l.name := by
  obtain ⟨path, text⟩ := l
  cases path with
  | nil => cases h
  | cons part path =>
    obtain rfl : part = wire := Option.some.inj h
    rw [name]
    by_cases hnil : path = []
    · left
      rw [hnil, dottedName_singleton]
    · right
      exact (isBelow_dottedName hwire hdots).2 ⟨rfl, hnil⟩

end Leaf

/-! ## Elements -/

section Numbered

variable {α : Type} {leaves : α → List Leaf}

/-- The leaves of numbered elements, the first of which has the given number. -/
def numbered (leaves : α → List Leaf) (number : Nat) : List α → List Leaf
  | [] => []
  | v :: rest =>
    (leaves v).map (.under (toString number)) ++ numbered leaves (number + 1) rest

theorem mem_numbered {l : Leaf} {vs : List α} {number : Nat} :
    l ∈ numbered leaves number vs ↔
      ∃ (i : Nat) (v : α), vs[i]? = some v ∧
        ∃ l' ∈ leaves v, l = l'.under (toString (number + i)) := by
  induction vs generalizing number with
  | nil => simp [numbered]
  | cons v rest ih =>
    rw [numbered, List.mem_append, List.mem_map, ih]
    constructor
    · intro hmem
      rcases hmem with ⟨l', hl', rfl⟩ | ⟨i, w, hw, l', hl', rfl⟩
      · exact ⟨0, v, rfl, l', hl', rfl⟩
      · refine ⟨i + 1, w, by simpa using hw, l', hl', ?_⟩
        rw [Nat.add_assoc, Nat.add_comm 1 i]
    · intro hmem
      obtain ⟨i, w, hw, l', hl', rfl⟩ := hmem
      cases i with
      | zero =>
        obtain rfl : v = w := by simpa using hw
        exact .inl ⟨l', hl', rfl⟩
      | succ i =>
        refine .inr ⟨i, w, by simpa using hw, l', hl', ?_⟩
        rw [Nat.add_assoc, Nat.add_comm 1 i]

/-- No leaf of an element starts with the number of an earlier one. -/
theorem head?_path_of_mem_numbered {l : Leaf} {vs : List α} {number : Nat}
    (hl : l ∈ numbered leaves (number + 1) vs) : l.path.head? ≠ some (toString number) := by
  intro hhead
  obtain ⟨i, w, -, l', -, rfl⟩ := mem_numbered.1 hl
  have := toString_nat_injective (Option.some.inj hhead)
  omega

/-- Leaves below different parts have different ways. -/
theorem nodup_append_under {l : List Leaf} (part : String) {more : List Leaf}
    (hl : (l.map Leaf.path).Nodup) (hmore : (more.map Leaf.path).Nodup)
    (hne : ∀ m ∈ more, m.path.head? ≠ some part) :
    ((l.map (Leaf.under part) ++ more).map Leaf.path).Nodup := by
  have hunder : (l.map (Leaf.under part)).map Leaf.path =
      (l.map Leaf.path).map (part :: ·) := by
    simp [Function.comp_def]
  rw [List.map_append, hunder, List.nodup_append]
  refine ⟨hl.map (List.cons_injective), hmore, ?_⟩
  intro path hpath path' hpath' heq
  obtain ⟨tail, -, rfl⟩ := List.mem_map.1 hpath
  obtain ⟨m, hm, rfl⟩ := List.mem_map.1 hpath'
  exact hne m hm (by rw [← heq]; rfl)

theorem nodup_numbered {vs : List α} (h : ∀ v ∈ vs, ((leaves v).map Leaf.path).Nodup)
    (number : Nat) : ((numbered leaves number vs).map Leaf.path).Nodup := by
  induction vs generalizing number with
  | nil => simp [numbered]
  | cons v rest ih =>
    refine nodup_append_under _ (h v List.mem_cons_self)
      (ih (fun w hw => h w (List.mem_cons_of_mem _ hw)) _) ?_
    intro m hm
    exact head?_path_of_mem_numbered hm

end Numbered

namespace Json

mutual

/-- The scalars inside a value, in their order. -/
def leaves : Json → List Leaf
  | null => []
  | bool b => [⟨[], if b then "true" else "false"⟩]
  | num n => [⟨[], String.ofList n.chars⟩]
  | str s => [⟨[], s⟩]
  | arr items => itemLeaves 1 items
  | obj members => memberLeaves members
termination_by structural v => v

/-- The scalars inside the elements of a list, the first of which has the given number. -/
def itemLeaves (number : Nat) : List Json → List Leaf
  | [] => []
  | v :: rest => v.leaves.map (.under (toString number)) ++ itemLeaves (number + 1) rest
termination_by structural items => items

/-- The scalars inside the members of an object. -/
def memberLeaves : List (String × Json) → List Leaf
  | [] => []
  | (part, v) :: rest => v.leaves.map (.under part) ++ memberLeaves rest
termination_by structural members => members

end

/-- A scalar is the only one in itself. -/
theorem leaves_of_scalarText? {v : Json} {text : String} (h : v.scalarText? = some text) :
    v.leaves = [⟨[], text⟩] := by
  cases v <;> simp_all [scalarText?, leaves]

theorem itemLeaves_eq_numbered (items : List Json) (number : Nat) :
    itemLeaves number items = numbered leaves number items := by
  induction items generalizing number with
  | nil => rfl
  | cons v rest ih => rw [itemLeaves, ih, numbered]

theorem memberLeaves_eq_flatMap (members : List (String × Json)) :
    memberLeaves members = members.flatMap fun m => m.2.leaves.map (.under m.1) := by
  induction members with
  | nil => rfl
  | cons m rest ih => rw [memberLeaves, ih, List.flatMap_cons]

/-! ## Flattening -/

/-- What flattening makes of a value below a path. -/
def FlattensTo (path : List String) (v : Json) : Prop :=
  ∀ p, v.flatten (dottedName path) p =
    p.insertAll (v.leaves.map fun l => (dottedName (path ++ l.path), l.text))

theorem flattenItems_eq_insertAll {path : List String} (hpath : path ≠ []) {items : List Json}
    (h : ∀ v ∈ items, ∀ {path : List String}, path ≠ [] → FlattensTo path v) (number : Nat)
    (p : Parameters) :
    flattenItems (dottedName path) number items p =
      p.insertAll ((itemLeaves number items).map fun l => (dottedName (path ++ l.path),
        l.text)) := by
  induction items generalizing number p with
  | nil => rfl
  | cons v rest ih =>
    have hv : FlattensTo (path ++ [toString number]) v := h v List.mem_cons_self (by simp)
    rw [flattenItems, pathName_dottedName hpath, hv, itemLeaves, List.map_append,
      Parameters.insertAll_append, ih fun w hw => h w (List.mem_cons_of_mem _ hw)]
    simp [Function.comp_def]

theorem flattenMembers_eq_insertAll {path : List String} (hpath : path ≠ [])
    {members : List (String × Json)}
    (h : ∀ m ∈ members, ∀ {path : List String}, path ≠ [] → FlattensTo path m.2)
    (p : Parameters) : flattenMembers (dottedName path) members p =
      p.insertAll ((memberLeaves members).map fun l => (dottedName (path ++ l.path),
        l.text)) := by
  induction members generalizing p with
  | nil => rfl
  | cons m rest ih =>
    obtain ⟨part, v⟩ := m
    have hv : FlattensTo (path ++ [part]) v := h (part, v) List.mem_cons_self (by simp)
    rw [flattenMembers, pathName_dottedName hpath, hv, memberLeaves, List.map_append,
      Parameters.insertAll_append, ih fun w hw => h w (List.mem_cons_of_mem _ hw)]
    simp [Function.comp_def]

/-- Flattening sets the parameters of the scalars, one after the other. -/
theorem flatten_eq_insertAll (v : Json) :
    ∀ {path : List String}, path ≠ [] → FlattensTo path v := by
  induction v with
  | null =>
    intro path _ p
    rfl
  | bool b =>
    intro path _ p
    simp [flatten, leaves]
  | num n =>
    intro path _ p
    simp [flatten, leaves]
  | str s =>
    intro path _ p
    simp [flatten, leaves]
  | arr items ih =>
    intro path hpath p
    exact flattenItems_eq_insertAll hpath ih 1 p
  | obj members ih =>
    intro path hpath p
    exact flattenMembers_eq_insertAll hpath ih p

/-! ## Ways -/

/-- The value at the end of a way, if the way exists. -/
inductive At : Json → List String → Json → Prop where
  /-- No step leads to the value itself. -/
  | here (v : Json) : At v [] v
  /-- A step by name leads to a member. -/
  | member {members : List (String × Json)} {part : String} {v w : Json} {path : List String}
      (hmem : (part, v) ∈ members) (h : At v path w) : At (obj members) (part :: path) w
  /-- A step by number, counted from 1, leads to an element. -/
  | element {items : List Json} {number : Nat} {v w : Json} {path : List String}
      (hmem : items[number]? = some v) (h : At v path w) :
      At (arr items) (toString (number + 1) :: path) w

/-- A way that starts with a name leads through a member of that name. -/
theorem at_obj_cons {members : List (String × Json)} {part : String} {path : List String}
    {w : Json} :
    At (obj members) (part :: path) w ↔ ∃ v, (part, v) ∈ members ∧ At v path w := by
  constructor
  · intro h
    cases h with
    | member hmem h => exact ⟨_, hmem, h⟩
  · intro h
    obtain ⟨v, hmem, h⟩ := h
    exact .member hmem h

/-- A way into a list starts with the number of an element. -/
theorem exists_of_at_arr {items : List Json} {part : String} {path : List String} {w : Json}
    (h : At (arr items) (part :: path) w) :
    ∃ (i : Nat) (v : Json), part = toString (i + 1) ∧ items[i]? = some v ∧ At v path w := by
  cases h with
  | element hmem h => exact ⟨_, _, rfl, hmem, h⟩

/-- A way that starts with a number leads through the element of that number. -/
theorem at_arr_cons {items : List Json} {number : Nat} {path : List String} {w : Json} :
    At (arr items) (toString (number + 1) :: path) w ↔
      ∃ v, items[number]? = some v ∧ At v path w := by
  constructor
  · intro h
    obtain ⟨number', v, hpart, hmem, h⟩ := exists_of_at_arr h
    obtain rfl : number = number' := by simpa using toString_nat_injective hpart
    exact ⟨v, hmem, h⟩
  · intro h
    obtain ⟨v, hmem, h⟩ := h
    exact .element hmem h

/-- A way goes on where its start ends. -/
theorem at_append {v w : Json} {path more : List String} :
    At v (path ++ more) w ↔ ∃ u, At v path u ∧ At u more w := by
  constructor
  · intro h
    induction path generalizing v with
    | nil => exact ⟨v, .here v, h⟩
    | cons part path ih =>
      rw [List.cons_append] at h
      cases h with
      | member hmem h =>
        obtain ⟨u, hu, hw⟩ := ih h
        exact ⟨u, .member hmem hu, hw⟩
      | element hmem h =>
        obtain ⟨u, hu, hw⟩ := ih h
        exact ⟨u, .element hmem hu, hw⟩
  · intro h
    obtain ⟨u, hu, hw⟩ := h
    induction hu with
    | here v => exact hw
    | member hmem _ ih => exact .member hmem (ih hw)
    | element hmem _ ih => exact .element hmem (ih hw)

/-- A way leads to no more than one value. -/
theorem at_unique {v u w : Json} {path : List String} (h : v.HasDistinctNames)
    (hu : At v path u) (hw : At v path w) : u = w := by
  induction hu with
  | here v =>
    cases hw
    rfl
  | @member members part v u path hmem _ ih =>
    obtain ⟨v', hmem', hw⟩ := at_obj_cons.1 hw
    obtain ⟨hnames, hinner⟩ := hasDistinctNames_obj.1 h
    have heq := List.inj_on_of_nodup_map hnames hmem hmem' rfl
    obtain rfl : v = v' := (Prod.mk.inj heq).2
    exact ih (hinner _ hmem) hw
  | element hmem _ ih =>
    obtain ⟨v', hmem', hw⟩ := at_arr_cons.1 hw
    obtain rfl := Option.some.inj (hmem.symm.trans hmem')
    exact ih (hasDistinctNames_arr.1 h _ (List.mem_of_getElem? hmem)) hw

theorem mem_memberLeaves {l : Leaf} {members : List (String × Json)} :
    l ∈ memberLeaves members ↔ ∃ part v, (part, v) ∈ members ∧ ∃ l' ∈ v.leaves,
    l = l'.under part := by
  rw [memberLeaves_eq_flatMap]
  simp only [List.mem_flatMap, List.mem_map, Prod.exists]
  constructor
  · intro h
    obtain ⟨part, v, hmem, l', hl', hl⟩ := h
    exact ⟨part, v, hmem, l', hl', hl.symm⟩
  · intro h
    obtain ⟨part, v, hmem, l', hl', hl⟩ := h
    exact ⟨part, v, hmem, l', hl', hl.symm⟩

/-- The ways of the scalars lead to them, and every way to a scalar is one of these. -/
theorem mem_leaves_iff {v : Json} {l : Leaf} :
    l ∈ v.leaves ↔ ∃ w, At v l.path w ∧ w.scalarText? = some l.text := by
  obtain ⟨path, text⟩ := l
  constructor
  · intro h
    induction v generalizing path with
    | null => simp [leaves] at h
    | bool b =>
      obtain ⟨rfl, rfl⟩ : path = [] ∧ text = _ := by simpa [leaves] using h
      exact ⟨_, .here _, rfl⟩
    | num n =>
      obtain ⟨rfl, rfl⟩ : path = [] ∧ text = _ := by simpa [leaves] using h
      exact ⟨_, .here _, rfl⟩
    | str s =>
      obtain ⟨rfl, rfl⟩ : path = [] ∧ text = _ := by simpa [leaves] using h
      exact ⟨_, .here _, rfl⟩
    | arr items ih =>
      rw [leaves, itemLeaves_eq_numbered] at h
      obtain ⟨i, v, hv, l', hl', hl⟩ := mem_numbered.1 h
      obtain ⟨rfl, rfl⟩ : path = _ ∧ text = _ := by simpa [Leaf.under] using hl
      obtain ⟨w, hat, hw⟩ := ih v (List.mem_of_getElem? hv) l'.path hl'
      refine ⟨w, ?_, hw⟩
      rw [Nat.add_comm 1 i]
      exact .element hv hat
    | obj members ih =>
      obtain ⟨part, v, hv, l', hl', hl⟩ := mem_memberLeaves.1 h
      obtain ⟨rfl, rfl⟩ : path = _ ∧ text = _ := by simpa [Leaf.under] using hl
      obtain ⟨w, hat, hw⟩ := ih (part, v) hv l'.path hl'
      exact ⟨w, .member hv hat, hw⟩
  · intro h
    obtain ⟨w, hat, hw⟩ := h
    change At v path w at hat
    induction hat with
    | here v =>
      rw [leaves_of_scalarText? hw]
      exact List.mem_singleton_self _
    | member hmem _ ih => exact mem_memberLeaves.2 ⟨_, _, hmem, _, ih hw, rfl⟩
    | @element items number v w path hmem _ ih =>
      rw [leaves, itemLeaves_eq_numbered]
      refine mem_numbered.2 ⟨number, v, hmem, _, ih hw, ?_⟩
      rw [Nat.add_comm 1 number]
      rfl

/-! ## Different ways -/

theorem nodup_memberLeaves {members : List (String × Json)}
    (hnames : (members.map Prod.fst).Nodup)
    (h : ∀ m ∈ members, (m.2.leaves.map Leaf.path).Nodup) :
    ((memberLeaves members).map Leaf.path).Nodup := by
  induction members with
  | nil => simp [memberLeaves]
  | cons m rest ih =>
    obtain ⟨part, v⟩ := m
    rw [List.map_cons, List.nodup_cons] at hnames
    refine nodup_append_under _ (h _ List.mem_cons_self)
      (ih hnames.2 fun m hm => h m (List.mem_cons_of_mem _ hm)) ?_
    intro m hm hhead
    obtain ⟨part', w, hmem, l, -, rfl⟩ := mem_memberLeaves.1 hm
    obtain rfl : part' = part := Option.some.inj hhead
    exact hnames.1 (List.mem_map.2 ⟨_, hmem, rfl⟩)

/-- No two scalars share a way. -/
theorem nodup_leaves {v : Json} (h : v.HasDistinctNames) :
    (v.leaves.map Leaf.path).Nodup := by
  induction v with
  | null => simp [leaves]
  | bool b => simp [leaves]
  | num n => simp [leaves]
  | str s => simp [leaves]
  | arr items ih =>
    rw [hasDistinctNames_arr] at h
    rw [leaves, itemLeaves_eq_numbered]
    apply nodup_numbered
    intro v hv
    exact ih v hv (h v hv)
  | obj members ih =>
    rw [hasDistinctNames_obj] at h
    apply nodup_memberLeaves h.1
    intro m hm
    exact ih m hm (h.2 m hm)

/-! ## Names without points -/

/-- Whether the members of an object have names without a point. -/
def namesDotless : Json → Bool
  | obj members => members.all fun m => decide (IsDotless m.1)
  | _ => true

/-- No member of an object in a value has a point in its name. -/
def HasDotlessNames (v : Json) : Prop := v.everywhere namesDotless = true

instance (v : Json) : Decidable v.HasDotlessNames :=
  inferInstanceAs (Decidable (v.everywhere namesDotless = true))

theorem hasDotlessNames_arr {items : List Json} :
    (arr items).HasDotlessNames ↔ ∀ v ∈ items, v.HasDotlessNames := by
  simp [HasDotlessNames, everywhere_arr, namesDotless]

theorem hasDotlessNames_obj {members : List (String × Json)} :
    (obj members).HasDotlessNames ↔
      (∀ m ∈ members, IsDotless m.1) ∧ ∀ m ∈ members, m.2.HasDotlessNames := by
  simp only [HasDotlessNames, everywhere_obj, namesDotless, List.all_eq_true,
    decide_eq_true_eq]

/-- The ways through names without points are made of parts without points. -/
theorem isDotless_of_at {v w : Json} {path : List String} (hat : At v path w)
    (h : v.HasDotlessNames) : ∀ part ∈ path, IsDotless part := by
  induction hat with
  | here v => simp
  | member hmem _ ih =>
    rw [hasDotlessNames_obj] at h
    rw [List.forall_mem_cons]
    exact ⟨h.1 _ hmem, ih (h.2 _ hmem)⟩
  | element hmem _ ih =>
    rw [hasDotlessNames_arr] at h
    rw [List.forall_mem_cons]
    exact ⟨isDotless_toString _, ih (h _ (List.mem_of_getElem? hmem))⟩

theorem isDotless_of_mem_leaves {v : Json} (h : v.HasDotlessNames) {l : Leaf}
    (hl : l ∈ v.leaves) :
    ∀ part ∈ l.path, IsDotless part := by
  obtain ⟨w, hat, -⟩ := mem_leaves_iff.1 hl
  exact isDotless_of_at hat h

end Json

end BalancerClient
