import BalancerClient.Proofs.Json.Numbers
import BalancerClient.Request.Flatten
import BalancerClient.Text.Pieces

/-!
# Names of parameters

A parameter is named by a path: the name of a member, then the names and numbers on the way
down, with points between them.  As long as none of the parts holds a point, the name can be
cut into the parts again, so different paths have different names.  The number of an element
holds none.

## Main definitions

* `dottedName` - the name of a path.
* `IsBelow` - whether a parameter's name goes on behind another name and a point.

## Main statements

* `dottedName_injective` - different paths have different names.
* `isBelow_dottedName_iff` - which paths go on behind a name.
-/

namespace BalancerClient

open Text (glue pieces)

/-- The parts of a path with points between them. -/
def dottedName (path : List String) : String :=
  String.ofList (glue '.' (path.map String.toList))

/-- A part of a path holds no point. -/
def IsDotless (part : String) : Prop := '.' ∉ part.toList

instance (part : String) : Decidable (IsDotless part) :=
  inferInstanceAs (Decidable (¬ '.' ∈ part.toList))

@[simp] theorem toList_dottedName (path : List String) :
    (dottedName path).toList = glue '.' (path.map String.toList) := String.toList_ofList

@[simp] theorem dottedName_singleton (name : String) : dottedName [name] = name := by
  simp [dottedName, glue]

/-- A name is its first part, a point, and the name of what is left. -/
theorem toList_dottedName_cons {path : List String} (h : path ≠ []) (part : String) :
    (dottedName (part :: path)).toList = part.toList ++ '.' :: (dottedName path).toList := by
  cases path with
  | nil => exact absurd rfl h
  | cons q rest => simp [glue]

theorem dottedName_cons {path : List String} (h : path ≠ []) (part : String) :
    dottedName (part :: path) = part ++ "." ++ dottedName path := by
  apply String.toList_inj.1
  rw [toList_dottedName_cons h]
  simp

/-- The name of a path that goes on is the name of its start, a point, and the name of the
rest. -/
theorem toList_dottedName_append {path more : List String} (h : path ≠ []) (h' : more ≠ []) :
    (dottedName (path ++ more)).toList =
      (dottedName path).toList ++ '.' :: (dottedName more).toList := by
  induction path with
  | nil => exact absurd rfl h
  | cons part rest ih =>
    by_cases hrest : rest = []
    · rw [hrest, List.singleton_append, toList_dottedName_cons h', dottedName_singleton]
    · rw [List.cons_append, toList_dottedName_cons (by simp [hrest]),
        toList_dottedName_cons hrest, ih hrest, List.append_assoc, List.cons_append]

/-- Going one part further below a path. -/
theorem pathName_dottedName {path : List String} (h : path ≠ []) (part : String) :
    pathName (dottedName path) part = dottedName (path ++ [part]) := by
  apply String.toList_inj.1
  rw [toList_dottedName_append h (by simp), dottedName_singleton]
  simp [pathName]

/-- A name without points in its parts is cut into them again. -/
theorem pieces_dottedName {path : List String} (h : path ≠ [])
    (hdots : ∀ p ∈ path, IsDotless p) :
    pieces (· == '.') (dottedName path).toList = path.map String.toList := by
  rw [toList_dottedName]
  apply Text.pieces_glue (by decide)
  · simpa using h
  · intro piece hpiece c hc
    obtain ⟨part, hpart, rfl⟩ := List.mem_map.1 hpiece
    rw [beq_eq_false_iff_ne]
    intro hpoint
    subst hpoint
    exact hdots part hpart hc

/-- Different paths have different names. -/
theorem dottedName_injective {path path' : List String} (hne : path ≠ []) (hne' : path' ≠ [])
    (hdots : ∀ p ∈ path, IsDotless p) (hdots' : ∀ p ∈ path', IsDotless p)
    (h : dottedName path = dottedName path') : path = path' := by
  have hpieces := pieces_dottedName hne hdots
  rw [h, pieces_dottedName hne' hdots'] at hpieces
  have hinj : ∀ s t : String, s.toList = t.toList → s = t := by
    intro s t
    exact String.toList_inj.1
  exact ((List.map_inj_right hinj).1 hpieces).symm

/-! ## Names below a name -/

/-- A name goes on behind another name and a point. -/
def IsBelow (name below : String) : Prop := name.toList ++ ['.'] <+: below.toList

instance (name below : String) : Decidable (IsBelow name below) :=
  inferInstanceAs (Decidable (name.toList ++ ['.'] <+: below.toList))

theorem isBelow_dottedName_append {path more : List String} (h : path ≠ []) (h' : more ≠ []) :
    IsBelow (dottedName path) (dottedName (path ++ more)) := by
  refine ⟨(dottedName more).toList, ?_⟩
  rw [toList_dottedName_append h h', List.append_assoc, List.singleton_append]

/-- A path goes on behind the name of another path if it goes on behind that path. -/
theorem isBelow_dottedName_iff {path below : List String} (hne : path ≠ [])
    (hne' : below ≠ []) (hdots : ∀ p ∈ path, IsDotless p)
    (hdots' : ∀ p ∈ below, IsDotless p) :
    IsBelow (dottedName path) (dottedName below) ↔ ∃ more, more ≠ [] ∧
      below = path ++ more := by
  constructor
  · intro h
    obtain ⟨rest, hrest⟩ := h
    rw [List.append_assoc, List.singleton_append] at hrest
    have hpieces := pieces_dottedName hne' hdots'
    rw [← hrest, Text.pieces_append (by decide), pieces_dottedName hne hdots] at hpieces
    obtain ⟨start, more, hbelow, hstart, hmore⟩ := List.map_eq_append_iff.1 hpieces.symm
    obtain rfl : start = path := (List.map_inj_right fun _ _ => String.toList_inj.1).1 hstart
    refine ⟨more, ?_, hbelow⟩
    intro hnil
    rw [hnil, List.map_nil] at hmore
    exact Text.pieces_ne_nil _ rest hmore.symm
  · intro h
    obtain ⟨more, hmore, rfl⟩ := h
    exact isBelow_dottedName_append hne hmore

/-- A path goes on behind a name if the name is its first part and not its last. -/
theorem isBelow_dottedName {name : String} (hname : IsDotless name) {part : String}
    {path : List String} (hdots : ∀ p ∈ part :: path, IsDotless p) :
    IsBelow name (dottedName (part :: path)) ↔ part = name ∧ path ≠ [] := by
  have hiff := isBelow_dottedName_iff (List.cons_ne_nil name []) (List.cons_ne_nil part path)
    (by simpa using hname) hdots
  rw [dottedName_singleton] at hiff
  rw [hiff]
  constructor
  · intro h
    obtain ⟨more, hmore, hpath⟩ := h
    obtain ⟨rfl, rfl⟩ := List.cons.inj hpath
    exact ⟨rfl, hmore⟩
  · intro h
    obtain ⟨rfl, hpath⟩ := h
    exact ⟨path, hpath, rfl⟩

/-! ## Numbers of elements -/

theorem isDotless_toString (n : Nat) : IsDotless (toString n) := by
  intro hmem
  rw [Nat.toString_eq_repr, Nat.toList_repr] at hmem
  have hdigit := Nat.isDigit_of_mem_toDigits (b := 10) (n := n) (by decide) (by decide) hmem
  exact absurd hdigit (by decide)

theorem toString_nat_injective {m n : Nat} (h : toString m = toString n) : m = n := by
  have hdigits := congrArg String.toList h
  rw [Nat.toString_eq_repr, Nat.toString_eq_repr, Nat.toList_repr, Nat.toList_repr] at hdigits
  exact toDigits_injective hdigits

end BalancerClient
