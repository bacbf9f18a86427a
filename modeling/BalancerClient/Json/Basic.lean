import BalancerClient.Number.Shortest

/-!
# JSON values

The members of an object keep their order.  A number is an integer of 64 bits, signed or
unsigned, or a binary floating point number; integers beyond that range are not integers here.

## Main definitions

* `Number`, `Number.ofInt` - numbers, and the number of an integer.
* `Json` - values; `Json.nesting` counts how deep arrays and objects contain each other.
* `Json.member?` - the value of a member.
* `putMember` - sets a member of an object in place.
-/

namespace BalancerClient

/-- The integers that a JSON number can hold: those of 64 bits, signed or unsigned. -/
def IsWide (n : Int) : Prop := -0x8000000000000000 ≤ n ∧ n < 0x10000000000000000

instance (n : Int) : Decidable (IsWide n) := inferInstanceAs (Decidable (_ ∧ _))

/-- A JSON number. -/
inductive Number where
  /-- An integer of 64 bits, signed or unsigned. -/
  | int (value : Int) (wide : IsWide value)
  /-- Any other number. -/
  | float (value : Binary64)
  deriving DecidableEq, Repr

/-- The number of an integer, the nearest floating point number when it is too wide. -/
def Number.ofInt (n : Int) : Number :=
  if h : IsWide n then .int n h else .float ((Binary64.ofInt? n).getD (.zero (n < 0)))

theorem Number.ofInt_of_isWide {n : Int} (h : IsWide n) : Number.ofInt n = .int n h :=
  dif_pos h

/-- A JSON value. -/
inductive Json where
  | null
  | bool (value : Bool)
  | num (value : Number)
  | str (value : String)
  | arr (items : List Json)
  | obj (members : List (String × Json))
  deriving BEq, Repr, Inhabited

namespace Json

/-- The JSON number of an integer. -/
def int (n : Int) : Json := .num (.ofInt n)

/-- The JSON number of a natural number. -/
def nat (n : Nat) : Json := .int n

/-- A text, or null. -/
def optional (s : Option String) : Json := (s.map str).getD null

/-- Whether a value is null. -/
def isNull : Json → Bool
  | null => true
  | _ => false

/-- Whether a value is an array or an object. -/
def isStructured : Json → Bool
  | arr _ | obj _ => true
  | _ => false

mutual

/-- How deep arrays and objects contain each other: zero for anything else. -/
def nesting : Json → Nat
  | arr items => nestingItems items + 1
  | obj members => nestingMembers members + 1
  | _ => 0
termination_by structural v => v

/-- The deepest nesting of a list of values. -/
def nestingItems : List Json → Nat
  | [] => 0
  | v :: rest => max v.nesting (nestingItems rest)
termination_by structural vs => vs

/-- The deepest nesting of a list of members. -/
def nestingMembers : List (String × Json) → Nat
  | [] => 0
  | (_, v) :: rest => max v.nesting (nestingMembers rest)
termination_by structural ms => ms

end

/-- The value of a member of an object. -/
def member? (v : Json) (name : String) : Option Json :=
  match v with
  | obj members => members.lookup name
  | _ => none

end Json

/-- The members with one of them set: in its place if the name is there, else at the end. -/
def putMember (name : String) (v : Json) : List (String × Json) → List (String × Json)
  | [] => [(name, v)]
  | (n, w) :: rest => if n = name then (name, v) :: rest else (n, w) :: putMember name v rest

@[simp] theorem lookup_putMember_self (name : String) (v : Json) (ms : List (String × Json)) :
    (putMember name v ms).lookup name = some v := by
  induction ms with
  | nil => simp [putMember]
  | cons m rest ih =>
    obtain ⟨n, w⟩ := m
    by_cases h : n = name
    · simp [putMember, h]
    · simp [putMember, h, List.lookup_cons, beq_eq_false_iff_ne.2 (Ne.symm h), ih]

/-- Setting a member leaves the others as they are. -/
theorem lookup_putMember_of_ne {name n : String} (h : name ≠ n) (v : Json)
    (ms : List (String × Json)) : (putMember n v ms).lookup name = ms.lookup name := by
  induction ms with
  | nil => simp [putMember, List.lookup_cons, beq_eq_false_iff_ne.2 h]
  | cons m rest ih =>
    obtain ⟨k, w⟩ := m
    by_cases hk : k = n
    · subst hk
      simp [putMember, List.lookup_cons, beq_eq_false_iff_ne.2 h]
    · simp [putMember, hk, List.lookup_cons, ih]

/-- Setting a member adds its name at the end or not at all. -/
theorem map_fst_putMember (name : String) (v : Json) (ms : List (String × Json)) :
    (putMember name v ms).map Prod.fst =
      if name ∈ ms.map Prod.fst then ms.map Prod.fst else ms.map Prod.fst ++ [name] := by
  induction ms with
  | nil => simp [putMember]
  | cons m rest ih =>
    obtain ⟨n, w⟩ := m
    by_cases h : n = name
    · simp [putMember, h]
    · have h' : name ≠ n := Ne.symm h
      simp only [putMember, h, if_false, List.map_cons, ih, List.mem_cons, h', false_or]
      split <;> simp

end BalancerClient
