import BalancerClient.Proofs.Validation.Findings

/-!
# Where checks fail

The single checks of a tree stand at positions, and those that fail are found without running
the tree.  Running it reports them, one violation for each, in the order of the positions.

## Main definitions

* `Check.Fails`, `Check.FailsAt`, `Check.FailsIn` - a single check fails, and where in a tree
  it stands.
* `Check.Located` - a violation and the position of the check that reports it.
* `Check.located`, `Check.locatedAll` - the violations of a tree of checks, and of several,
  located.

## Main statements

* `Check.map_violation_located` - without the positions, these are the violations.
* `Check.mem_locatedAll_iff` - they are those of the single checks that fail.
* `Check.pairwise_locatedAll` - they are in the order of the positions.
-/

namespace BalancerClient

namespace Check

/-! ## Trees of checks -/

/-- Whether a check holds no other checks. -/
def isSingle : Check → Bool
  | nested _ (some _) | each _ (some _) => false
  | _ => true

section Induction

variable {motive : Check → Prop} (single : ∀ check : Check, check.isSingle = true →
  motive check)
  (nested : ∀ name checks, (∀ check ∈ checks, motive check) →
    motive (nested name (some checks)))
  (each : ∀ name elements, (∀ checks ∈ elements, ∀ check ∈ checks, motive check) →
    motive (each name (some elements)))

include single nested each

/-- Induction over trees of checks, by way of the checks in a node. -/
@[elab_as_elim] theorem induct (check : Check) : motive check := by
  refine @Check.rec motive (fun value => ∀ checks ∈ value, ∀ check ∈ checks, motive check)
    (fun value => ∀ elements ∈ value, ∀ checks ∈ elements, ∀ check ∈ checks, motive check)
    (fun checks => ∀ check ∈ checks, motive check)
    (fun elements => ∀ checks ∈ elements, ∀ check ∈ checks, motive check)
    (fun _ _ => single _ rfl) (fun _ _ _ => single _ rfl) (fun _ _ _ => single _ rfl)
    (fun _ _ _ _ => single _ rfl) (fun _ _ _ => single _ rfl) (fun _ _ _ => single _ rfl)
    (fun _ _ _ => single _ rfl) ?nested ?each ?unset ?set ?unsetList ?setList ?noCheck
      ?check ?noElement
    ?element check
  case nested =>
    intro name value h
    cases value with
    | none => exact single _ rfl
    | some checks => exact nested name checks (h checks rfl)
  case each =>
    intro name value h
    cases value with
    | none => exact single _ rfl
    | some elements => exact each name elements (h elements rfl)
  case unset => simp
  case set =>
    intro checks h
    simpa using h
  case unsetList => simp
  case setList =>
    intro elements h
    simpa using h
  case noCheck => simp
  case check =>
    intro check rest hcheck hrest
    exact List.forall_mem_cons.2 ⟨hcheck, hrest⟩
  case noElement => simp
  case element =>
    intro checks rest hchecks hrest
    exact List.forall_mem_cons.2 ⟨hchecks, hrest⟩

end Induction

/-! ## Checks that fail -/

/-- A check of a single field fails, and what is wrong then. -/
inductive Fails : Check → (name description : String) → Prop where
  | required {name : String} : Fails (required name false) name "field is required"
  | maxLength {name s : String} {max : Nat} (h : max < s.length) :
    Fails (maxLength name (some s) max) name (tooLong s.length max)
  | minLength {name s : String} {min : Nat} (h : s.length < min) :
    Fails (minLength name (some s) min) name (tooShort s.length min)
  | range {name : String} {n min max : Int} (h : n < min ∨ max < n) :
    Fails (range name (some n) min max) name (outside n min max)
  | oneOf {name s : String} {allowed : List String} (h : s ∉ allowed) :
    Fails (oneOf name (some s) allowed) name (notAllowed s allowed)
  | maxItems {name : String} {count max : Nat} (h : max < count) :
    Fails (maxItems name (some count) max) name (tooMany count max)
  | minItems {name : String} {count min : Nat} (h : count < min) :
    Fails (minItems name (some count) min) name (tooFew count min)

/-- A single check somewhere in a tree fails: its position, the way to its field, and what is
wrong.  The position counts from 0, the element of a list first and then the check among those
of the element; the way consists of the names of fields and, from 1 on, the numbers of
elements. -/
inductive FailsAt : Check → List Nat → List String → (description : String) → Prop where
  | single {check : Check} {name description : String} (h : check.Fails name description) :
    FailsAt check [] [name] description
  | nested {name description : String} {checks : List Check} {i : Nat} {check : Check}
      {position : List Nat} {way : List String} (hcheck : checks[i]? = some check)
      (h : FailsAt check position way description) :
    FailsAt (nested name (some checks)) (i :: position) (name :: way) description
  | each {name description : String} {elements : List (List Check)}
      {checks : List Check} {j i : Nat}
      {check : Check} {position : List Nat} {way : List String}
        (helement : elements[j]? = some checks)
      (hcheck : checks[i]? = some check) (h : FailsAt check position way description) :
    FailsAt (each name (some elements)) (j :: i :: position) (name :: toString (j + 1) ::
      way) description

/-- A single check somewhere in a list of trees fails; the position starts with the place in
the list. -/
inductive FailsIn (checks : List Check) :
    List Nat → List String → (description : String) → Prop where
  | intro {i : Nat} {check : Check} {position : List Nat} {way : List String}
      {description : String}
      (hcheck : checks[i]? = some check) (h : check.FailsAt position way description) :
    FailsIn checks (i :: position) way description

theorem failsAt_of_isSingle {check : Check} (h : check.isSingle = true) {position : List Nat}
    {way : List String} {description : String} :
    check.FailsAt position way description ↔
      ∃ name, check.Fails name description ∧ position = [] ∧ way = [name] := by
  constructor
  · intro hfails
    cases hfails with
    | single hfails => exact ⟨_, hfails, rfl, rfl⟩
    | nested => cases h
    | each => cases h
  · intro hfails
    obtain ⟨name, hfails, rfl, rfl⟩ := hfails
    exact .single hfails

theorem failsAt_nested {name : String} {checks : List Check} {position : List Nat}
    {way : List String} {description : String} :
    (nested name (some checks)).FailsAt position way description ↔
      ∃ inner, way = name :: inner ∧ FailsIn checks position inner description := by
  constructor
  · intro hfails
    cases hfails with
    | single hfails => cases hfails
    | nested hcheck h => exact ⟨_, rfl, .intro hcheck h⟩
  · intro hfails
    obtain ⟨inner, rfl, hcheck, h⟩ := hfails
    exact .nested hcheck h

theorem failsAt_each {name : String} {elements : List (List Check)} {position : List Nat}
    {way : List String} {description : String} :
    (each name (some elements)).FailsAt position way description ↔
      ∃ j checks rest inner, elements[j]? = some checks ∧ position = j :: rest ∧
        way = name :: toString (j + 1) :: inner ∧ FailsIn checks rest inner description := by
  constructor
  · intro hfails
    cases hfails with
    | single hfails => cases hfails
    | each helement hcheck h => exact ⟨_, _, _, _, helement, rfl, rfl, .intro hcheck h⟩
  · intro hfails
    obtain ⟨j, checks, rest, inner, helement, rfl, rfl, hcheck, h⟩ := hfails
    exact .each helement hcheck h

/-- A bound on a value that may be unset is broken by a value beyond it. -/
theorem bind_ite_eq_some {α : Type} {value : Option α} {p : α → Prop} [DecidablePred p]
    {text : α → String} {description : String} :
    (value.bind fun a => if p a then some (text a) else none) = some description ↔
      ∃ a, value = some a ∧ p a ∧ description = text a := by
  cases value with
  | none => simp
  | some a => simp [eq_comm]

/-- A single check reports its field if it fails, and nothing otherwise. -/
theorem exists_run_eq_report {check : Check} (h : check.isSingle = true) :
    ∃ name fault, (∀ path, check.run path = report path name fault) ∧
      ∀ name' description, check.Fails name' description ↔ name' = name ∧
        fault = some description := by
  cases check with
  | nested name value =>
    cases value with
    | none => exact ⟨name, none, fun _ => rfl, by grind [Fails]⟩
    | some checks => cases h
  | each name value =>
    cases value with
    | none => exact ⟨name, none, fun _ => rfl, by grind [Fails]⟩
    | some elements => cases h
  | required name isSet => exact ⟨name, _, fun _ => rfl, by grind [Fails]⟩
  | oneOf name value allowed =>
    refine ⟨name, _, fun _ => rfl, ?_⟩
    simp only [← ite_not (_ ∈ allowed), bind_ite_eq_some]
    grind [Fails]
  | maxLength name | minLength name | range name | maxItems name | minItems name =>
    refine ⟨name, _, fun _ => rfl, ?_⟩
    simp only [bind_ite_eq_some]
    grind [Fails]

/-! ## Violations and their positions -/

/-- A violation, and the position of the single check that reports it. -/
structure Located where
  position : List Nat
  violation : Violation

namespace Located

/-- The same violation, seen from one level above. -/
def under (i : Nat) (l : Located) : Located := { l with position := i :: l.position }

/-- A violation stands before another one in the tree. -/
def Precedes (l l' : Located) : Prop := l.position < l'.position

end Located

mutual

/-- The violations of a check, with their positions. -/
def located (path : String) : Check → List Located
  | nested name (some checks) => locatedAll (path ++ name ++ ".") 0 checks
  | each name (some elements) => locatedElements (path ++ name ++ ".") 0 elements
  | single => (single.run path).map (⟨[], ·⟩)
termination_by structural check => check

/-- The violations of checks, with their positions; the first check has the given place. -/
def locatedAll (path : String) (i : Nat) : List Check → List Located
  | [] => []
  | check :: rest => (check.located path).map (.under i) ++ locatedAll path (i + 1) rest
termination_by structural checks => checks

/-- The violations of the elements of a list, with their positions; the first element has the
given place. -/
def locatedElements (path : String) (j : Nat) : List (List Check) → List Located
  | [] => []
  | checks :: rest =>
    (locatedAll (path ++ toString (j + 1) ++ ".") 0 checks).map (.under j) ++
      locatedElements path (j + 1) rest
termination_by structural elements => elements

end

section Spread

variable {α : Type} {f : Nat → α → List Located}

/-- What is found in the items of a list, each below its place; the first item has the given
place. -/
def spread (f : Nat → α → List Located) (i : Nat) : List α → List Located
  | [] => []
  | a :: rest => (f i a).map (.under i) ++ spread f (i + 1) rest

theorem mem_spread {l : Located} {as : List α} {i : Nat} :
    l ∈ spread f i as ↔
      ∃ (k : Nat) (a : α), as[k]? = some a ∧ ∃ l' ∈ f (i + k) a, l = l'.under (i + k) := by
  induction as generalizing i with
  | nil => simp [spread]
  | cons a rest ih =>
    rw [spread, List.mem_append, List.mem_map, ih]
    constructor
    · intro hmem
      rcases hmem with ⟨l', hl', rfl⟩ | ⟨k, b, hb, l', hl', rfl⟩
      · exact ⟨0, a, rfl, l', hl', rfl⟩
      · refine ⟨k + 1, b, by simpa using hb, l', ?_, ?_⟩
        · rwa [Nat.add_comm k, ← Nat.add_assoc]
        · rw [Nat.add_comm k, ← Nat.add_assoc]
    · intro hmem
      obtain ⟨k, b, hb, l', hl', rfl⟩ := hmem
      cases k with
      | zero =>
        obtain rfl : a = b := by simpa using hb
        exact .inl ⟨l', hl', rfl⟩
      | succ k =>
        refine .inr ⟨k, b, by simpa using hb, l', ?_, ?_⟩
        · rwa [Nat.add_assoc, Nat.add_comm 1 k]
        · rw [Nat.add_assoc, Nat.add_comm 1 k]

/-- Items in their order, with what is found in each of them in its order. -/
theorem pairwise_spread {as : List α} (h : ∀ a ∈ as, ∀ i, (f i a).Pairwise Located.Precedes)
    (i : Nat) : (spread f i as).Pairwise Located.Precedes := by
  induction as generalizing i with
  | nil => exact .nil
  | cons a rest ih =>
    rw [spread, List.pairwise_append]
    refine ⟨?_, ih (fun b hb => h b (List.mem_cons_of_mem _ hb)) _, ?_⟩
    · rw [List.pairwise_map]
      refine (h a List.mem_cons_self i).imp ?_
      intro l l' hl
      exact List.cons_lt_cons_iff.2 (.inr ⟨rfl, hl⟩)
    · intro l hl l' hl'
      obtain ⟨m, -, rfl⟩ := List.mem_map.1 hl
      obtain ⟨k, b, -, m', -, rfl⟩ := mem_spread.1 hl'
      exact List.cons_lt_cons_iff.2 (.inl (by omega))

end Spread

theorem locatedAll_eq_spread (path : String) (i : Nat) (checks : List Check) :
    locatedAll path i checks = spread (fun _ => located path) i checks := by
  induction checks generalizing i with
  | nil => rfl
  | cons check rest ih => rw [locatedAll, ih, spread]

theorem locatedElements_eq_spread (path : String) (j : Nat) (elements : List (List Check)) :
    locatedElements path j elements =
      spread (fun j => locatedAll (path ++ toString (j + 1) ++ ".") 0) j elements := by
  induction elements generalizing j with
  | nil => rfl
  | cons checks rest ih => rw [locatedElements, ih, spread]

theorem located_of_isSingle {check : Check} (h : check.isSingle = true) (path : String) :
    check.located path = (check.run path).map (⟨[], ·⟩) := by
  cases check with
  | nested name value => cases value <;> first | rfl | cases h
  | each name value => cases value <;> first | rfl | cases h
  | _ => rfl

/-! ### Without the positions -/

theorem map_violation_locatedAll {checks : List Check}
    (h : ∀ check ∈ checks, ∀ path, (check.located path).map Located.violation =
      check.run path)
    (path : String) (i : Nat) :
    (locatedAll path i checks).map Located.violation = runAll path checks := by
  induction checks generalizing i with
  | nil => rfl
  | cons check rest ih =>
    obtain ⟨hcheck, hrest⟩ := List.forall_mem_cons.1 h
    rw [locatedAll, runAll, List.map_append, List.map_map, ih hrest, ← hcheck path]
    rfl

theorem map_violation_locatedElements {elements : List (List Check)}
    (h : ∀ checks ∈ elements, ∀ check ∈ checks, ∀ path,
      (check.located path).map Located.violation = check.run path) (path : String) (j : Nat) :
    (locatedElements path j elements).map Located.violation =
      runElements path (j + 1) elements := by
  induction elements generalizing j with
  | nil => rfl
  | cons checks rest ih =>
    obtain ⟨hchecks, hrest⟩ := List.forall_mem_cons.1 h
    rw [locatedElements, runElements, List.map_append, List.map_map, ih hrest,
      ← map_violation_locatedAll hchecks _ 0]
    rfl

/-- Without the positions, these are the violations of a check. -/
theorem map_violation_located (check : Check) :
    ∀ path, (check.located path).map Located.violation = check.run path := by
  induction check using induct with
  | single check h =>
    intro path
    rw [located_of_isSingle h, List.map_map]
    exact List.map_id _
  | nested name checks ih =>
    intro path
    exact map_violation_locatedAll ih _ 0
  | each name elements ih =>
    intro path
    exact map_violation_locatedElements ih _ 0

/-! ### Which violations there are -/

theorem FailsAt.way_ne_nil {check : Check} {position : List Nat} {way : List String}
    {description : String} (h : check.FailsAt position way description) : way ≠ [] := by
  cases h <;> exact List.cons_ne_nil _ _

theorem FailsIn.way_ne_nil {checks : List Check} {position : List Nat} {way : List String}
    {description : String} (h : FailsIn checks position way description) : way ≠ [] := by
  cases h with
  | intro _ h => exact h.way_ne_nil

/-- What is located in a check are its single checks that fail. -/
def LocatesFailures (check : Check) : Prop :=
  ∀ path l, l ∈ check.located path ↔ ∃ way description,
    check.FailsAt l.position way description ∧ l.violation =
      ⟨path ++ dottedName way, description⟩

theorem mem_locatedAll_of_forall {checks : List Check}
    (h : ∀ check ∈ checks, check.LocatesFailures)
    (path : String) (l : Located) :
    l ∈ locatedAll path 0 checks ↔ ∃ way description,
      FailsIn checks l.position way description ∧
        l.violation = ⟨path ++ dottedName way, description⟩ := by
  rw [locatedAll_eq_spread, mem_spread]
  constructor
  · intro hmem
    obtain ⟨i, check, hcheck, l', hl', rfl⟩ := hmem
    obtain ⟨way, description, hfails, hviolation⟩ :=
      (h check (List.mem_of_getElem? hcheck) path l').1 hl'
    refine ⟨way, description, ?_, hviolation⟩
    rw [Nat.zero_add]
    exact .intro hcheck hfails
  · intro hfails
    obtain ⟨position, violation⟩ := l
    obtain ⟨way, description, ⟨hcheck, hfails⟩, hviolation⟩ := hfails
    have hmem := (h _ (List.mem_of_getElem? hcheck) path ⟨_, violation⟩).2
      ⟨way, description, hfails, hviolation⟩
    exact ⟨_, _, hcheck, _, hmem, by rw [Nat.zero_add]; rfl⟩

theorem append_dottedName_cons {way : List String} (h : way ≠ []) (path part : String) :
    path ++ dottedName (part :: way) = path ++ part ++ "." ++ dottedName way := by
  rw [dottedName_cons h]
  simp only [String.append_assoc]

/-- What is located in a tree of checks are the single checks in it that fail. -/
theorem locatesFailures (check : Check) : check.LocatesFailures := by
  induction check using induct with
  | single check h =>
    intro path l
    obtain ⟨name, fault, hrun, hfault⟩ := exists_run_eq_report h
    rw [located_of_isSingle h, hrun, report]
    constructor
    · intro hmem
      obtain ⟨v, hv, rfl⟩ := List.mem_map.1 hmem
      obtain ⟨description, hdescription, rfl⟩ :=
        Option.map_eq_some_iff.1 (Option.mem_toList.1 hv)
      refine ⟨[name], description, .single ((hfault _ _).2 ⟨rfl, hdescription⟩), ?_⟩
      rw [dottedName_singleton]
    · intro hfails
      obtain ⟨position, violation⟩ := l
      obtain ⟨way, description, hat, rfl⟩ := hfails
      obtain ⟨name', hsingle, rfl, rfl⟩ := (failsAt_of_isSingle h).1 hat
      obtain ⟨rfl, rfl⟩ := (hfault _ _).1 hsingle
      simp
  | nested name checks ih =>
    intro path l
    rw [located, mem_locatedAll_of_forall ih]
    constructor
    · intro hfails
      obtain ⟨way, description, hfails, hviolation⟩ := hfails
      refine ⟨name :: way, description, failsAt_nested.2 ⟨way, rfl, hfails⟩, ?_⟩
      rw [hviolation, append_dottedName_cons hfails.way_ne_nil]
    · intro hfails
      obtain ⟨_, description, hat, hviolation⟩ := hfails
      obtain ⟨way, rfl, hfails⟩ := failsAt_nested.1 hat
      refine ⟨way, description, hfails, ?_⟩
      rw [hviolation, append_dottedName_cons hfails.way_ne_nil]
  | each name elements ih =>
    intro path l
    rw [located, locatedElements_eq_spread, mem_spread]
    constructor
    · intro hmem
      obtain ⟨j, checks, hchecks, l', hl', rfl⟩ := hmem
      obtain ⟨way, description, hfails, hviolation⟩ :=
        (mem_locatedAll_of_forall (ih checks (List.mem_of_getElem? hchecks)) _ l').1 hl'
      refine ⟨name :: toString (j + 1) :: way, description, ?_, ?_⟩
      · exact failsAt_each.2 ⟨j, checks, _, way, hchecks, by rw [Nat.zero_add]; rfl,
          rfl, hfails⟩
      · rw [append_dottedName_cons (List.cons_ne_nil _ _),
          append_dottedName_cons hfails.way_ne_nil, ← Nat.zero_add j]
        exact hviolation
    · intro hfails
      obtain ⟨position, violation⟩ := l
      obtain ⟨_, description, hat, hviolation⟩ := hfails
      obtain ⟨j, checks, rest, way, hchecks, hposition, rfl, hfails⟩ := failsAt_each.1 hat
      obtain rfl : position = j :: rest := hposition
      rw [append_dottedName_cons (List.cons_ne_nil _ _),
        append_dottedName_cons hfails.way_ne_nil] at hviolation
      refine ⟨j, checks, hchecks, ⟨rest, violation⟩, ?_, by rw [Nat.zero_add]; rfl⟩
      rw [Nat.zero_add]
      exact (mem_locatedAll_of_forall (ih checks (List.mem_of_getElem? hchecks)) _ _).2
        ⟨way, description, hfails, hviolation⟩

/-- What is located in a list of checks are the single checks in it that fail. -/
theorem mem_locatedAll_iff (path : String) (checks : List Check) (l : Located) :
    l ∈ locatedAll path 0 checks ↔ ∃ way description,
      FailsIn checks l.position way description ∧
        l.violation = ⟨path ++ dottedName way, description⟩ :=
  mem_locatedAll_of_forall (fun check _ => locatesFailures check) path l

/-! ### In which order they are -/

/-- The violations of a tree of checks are in the order of their positions. -/
theorem pairwise_located (check : Check) :
    ∀ path, (check.located path).Pairwise Located.Precedes := by
  induction check using induct with
  | single check h =>
    intro path
    obtain ⟨name, fault, hrun, -⟩ := exists_run_eq_report h
    rw [located_of_isSingle h, hrun, report]
    cases fault with
    | none => exact .nil
    | some description => exact List.pairwise_singleton _ _
  | nested name checks ih =>
    intro path
    rw [located, locatedAll_eq_spread]
    exact pairwise_spread (fun check hcheck _ => ih check hcheck _) 0
  | each name elements ih =>
    intro path
    rw [located, locatedElements_eq_spread]
    refine pairwise_spread ?_ 0
    intro checks hchecks j
    rw [locatedAll_eq_spread]
    exact pairwise_spread (fun check hcheck _ => ih checks hchecks check hcheck _) 0

theorem pairwise_locatedAll (path : String) (checks : List Check) :
    (locatedAll path 0 checks).Pairwise Located.Precedes := by
  rw [locatedAll_eq_spread]
  exact pairwise_spread (fun check _ _ => pairwise_located check path) 0

/-- There are violations if and only if a single check fails. -/
theorem runAll_ne_nil_iff (path : String) (checks : List Check) :
    runAll path checks ≠ [] ↔ ∃ position way description,
      FailsIn checks position way description := by
  rw [← map_violation_locatedAll (fun check _ => map_violation_located check) path 0, ne_eq,
    List.map_eq_nil_iff]
  constructor
  · intro hne
    obtain ⟨l, hl⟩ := List.exists_mem_of_ne_nil _ hne
    obtain ⟨way, description, hfails, -⟩ := (mem_locatedAll_iff path checks l).1 hl
    exact ⟨_, way, description, hfails⟩
  · intro hfails
    obtain ⟨position, way, description, hfails⟩ := hfails
    have hmem := (mem_locatedAll_iff path checks ⟨position, _⟩).2 ⟨way, description,
        hfails, rfl⟩
    exact List.ne_nil_of_mem hmem

end Check

end BalancerClient
