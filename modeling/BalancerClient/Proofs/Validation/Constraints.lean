import BalancerClient.Catalog.Operations
import BalancerClient.Proofs.Message.Slots
import BalancerClient.Proofs.Validation.Findings

/-!
# What a message has to keep

Every field declares rules, and so do the fields of the messages inside a message.  Each rule
in each place is one constraint.  Constraints have positions: the number of the field, the
number of the rule in the field, and behind the rules of a field what is in the messages that
the field holds.  In the order of positions the fields and their rules are as declared, and
the elements of a list are in their order.  Validation reports exactly the constraints that
are not kept, in this order.

## Main definitions

* `Rule.IsKept` - a field that may be unset keeps a rule.
* `Constraint`, `Shape.Imposes` - a rule in a place, and those of a message.
* `Shape.constraints`, `Shape.broken` - all of them, and those that are not kept, in the order
  of their positions.

## Main statements

* `Shape.mem_constraints_iff`, `Shape.pairwise_constraints` - the list holds what a message
  imposes, in order.
* `Shape.report_findings` - the findings in a message are the constraints that are not kept.
* `Operation.validate_decided` - what validation makes of a request.
-/

namespace BalancerClient

/-! ## Rules -/

namespace Rule

/-- A field that may be unset keeps a rule.  Bounds are inclusive, and a text counts its
characters. -/
def IsKept : Rule → Option Facet → Prop
  | .required, value => value ≠ none
  | .minLength min, value => ∀ s, value = some (.text s) → min ≤ s.length
  | .maxLength max, value => ∀ s, value = some (.text s) → s.length ≤ max
  | .oneOf allowed, value => ∀ s, value = some (.text s) → s ∈ allowed
  | .range min max, value => ∀ n, value = some (.integer n) → min ≤ n ∧ n ≤ max
  | .minItems min, value => ∀ count, value = some (.items count) → min ≤ count
  | .maxItems max, value => ∀ count, value = some (.items count) → count ≤ max

/-- A rule is kept if and only if there is no breach of it. -/
theorem isKept_iff {rule : Rule} {value : Option Facet} :
    rule.IsKept value ↔ rule.breach? value = none := by
  cases rule <;> rcases value with _ | ⟨s | n | count | _⟩ <;> grind [IsKept, breach?]

instance (rule : Rule) (value : Option Facet) : Decidable (rule.IsKept value) :=
  decidable_of_iff _ isKept_iff.symm

/-- A value, if there is one, is of the kind that a rule is about. -/
def Concerns : Rule → Option Facet → Prop
  | .required, _ => True
  | .minLength _, value | .maxLength _, value | .oneOf _, value =>
    ∀ facet, value = some facet → ∃ s, facet = .text s
  | .range _ _, value => ∀ facet, value = some facet → ∃ n, facet = .integer n
  | .minItems _, value | .maxItems _, value =>
    ∀ facet, value = some facet → ∃ count, facet = .items count

/-- Whether the values of a type are of the kind that a rule is about. -/
def suits : Rule → FieldType → Bool
  | .required, _ => true
  | .minLength _, .text | .maxLength _, .text | .oneOf _, .text => true
  | .range _ _, .int32 | .range _ _, .int64 => true
  | .minItems _, .list _ | .maxItems _, .list _ => true
  | _, _ => false

theorem concerns_of_suits {rule : Rule} {type : FieldType} (h : rule.suits type = true)
    (v : Option type.Value) : rule.Concerns (v.map type.facet) := by
  have hfacet : ∀ {p : Facet → Prop}, (∀ value, p (type.facet value)) →
      ∀ facet, v.map type.facet = some facet → p facet := by
    intro p hp facet heq
    obtain ⟨value, -, rfl⟩ := Option.map_eq_some_iff.1 heq
    exact hp value
  cases rule with
  | required => trivial
  | minLength | maxLength | oneOf =>
    cases type with
    | text => exact hfacet fun _ => ⟨_, rfl⟩
    | _ => cases h
  | range =>
    cases type with
    | int32 | int64 => exact hfacet fun _ => ⟨_, rfl⟩
    | _ => cases h
  | minItems | maxItems =>
    cases type with
    | list => exact hfacet fun _ => ⟨_, rfl⟩
    | _ => cases h

end Rule

/-! ## Constraints -/

/-- A rule in a place of a message: its position, the way to the field, and the value of the
field. -/
structure Constraint where
  position : List Nat
  way : List String
  rule : Rule
  value : Option Facet

namespace Constraint

/-- The value of the field keeps the rule. -/
def IsKept (c : Constraint) : Prop := c.rule.IsKept c.value

instance (c : Constraint) : Decidable c.IsKept :=
  inferInstanceAs (Decidable (c.rule.IsKept c.value))

/-- A constraint stands before another one. -/
def Precedes (c c' : Constraint) : Prop := c.position < c'.position

/-- The same constraint, seen from further above. -/
def under (position : List Nat) (way : List String) (c : Constraint) : Constraint :=
  { c with position := position ++ c.position, way := way ++ c.way }

/-- The same constraint, with one more field before it. -/
def after (c : Constraint) : Constraint :=
  { c with position := c.position.modifyHead (· + 1) }

/-- The way to the field, and the breach, if the rule is not kept. -/
def report? (c : Constraint) : Option (List String × Breach) :=
  (c.rule.breach? c.value).map (c.way, ·)

/-- The name of the field, and what is wrong with it. -/
def violation (c : Constraint) : Violation :=
  ⟨dottedName c.way, ((c.rule.breach? c.value).map Breach.description).getD ""⟩

end Constraint

/-- A message imposes a constraint: by a rule of one of its fields, or by the message in a
field or a message in a list, behind the rules of the field. -/
inductive Shape.Imposes : {shape : Shape} → shape.Values → Constraint → Prop where
  | rule {shape : Shape} {m : shape.Values} {type : FieldType}
      (slot : Slot shape type) {k : Nat}
      {rule : Rule} (hrule : slot.field.rules[k]? = some rule) :
    Imposes m ⟨[slot.index, k], [slot.field.wire], rule, (slot.get m).map type.facet⟩
  | nested {shape inner : Shape} {m : shape.Values} {name : String}
      (slot : Slot shape (.message name inner)) {v : inner.Values}
        (hset : slot.get m = some v)
      {c : Constraint} (h : Imposes v c) :
    Imposes m (c.under [slot.index, slot.field.rules.length] [slot.field.wire])
  | element {shape inner : Shape} {m : shape.Values} {name : String}
      (slot : Slot shape (.list (.message name inner))) {vs : List inner.Values}
      (hset : slot.get m = some vs) {j : Nat} {v : inner.Values} (helement : vs[j]? = some v)
      {c : Constraint} (h : Imposes v c) :
    Imposes m (c.under [slot.index, slot.field.rules.length, j] [slot.field.wire,
      toString (j + 1)])

mutual

/-- The constraints of the messages that a value holds. -/
def FieldType.constraints : (type : FieldType) → type.Value → List Constraint
  | .message _ shape, m => shape.constraints m
  | .list (.message _ shape), ms =>
    ms.zipIdx.flatMap fun (m, j) => (shape.constraints m).map (.under [j] [toString (j + 1)])
  | _, _ => []
termination_by structural type => type

/-- The constraints of a message, in the order of their positions. -/
def Shape.constraints : (shape : Shape) → shape.Values → List Constraint
  | .nil, _ => []
  | .cons field type rest, (v, m) =>
    field.rules.zipIdx.map (fun (rule, k) => ⟨[0, k], [field.wire], rule,
      v.map type.facet⟩) ++
      ((v.toList.flatMap type.constraints).map (.under [0,
        field.rules.length] [field.wire]) ++ (rest.constraints m).map .after)
termination_by structural shape => shape

end

/-! ### The list holds what a message imposes -/

theorem FieldType.mem_constraints_list {name : String} {shape : Shape}
    {ms : List shape.Values} {c : Constraint} :
    c ∈ (FieldType.list (.message name shape)).constraints ms ↔
      ∃ (j : Nat) (m : shape.Values), ms[j]? = some m ∧ ∃ c' ∈ shape.constraints m,
        c = c'.under [j] [toString (j + 1)] := by
  simp only [constraints, List.mem_flatMap, List.mem_map, Prod.exists,
    List.mem_zipIdx_iff_getElem?]
  grind

namespace Shape

/-- The constraints of a message come from its fields: from the rules, and from what the
fields hold. -/
theorem mem_constraints_iff_slot {c : Constraint} : ∀ {shape : Shape} {m : shape.Values},
    c ∈ shape.constraints m ↔ ∃ (type : FieldType) (slot : Slot shape type),
      (∃ (k : Nat) (rule : Rule), slot.field.rules[k]? = some rule ∧
        c = ⟨[slot.index, k], [slot.field.wire], rule, (slot.get m).map type.facet⟩) ∨
      ∃ (v : type.Value), slot.get m = some v ∧ ∃ c' ∈ type.constraints v,
        c = c'.under [slot.index, slot.field.rules.length] [slot.field.wire]
  | .nil, _ => by
    constructor
    · intro hmem
      exact absurd hmem List.not_mem_nil
    · intro hslot
      obtain ⟨_, slot, -⟩ := hslot
      nomatch slot
  | .cons field type rest, (v, m) => by
    have hrest : ∀ c, c ∈ rest.constraints m ↔ _ := fun c => mem_constraints_iff_slot (c := c)
    rw [constraints, List.mem_append, List.mem_append, List.mem_map, List.mem_map,
      List.mem_map]
    constructor
    · intro hmem
      rcases hmem with ⟨⟨rule, k⟩, hrule, rfl⟩ | ⟨c', hc', rfl⟩ | ⟨c', hc', rfl⟩
      · exact ⟨type, .here, .inl ⟨k, rule, List.mem_zipIdx_iff_getElem?.1 hrule, rfl⟩⟩
      · obtain ⟨value, hvalue, hc'⟩ := List.mem_flatMap.1 hc'
        exact ⟨type, .here, .inr ⟨value, Option.mem_toList.1 hvalue, c', hc', rfl⟩⟩
      · obtain ⟨type', slot, ⟨k, rule, hrule, rfl⟩ | ⟨value, hvalue, c'', hc'', rfl⟩⟩ :=
          (hrest c').1 hc'
        · exact ⟨type', .there slot, .inl ⟨k, rule, hrule, rfl⟩⟩
        · exact ⟨type', .there slot, .inr ⟨value, hvalue, c'', hc'', rfl⟩⟩
    · intro hslot
      obtain ⟨type', slot, hslot⟩ := hslot
      cases slot with
      | here =>
        rcases hslot with ⟨k, rule, hrule, rfl⟩ | ⟨value, hvalue, c', hc', rfl⟩
        · exact .inl ⟨(rule, k), List.mem_zipIdx_iff_getElem?.2 hrule, rfl⟩
        · refine .inr (.inl ⟨c', List.mem_flatMap.2 ⟨value, Option.mem_toList.2 hvalue, hc'⟩,
            rfl⟩)
      | there slot =>
        rcases hslot with ⟨k, rule, hrule, rfl⟩ | ⟨value, hvalue, c', hc', rfl⟩
        · exact .inr (.inr ⟨_, (hrest _).2 ⟨type', slot, .inl ⟨k, rule, hrule, rfl⟩⟩, rfl⟩)
        · exact .inr (.inr ⟨_, (hrest _).2 ⟨type', slot, .inr ⟨value, hvalue, c', hc', rfl⟩⟩,
            rfl⟩)

/-- A message imposes the constraints in its list, and no others. -/
theorem mem_constraints_iff {shape : Shape} {m : shape.Values} {c : Constraint} :
    c ∈ shape.constraints m ↔ Imposes m c := by
  constructor
  · induction shape using Shape.induct generalizing c with
    | step shape hnested helement =>
      intro hc
      obtain ⟨type, slot, ⟨k, rule, hrule, rfl⟩ | ⟨v, hset, c', hc', rfl⟩⟩ :=
        mem_constraints_iff_slot.1 hc
      · exact .rule slot hrule
      · cases type with
        | message name inner => exact .nested slot hset (hnested name inner slot hc')
        | list item =>
          cases item with
          | message name inner =>
            obtain ⟨j, v, hv, c'', hc'', rfl⟩ := FieldType.mem_constraints_list.1 hc'
            exact .element slot hset hv (helement name inner slot hc'')
          | _ => cases hc'
        | _ => cases hc'
  · intro h
    induction h with
    | rule slot hrule => exact mem_constraints_iff_slot.2 ⟨_, slot, .inl ⟨_, _, hrule, rfl⟩⟩
    | nested slot hset h ih =>
      exact mem_constraints_iff_slot.2 ⟨_, slot, .inr ⟨_, hset, _, ih, rfl⟩⟩
    | @element shape inner m name slot vs hset j v helement c h ih =>
      have hmem : c.under [j] [toString (j + 1)] ∈
          (FieldType.list (.message name inner)).constraints vs :=
        FieldType.mem_constraints_list.2 ⟨j, v, helement, c, ih, rfl⟩
      exact mem_constraints_iff_slot.2 ⟨_, slot, .inr ⟨_, hset, _, hmem, rfl⟩⟩

end Shape

/-! ### The list is in the order of positions -/

namespace Constraint

variable {c c' : Constraint}

theorem precedes_under {position : List Nat} {way : List String} (h : c.Precedes c') :
    (c.under position way).Precedes (c'.under position way) := by
  simp only [Precedes, under]
  induction position with
  | nil => exact h
  | cons i rest ih => exact List.cons_lt_cons_iff.2 (.inr ⟨rfl, ih⟩)

theorem precedes_after (h : c.Precedes c') : c.after.Precedes c'.after := by
  simp only [Precedes, after] at h ⊢
  cases hp' : c'.position with
  | nil =>
    rw [hp'] at h
    exact absurd h (List.not_lt_nil _)
  | cons i' rest' =>
    rw [hp'] at h
    cases hp : c.position with
    | nil => exact List.nil_lt_cons _ _
    | cons i rest =>
      rw [hp, List.cons_lt_cons_iff] at h
      exact List.cons_lt_cons_iff.2
        (h.imp Nat.succ_lt_succ (And.imp_left (congrArg Nat.succ)))

end Constraint

/-- The elements of a list are numbered in increasing order. -/
theorem pairwise_zipIdx_snd {α : Type} (l : List α) :
    l.zipIdx.Pairwise fun a b => a.2 < b.2 := by
  have hsnd : (l.zipIdx.map Prod.snd).Pairwise (· < ·) := by
    rw [List.zipIdx_map_snd]
    exact List.pairwise_lt_range'
  exact List.pairwise_map.1 hsnd

/-- The constraints in the messages of a list are in order if those in each of the messages
are. -/
theorem FieldType.pairwise_constraints_list {name : String} {shape : Shape}
    {ms : List shape.Values}
    (h : ∀ m : shape.Values, (shape.constraints m).Pairwise Constraint.Precedes) :
    ((FieldType.list (.message name shape)).constraints ms).Pairwise Constraint.Precedes := by
  rw [constraints, List.pairwise_flatMap]
  constructor
  · intro p _
    exact List.pairwise_map.2 ((h p.1).imp Constraint.precedes_under)
  · refine (pairwise_zipIdx_snd ms).imp ?_
    intro p p' hj c hc c' hc'
    obtain ⟨_, -, rfl⟩ := List.mem_map.1 hc
    obtain ⟨_, -, rfl⟩ := List.mem_map.1 hc'
    exact List.cons_lt_cons_iff.2 (.inl hj)

namespace Shape

/-- The constraints of a message are in order if those in the value of each field are. -/
theorem pairwise_constraints_of_slots : ∀ {shape : Shape} {m : shape.Values},
    (∀ (type : FieldType) (slot : Slot shape type) (v : type.Value), slot.get m = some v →
      (type.constraints v).Pairwise Constraint.Precedes) →
    (shape.constraints m).Pairwise Constraint.Precedes
  | .nil, _, _ => .nil
  | .cons field type rest, (v, m), h => by
    -- the constraints behind the field have positions that start with a number above 0
    have hbehind : ∀ c ∈ (rest.constraints m).map Constraint.after,
        ∃ i more, c.position = (i + 1) :: more := by
      intro c hc
      obtain ⟨c', hc', rfl⟩ := List.mem_map.1 hc
      obtain ⟨_, slot, ⟨k, _, -, rfl⟩ | ⟨_, -, _, -, rfl⟩⟩ := mem_constraints_iff_slot.1 hc'
      · exact ⟨slot.index, _, rfl⟩
      · exact ⟨slot.index, _, rfl⟩
    rw [constraints, List.pairwise_append, List.pairwise_append]
    refine ⟨?rules, ⟨?inside, ?behind, ?insideBehind⟩, ?rulesFirst⟩
    case rules =>
      refine List.pairwise_map.2 ((pairwise_zipIdx_snd field.rules).imp ?_)
      intro p p' hk
      exact List.cons_lt_cons_iff.2 (.inr ⟨rfl, List.cons_lt_cons_iff.2 (.inl hk)⟩)
    case inside =>
      refine List.pairwise_map.2 (List.Pairwise.imp Constraint.precedes_under ?_)
      cases v with
      | none => exact .nil
      | some v => simpa using h type .here v rfl
    case behind =>
      refine List.pairwise_map.2 (List.Pairwise.imp Constraint.precedes_after ?_)
      exact pairwise_constraints_of_slots fun type slot v hv => h type (.there slot) v hv
    case insideBehind =>
      intro c hc c' hc'
      obtain ⟨_, -, rfl⟩ := List.mem_map.1 hc
      obtain ⟨i, more, hi⟩ := hbehind c' hc'
      rw [Constraint.Precedes, hi]
      exact List.cons_lt_cons_iff.2 (.inl i.succ_pos)
    case rulesFirst =>
      intro c hc c' hc'
      obtain ⟨⟨_, k⟩, hk, rfl⟩ := List.mem_map.1 hc
      rcases List.mem_append.1 hc' with hc' | hc'
      · obtain ⟨_, -, rfl⟩ := List.mem_map.1 hc'
        have hlt : k < field.rules.length := List.snd_lt_of_mem_zipIdx hk
        exact List.cons_lt_cons_iff.2 (.inr ⟨rfl, List.cons_lt_cons_iff.2 (.inl hlt)⟩)
      · obtain ⟨i, more, hi⟩ := hbehind c' hc'
        rw [Constraint.Precedes, hi]
        exact List.cons_lt_cons_iff.2 (.inl i.succ_pos)

/-- The constraints of a message are in the order of their positions. -/
theorem pairwise_constraints {shape : Shape} (m : shape.Values) :
    (shape.constraints m).Pairwise Constraint.Precedes := by
  induction shape using Shape.induct with
  | step shape hnested helement =>
    refine pairwise_constraints_of_slots ?_
    intro type slot v _
    cases type with
    | message name inner => exact hnested name inner slot v
    | list item =>
      cases item with
      | message name inner =>
        exact FieldType.pairwise_constraints_list (helement name inner slot)
      | _ => exact .nil
    | _ => exact .nil

end Shape

/-! ## Findings -/

namespace Constraint

variable {c : Constraint}

@[simp] theorem report?_under (position : List Nat) (way : List String) (c : Constraint) :
    (c.under position way).report? = c.report?.map (Prod.map (way ++ ·) id) := by
  simp only [report?, under, Option.map_map]
  rfl

@[simp] theorem report?_after (c : Constraint) : c.after.report? = c.report? := rfl

/-- A constraint that is kept reports nothing, another one its violation. -/
theorem report?_map_violation (c : Constraint) :
    c.report?.map (fun r => (⟨dottedName r.1, r.2.description⟩ : Violation)) =
      if c.IsKept then none else some c.violation := by
  have hkept : c.IsKept ↔ c.rule.breach? c.value = none := Rule.isKept_iff
  cases hbreach : c.rule.breach? c.value with
  | none => rw [if_pos (hkept.2 hbreach), report?, hbreach]; rfl
  | some b =>
    have hbroken : ¬ c.IsKept := by simp [hkept, hbreach]
    rw [if_neg hbroken, report?, violation, hbreach]
    rfl

end Constraint

/-- The way of a finding to its field, and the breach. -/
def Finding.report (f : Finding) : List String × Breach := (f.path, f.breach)

theorem Finding.map_report_under (part : String) (findings : List Finding) :
    (findings.map (under part)).map report =
      (findings.map report).map (Prod.map ([part] ++ ·) id) := by
  rw [List.map_map, List.map_map]
  rfl

theorem Constraint.filterMap_report?_under (position : List Nat) (way : List String)
    (constraints : List Constraint) :
    (constraints.map (.under position way)).filterMap report? =
      (constraints.filterMap report?).map (Prod.map (way ++ ·) id) := by
  rw [List.filterMap_map, List.map_filterMap]
  exact congrArg (List.filterMap · constraints) (funext (report?_under position way))

/-- The findings in a list are the constraints that are not kept if it is so for each of the
messages. -/
theorem FieldType.report_findings_list {name : String} {shape : Shape}
    {ms : List shape.Values} (h : ∀ m : shape.Values,
      (shape.findings m).map Finding.report =
        (shape.constraints m).filterMap Constraint.report?) :
    ((FieldType.list (.message name shape)).findings ms).map Finding.report =
      ((FieldType.list (.message name shape)).constraints ms).filterMap
        Constraint.report? := by
  have hshift : ms.zipIdx 1 = ms.zipIdx.map fun p => (p.1, 1 + p.2) := List.zipIdx_eq_map_add
  rw [findings, constraints, numberedFindings, hshift, List.flatMap_map, List.map_flatMap,
    List.filterMap_flatMap]
  refine congrArg (List.flatMap · ms.zipIdx) (funext ?_)
  intro p
  rw [Finding.map_report_under, Constraint.filterMap_report?_under, h]
  simp [Nat.add_comm 1]

namespace Shape

/-- The findings in a message are the constraints that are not kept if it is so in the value
of each field. -/
theorem report_findings_of_slots : ∀ {shape : Shape} {m : shape.Values},
    (∀ (type : FieldType) (slot : Slot shape type) (v : type.Value), slot.get m = some v →
      (type.findings v).map Finding.report =
        (type.constraints v).filterMap Constraint.report?) →
    (shape.findings m).map Finding.report = (shape.constraints m).filterMap Constraint.report?
  | .nil, _, _ => rfl
  | .cons field type rest, (v, m), h => by
    have hrules : ((field.rules.filterMap (·.breach? (v.map type.facet))).map
        (⟨[], field.wire, ·⟩)).map Finding.report =
        (field.rules.zipIdx.map fun (rule, k) =>
          (⟨[0, k], [field.wire], rule, v.map type.facet⟩ : Constraint)).filterMap
          Constraint.report? := by
      nth_rewrite 1 [← List.zipIdx_map_fst 0 field.rules]
      rw [List.filterMap_map, List.filterMap_map, List.map_filterMap, List.map_filterMap]
      refine congrArg (List.filterMap · _) (funext ?_)
      intro p
      simp [Constraint.report?, Finding.report, Finding.path, Function.comp_def]
    have hinside : (v.toList.flatMap type.findings).map Finding.report =
        (v.toList.flatMap type.constraints).filterMap Constraint.report? := by
      cases v with
      | none => rfl
      | some v => simpa using h type .here v rfl
    have hbehind : (rest.findings m).map Finding.report =
        ((rest.constraints m).map Constraint.after).filterMap Constraint.report? := by
      rw [List.filterMap_map]
      exact report_findings_of_slots fun type slot v hv => h type (.there slot) v hv
    rw [findings, constraints, List.map_append, List.map_append, List.filterMap_append,
      List.filterMap_append, hrules, Finding.map_report_under,
      Constraint.filterMap_report?_under, hinside, hbehind]

/-- The findings in a message are the constraints that are not kept. -/
theorem report_findings {shape : Shape} (m : shape.Values) :
    (shape.findings m).map Finding.report =
      (shape.constraints m).filterMap Constraint.report? := by
  induction shape using Shape.induct with
  | step shape hnested helement =>
    refine report_findings_of_slots ?_
    intro type slot v _
    cases type with
    | message name inner => exact hnested name inner slot v
    | list item =>
      cases item with
      | message name inner => exact FieldType.report_findings_list (helement name inner slot)
      | _ => rfl
    | _ => rfl

/-- The constraints of a message that are not kept. -/
def broken {shape : Shape} (m : shape.Values) : List Constraint :=
  (shape.constraints m).filter fun c => ¬ c.IsKept

theorem mem_broken_iff {shape : Shape} {m : shape.Values} {c : Constraint} :
    c ∈ broken m ↔ Imposes m c ∧ ¬ c.IsKept := by
  rw [broken, List.mem_filter, mem_constraints_iff, decide_eq_true_iff]

theorem broken_eq_nil_iff {shape : Shape} {m : shape.Values} :
    broken m = [] ↔ ∀ c, Imposes m c → c.IsKept := by
  rw [List.eq_nil_iff_forall_not_mem]
  refine forall_congr' fun c => ?_
  rw [mem_broken_iff, not_and, not_not]

/-- The violations of a message are those of the constraints that are not kept. -/
theorem map_violation_findings {shape : Shape} (m : shape.Values) :
    (shape.findings m).map Finding.violation = (broken m).map Constraint.violation := by
  have hreport : Finding.violation =
      (fun r : List String × Breach => ⟨dottedName r.1, r.2.description⟩) ∘
        Finding.report := rfl
  rw [hreport, ← List.map_map, report_findings, List.map_filterMap,
    funext Constraint.report?_map_violation, broken]
  induction shape.constraints m with
  | nil => rfl
  | cons c rest ih =>
    by_cases hc : c.IsKept
    · simpa [hc] using ih
    · simpa [hc] using ih

end Shape

/-- A message is refused with the violations of the constraints that are not kept. -/
theorem MessageType.validate_eq_broken {type : MessageType} (h : type.shape.isListed = true)
    (m : Message type) : type.validate m =
      if Shape.broken m = [] then .ok ()
      else .error ⟨(Shape.broken m).map Constraint.violation⟩ := by
  have hviolations := Shape.map_violation_findings m
  have hnil : type.shape.findings m = [] ↔ Shape.broken m = [] := by
    rw [← List.map_eq_nil_iff (f := Finding.violation), hviolations, List.map_eq_nil_iff]
  rw [validate_eq h, hviolations]
  exact if_congr hnil rfl rfl

/-- A message is accepted if and only if it breaks no constraint. -/
theorem MessageType.validate_eq_ok_iff {type : MessageType} (h : type.shape.isListed = true)
    (m : Message type) : type.validate m = .ok () ↔ Shape.broken m = [] := by
  rw [validate_eq_broken h]
  by_cases hbroken : Shape.broken m = []
  · rw [if_pos hbroken]
    exact iff_of_true rfl hbroken
  · simp [hbroken]

/-! ## Requests -/

mutual

/-- In the messages of a type every rule is about the kind of values that its field has. -/
def FieldType.isRuled : FieldType → Bool
  | .message _ shape => shape.isRuled
  | .list item => item.isRuled
  | _ => true
termination_by structural type => type

/-- In a shape, and in the messages in it, every rule is about the kind of values that its
field has. -/
def Shape.isRuled : Shape → Bool
  | .nil => true
  | .cons field type rest => field.rules.all (·.suits type) && (type.isRuled && rest.isRuled)
termination_by structural shape => shape

end

/-- In all requests every rule is about the kind of values that its field has. -/
theorem Operation.isRuled_request (op : Operation) : op.request.shape.isRuled = true := by
  have hall : Operation.all.all (fun op => op.request.shape.isRuled) = true :=
    by decide +kernel
  exact List.all_eq_true.1 hall op op.mem_all

namespace Slot

variable {type : FieldType}

theorem isRuled_type : ∀ {shape : Shape}, Slot shape type → shape.isRuled = true →
    type.isRuled = true
  | .cons _ _ _, .here, h => (Bool.and_eq_true_iff.1 (Bool.and_eq_true_iff.1 h).2).1
  | .cons _ _ _, .there slot, h =>
    isRuled_type slot (Bool.and_eq_true_iff.1 (Bool.and_eq_true_iff.1 h).2).2

theorem suits_of_isRuled {rule : Rule} : ∀ {shape : Shape} (slot : Slot shape type),
    shape.isRuled = true → rule ∈ slot.field.rules → rule.suits type = true
  | .cons _ _ _, .here, h, hrule => List.all_eq_true.1 (Bool.and_eq_true_iff.1 h).1 rule hrule
  | .cons _ _ _, .there slot, h, hrule =>
    suits_of_isRuled slot (Bool.and_eq_true_iff.1 (Bool.and_eq_true_iff.1 h).2).2 hrule

end Slot

/-- What a message imposes is about the kind of values that its fields have. -/
theorem Shape.Imposes.concerns {shape : Shape} {m : shape.Values} {c : Constraint}
    (h : Imposes m c) (hruled : shape.isRuled = true) : c.rule.Concerns c.value := by
  induction h with
  | rule slot hrule =>
    exact Rule.concerns_of_suits (slot.suits_of_isRuled hruled (List.mem_of_getElem? hrule)) _
  | nested slot _ _ ih => exact ih (slot.isRuled_type hruled)
  | element slot _ _ _ ih => exact ih (slot.isRuled_type hruled)

/-- A request is accepted if and only if everything that it imposes is kept.  Else it is
refused with one violation for each constraint in each place that is not kept, in the order of
their positions.  What a request imposes is about the values that its fields have, so no
constraint is kept for being about values of another kind. -/
theorem Operation.validate_decided (op : Operation) (m : Message op.request) :
    (op.request.validate m = .ok () ↔ ∀ c, Shape.Imposes m c → c.IsKept) ∧
      (∀ c, Shape.Imposes m c → c.rule.Concerns c.value) ∧
      ∃ broken : List Constraint, (∀ c, c ∈ broken ↔ Shape.Imposes m c ∧ ¬ c.IsKept) ∧
        broken.Pairwise Constraint.Precedes ∧
        op.request.validate m =
          if broken = [] then .ok () else .error ⟨broken.map Constraint.violation⟩ := by
  refine ⟨?accepted, fun c hc => hc.concerns op.isRuled_request, Shape.broken m,
    fun c => Shape.mem_broken_iff, ?inOrder,
      MessageType.validate_eq_broken op.isListed_request m⟩
  case accepted => rw [MessageType.validate_eq_ok_iff op.isListed_request,
    Shape.broken_eq_nil_iff]
  case inOrder => exact (Shape.pairwise_constraints m).filter _

-- An empty resource type is set, but it is none of those allowed.  The second of three tags
-- has no key; the key of the third is empty, which no rule forbids.
example :
    let m : Message Operation.listTagResources.request :=
      (some "", none, some [(some "a", none, ()), (none, none, ()), (some "", none, ())],
        none, some 0, none, ())
    (Shape.broken m).map (fun c => (c.position, c.violation.field)) =
        [([0, 1], "ResourceType"), ([2, 1, 1, 0, 0], "Tag.2.Key"),
          ([4, 0], "MaxResults")] := by
  decide +kernel

end BalancerClient
