import BalancerClient.Catalog.Operations
import BalancerClient.Message.Constraints
import BalancerClient.Message.Encode
import BalancerClient.Proofs.Request.Names

/-!
# What validation finds

A violation is two texts, a path and a description.  Behind it stands a finding: the names and
numbers on the way to a field, and how the value of the field breaks a rule.  The findings are
read off the typed message by recursion on its type, without a look at checks, and their texts
are the violations that validation reports, one for one and in the same order, wherever checks
are listed under the names that fields have on the wire.

## Main definitions

* `Breach` - how a value breaks a rule, in words and as a fact about the value.
* `Rule.breach?` - the breach of a rule by a field.
* `Finding` - a breach and the way to it.
* `FieldType.findings`, `Shape.findings` - the findings inside a value and in a message.
* `Field.isListed`, `Shape.isListed` - checks are listed under wire names.

## Main statements

* `Operation.isListed_request` - the checks of all requests are listed under wire names.
* `Shape.runAll_checks` - the checks of a message report its findings.
* `MessageType.validate_eq` - a message is refused with its findings, and accepted if it has
  none.
-/

namespace BalancerClient

/-! ## Breaches -/

/-- How the value of a field breaks a rule. -/
inductive Breach where
  | missing
  | tooShort (value : String) (min : Nat)
  | tooLong (value : String) (max : Nat)
  | notAllowed (value : String) (allowed : List String)
  | outside (value min max : Int)
  | tooFew (count min : Nat)
  | tooMany (count max : Nat)
  deriving DecidableEq, Repr

namespace Breach

/-- The breach in words. -/
def description : Breach → String
  | missing => "field is required"
  | tooShort value min => Check.tooShort value.length min
  | tooLong value max => Check.tooLong value.length max
  | notAllowed value allowed => Check.notAllowed value allowed
  | outside value min max => Check.outside value min max
  | tooFew count min => Check.tooFew count min
  | tooMany count max => Check.tooMany count max

/-- The text of a scalar that breaks a rule. -/
def text? : Breach → Option String
  | tooShort value _ => some value
  | tooLong value _ => some value
  | notAllowed value _ => some value
  | outside value _ _ => some (toString value)
  | missing | tooFew _ _ | tooMany _ _ => none

/-- A value is the one that breaks the rule.  No value does by being missing. -/
def IsOf : Breach → Json → Prop
  | missing, _ => False
  | tooShort value min, v => v = .str value ∧ value.length < min
  | tooLong value max, v => v = .str value ∧ max < value.length
  | notAllowed value allowed, v => v = .str value ∧ value ∉ allowed
  | outside value min max, v => v = .int value ∧ (value < min ∨ max < value)
  | tooFew count min, v => ∃ items, v = .arr items ∧ items.length = count ∧ count < min
  | tooMany count max, v => ∃ items, v = .arr items ∧ items.length = count ∧ max < count

end Breach

/-! ## Breaches of rules -/

namespace FieldType

theorem encode_of_facet_text {type : FieldType} {v : type.Value} {s : String}
    (h : type.facet v = .text s) : type.encode v = .str s := by
  cases type <;> simp_all [facet, encode]

theorem encode_of_facet_integer {type : FieldType} {v : type.Value} {n : Int}
    (h : type.facet v = .integer n) : type.encode v = .int n := by
  cases type <;> simp_all [facet, encode]

theorem encode_of_facet_items {type : FieldType} {v : type.Value} {count : Nat}
    (h : type.facet v = .items count) :
    ∃ items, type.encode v = .arr items ∧ items.length = count := by
  cases type <;> simp_all [facet, encode]

end FieldType

namespace Rule

/-- How a field that may be unset breaks a rule. -/
def breach? : Rule → Option Facet → Option Breach
  | .required, none => some .missing
  | .minLength min, some (.text s) => if s.length < min then some (.tooShort s min) else none
  | .maxLength max, some (.text s) => if max < s.length then some (.tooLong s max) else none
  | .oneOf allowed, some (.text s) =>
    if s ∈ allowed then none else some (.notAllowed s allowed)
  | .range min max, some (.integer n) =>
    if n < min ∨ max < n then some (.outside n min max) else none
  | .minItems min, some (.items count) =>
    if count < min then some (.tooFew count min) else none
  | .maxItems max, some (.items count) =>
    if max < count then some (.tooMany count max) else none
  | _, _ => none

/-- An unset field breaks no rule but being required. -/
theorem eq_missing_of_breach?_none {rule : Rule} {b : Breach}
    (h : rule.breach? none = some b) : b = .missing := by
  cases rule <;> simp_all [breach?]

/-- A value that breaks a rule is the one of which the breach speaks. -/
theorem isOf_of_breach?_some {rule : Rule} {type : FieldType} {v : type.Value} {b : Breach}
    (h : rule.breach? (some (type.facet v)) = some b) : b.IsOf (type.encode v) := by
  cases hfacet : type.facet v with
  | text s =>
    have hv := FieldType.encode_of_facet_text hfacet
    rw [hfacet] at h
    cases rule <;> grind [breach?, Breach.IsOf]
  | integer n =>
    have hv := FieldType.encode_of_facet_integer hfacet
    rw [hfacet] at h
    cases rule <;> grind [breach?, Breach.IsOf]
  | items count =>
    have hv := FieldType.encode_of_facet_items hfacet
    rw [hfacet] at h
    cases rule <;> grind [breach?, Breach.IsOf]
  | other =>
    rw [hfacet] at h
    cases rule <;> grind [breach?]

/-- The check of a rule reports its breach. -/
theorem run_check (rule : Rule) (path name : String) (value : Option Facet) :
    (rule.check name value).run path =
      Check.report path name ((rule.breach? value).map Breach.description) := by
  cases rule <;> rcases value with _ | ⟨s | n | count | _⟩
  all_goals grind [check, Check.run, breach?, Breach.description, Facet.text?, Facet.integer?,
    Facet.items?]

/-- The checks of a field report its breaches. -/
theorem runAll_check (path name : String) (value : Option Facet) (rules : List Rule) :
    Check.runAll path (rules.map (·.check name value)) =
      (rules.filterMap (·.breach? value)).map fun b => ⟨path ++ name, b.description⟩ := by
  induction rules with
  | nil => rfl
  | cons rule rest ih =>
    rw [List.map_cons, Check.runAll, run_check, ih, List.filterMap_cons]
    cases rule.breach? value with
    | none => rfl
    | some b => rfl

end Rule

/-! ## Findings -/

/-- A breach, the way to the message with the field, and the wire name of the field. -/
structure Finding where
  way : List String
  field : String
  breach : Breach
  deriving DecidableEq, Repr

namespace Finding

/-- The way to the field. -/
def path (f : Finding) : List String := f.way ++ [f.field]

/-- The name of the field, seen from the outermost message. -/
def name (f : Finding) : String := dottedName f.path

/-- The same finding, seen from one level above. -/
def under (part : String) (f : Finding) : Finding := { f with way := part :: f.way }

/-- A finding in texts, with a path in front of its name. -/
def violationBelow (path : String) (f : Finding) : Violation :=
  ⟨path ++ f.name, f.breach.description⟩

/-- A finding in texts. -/
def violation (f : Finding) : Violation := ⟨f.name, f.breach.description⟩

@[simp] theorem under_path (part : String) (f : Finding) :
    (f.under part).path = part :: f.path := rfl

@[simp] theorem under_breach (part : String) (f : Finding) :
    (f.under part).breach = f.breach := rfl

theorem path_ne_nil (f : Finding) : f.path ≠ [] := by
  simp [path]

@[simp] theorem violationBelow_empty (f : Finding) : f.violationBelow "" = f.violation := by
  simp [violationBelow, violation]

/-- Going one level down, the part goes from the name to the path in front. -/
theorem violationBelow_under (path part : String) (f : Finding) :
    (f.under part).violationBelow path = f.violationBelow (path ++ part ++ ".") := by
  have hname : (f.under part).name = part ++ "." ++ f.name := by
    apply String.toList_inj.1
    rw [name, under_path, toList_dottedName_cons f.path_ne_nil]
    simp [name]
  simp only [violationBelow, hname, under_breach, String.append_assoc]

theorem map_violationBelow_under (path part : String) (findings : List Finding) :
    (findings.map (under part)).map (·.violationBelow path) =
      findings.map (·.violationBelow (path ++ part ++ ".")) := by
  rw [List.map_map]
  apply List.map_congr_left
  intro f _
  exact f.violationBelow_under path part

end Finding

/-- The findings in a list of values, each below its number; the first one has the given
number. -/
def numberedFindings {α : Type} (findings : α → List Finding) (number : Nat) (vs : List α) :
    List Finding :=
  (vs.zipIdx number).flatMap fun (v, n) => (findings v).map (.under (toString n))

theorem exists_of_mem_numberedFindings {α : Type} {findings : α → List Finding} {vs : List α}
    {f : Finding} (hf : f ∈ numberedFindings findings 1 vs) :
    ∃ (i : Nat) (v : α), vs[i]? = some v ∧ ∃ inner ∈ findings v,
      f = inner.under (toString (i + 1)) := by
  obtain ⟨⟨v, n⟩, hmem, hf⟩ := List.mem_flatMap.1 hf
  obtain ⟨inner, hinner, rfl⟩ := List.mem_map.1 hf
  obtain ⟨hn, hv⟩ := List.mk_mem_zipIdx_iff_le_and_getElem?_sub.1 hmem
  refine ⟨n - 1, v, hv, inner, hinner, ?_⟩
  rw [Nat.sub_add_cancel hn]

mutual

/-- The findings in the messages that a value holds. -/
def FieldType.findings : (type : FieldType) → type.Value → List Finding
  | .message _ shape, m => shape.findings m
  | .list (.message _ shape), ms => numberedFindings shape.findings 1 ms
  | _, _ => []
termination_by structural type => type

/-- The findings in a message. -/
def Shape.findings : (shape : Shape) → shape.Values → List Finding
  | .nil, _ => []
  | .cons field type rest, (v, m) =>
    (field.rules.filterMap (·.breach? (v.map type.facet))).map (⟨[], field.wire, ·⟩) ++
      ((v.toList.flatMap type.findings).map (.under field.wire) ++ rest.findings m)
termination_by structural shape => shape

end

/-! ## Names of checks -/

namespace FieldType

/-- Whether a field holds messages. -/
def holdsMessages : FieldType → Bool
  | .message _ _ | .list (.message _ _) => true
  | _ => false

/-- A field without messages has nothing to check inside. -/
theorem innerChecks_of_not_holdsMessages {type : FieldType} (h : type.holdsMessages = false)
    (name : String) (v : Option type.Value) : type.innerChecks name v = [] := by
  cases type with
  | message => cases h
  | list item =>
    cases item with
    | message => cases h
    | _ => rfl
  | _ => rfl

end FieldType

/-- Whether a field lists its rules under its name on the wire, and has the messages inside
checked under this name too. -/
def Field.isListed (field : Field) (type : FieldType) : Bool :=
  field.listed.all (·.name == field.wire) &&
    (!type.holdsMessages || field.inside == some field.wire)

mutual

/-- Whether the fields of the messages of a type are listed under their names on the wire. -/
def FieldType.isListed : FieldType → Bool
  | .message _ shape => shape.isListed
  | .list item => item.isListed
  | _ => true
termination_by structural type => type

/-- Whether the fields of a shape, and of the messages in it, are listed under their names on
the wire. -/
def Shape.isListed : Shape → Bool
  | .nil => true
  | .cons field type rest => field.isListed type && (type.isListed && rest.isListed)
termination_by structural shape => shape

end

/-- The fields of all requests are listed under their names on the wire. -/
theorem Operation.isListed_request (op : Operation) : op.request.shape.isListed = true := by
  have hall : Operation.all.all (fun op => op.request.shape.isListed) = true :=
    by decide +kernel
  exact List.all_eq_true.1 hall op op.mem_all

namespace Field

variable {field : Field} {type : FieldType}

/-- The checks of a field that is listed under its name on the wire report its breaches
there. -/
theorem runAll_listed (h : field.isListed type = true) (path : String)
    (value : Option Facet) :
    Check.runAll path (field.listed.map fun l => l.rule.check l.name value) =
      (field.rules.filterMap (·.breach? value)).map fun b =>
        ⟨path ++ field.wire, b.description⟩ := by
  have hnames := List.all_eq_true.1 (Bool.and_eq_true_iff.1 h).1
  have hchecks : (field.listed.map fun l => l.rule.check l.name value) =
      field.rules.map (·.check field.wire value) := by
    rw [rules, List.map_map]
    apply List.map_congr_left
    intro l hl
    exact congrArg (l.rule.check · value) (eq_of_beq (hnames l hl))
  rw [hchecks, Rule.runAll_check]

/-- The messages in such a field are checked under its name on the wire. -/
theorem innerChecks_inside (h : field.isListed type = true) (v : Option type.Value) :
    field.inside.toList.flatMap (type.innerChecks · v) = type.innerChecks field.wire v := by
  cases hholds : type.holdsMessages with
  | false => simp [FieldType.innerChecks_of_not_holdsMessages hholds]
  | true =>
    have hinside := (Bool.and_eq_true_iff.1 h).2
    rw [hholds, Bool.not_true, Bool.false_or] at hinside
    simp [eq_of_beq hinside]

end Field

/-! ## Checks report the findings -/

namespace Check

theorem runAll_append (path : String) (checks more : List Check) :
    runAll path (checks ++ more) = runAll path checks ++ runAll path more := by
  induction checks with
  | nil => rfl
  | cons check rest ih => rw [List.cons_append, runAll, ih, runAll, List.append_assoc]

/-- The checks of elements report the findings in them. -/
theorem runElements_map {α : Type} {checks : α → List Check} {findings : α → List Finding}
    (h : ∀ path v, runAll path (checks v) = (findings v).map (·.violationBelow path))
    (path : String) (number : Nat) (vs : List α) :
    runElements path number (vs.map checks) =
      (numberedFindings findings number vs).map (·.violationBelow path) := by
  induction vs generalizing number with
  | nil => rfl
  | cons v rest ih =>
    rw [List.map_cons, runElements, h, ih, numberedFindings, numberedFindings,
      List.zipIdx_cons, List.flatMap_cons, List.map_append, Finding.map_violationBelow_under]

end Check

mutual

/-- The checks inside a field report the findings in its value. -/
theorem FieldType.runAll_innerChecks : ∀ (type : FieldType), type.isListed = true →
    ∀ (path name : String) (v : Option type.Value),
    Check.runAll path (type.innerChecks name v) =
      (v.toList.flatMap type.findings).map (·.violationBelow (path ++ name ++ "."))
  | .message _ shape, _, path, name, none => rfl
  | .message _ shape, h, path, name, some m => by
    have hshape := shape.runAll_checks h (path ++ name ++ ".") m
    simpa [FieldType.innerChecks, Check.runAll, Check.run, FieldType.findings] using hshape
  | .list (.message _ shape), _, path, name, none => rfl
  | .list (.message _ shape), h, path, name, some ms => by
    have helements := Check.runElements_map (shape.runAll_checks h) (path ++ name ++ ".") 1 ms
    simpa [FieldType.innerChecks, Check.runAll, Check.run, FieldType.findings] using helements
  | .text, _, _, _, v => by cases v <;> rfl
  | .int32, _, _, _, v => by cases v <;> rfl
  | .int64, _, _, _, v => by cases v <;> rfl
  | .flag, _, _, _, v => by cases v <;> rfl
  | .list .text, _, _, _, v => by cases v <;> rfl
  | .list .int32, _, _, _, v => by cases v <;> rfl
  | .list .int64, _, _, _, v => by cases v <;> rfl
  | .list .flag, _, _, _, v => by cases v <;> rfl
  | .list (.list _), _, _, _, v => by cases v <;> rfl
termination_by structural type => type

/-- The checks of a message report its findings. -/
theorem Shape.runAll_checks : ∀ (shape : Shape), shape.isListed = true →
    ∀ (path : String) (m : shape.Values),
    Check.runAll path (shape.checks m) = (shape.findings m).map (·.violationBelow path)
  | .nil, _, _, _ => rfl
  | .cons field type rest, h, path, (v, m) => by
    obtain ⟨hfield, hinner⟩ := Bool.and_eq_true_iff.1 h
    obtain ⟨htype, hrest⟩ := Bool.and_eq_true_iff.1 hinner
    rw [Shape.checks, Check.runAll_append, Check.runAll_append, Field.runAll_listed hfield,
      Field.innerChecks_inside hfield, type.runAll_innerChecks htype,
      rest.runAll_checks hrest, Shape.findings, List.map_append, List.map_append,
      Finding.map_violationBelow_under, List.map_map]
    simp [Finding.violationBelow, Finding.name, Finding.path, Function.comp_def]
termination_by structural shape => shape

end

namespace MessageType

variable {type : MessageType} (h : type.shape.isListed = true) {m : Message type}

include h

/-- A message is refused with its findings, all of them, and accepted if it has none. -/
theorem validate_eq (m : Message type) : type.validate m =
    if type.shape.findings m = [] then .ok ()
    else .error ⟨(type.shape.findings m).map Finding.violation⟩ := by
  have hchecks : Check.runAll "" (type.shape.checks m) =
      (type.shape.findings m).map Finding.violation := by
    simpa using type.shape.runAll_checks h "" m
  rw [validate, Check.validate, hchecks]
  cases type.shape.findings m with
  | nil => rfl
  | cons f rest => rfl

/-- A message that is accepted has no findings. -/
theorem findings_eq_nil_of_validate (hvalid : type.validate m = .ok ()) :
    type.shape.findings m = [] := by
  rw [validate_eq h] at hvalid
  split at hvalid
  · assumption
  · cases hvalid

theorem violations_of_validate {error : ValidationError}
    (hvalid : type.validate m = .error error) :
    error.violations = (type.shape.findings m).map Finding.violation := by
  rw [validate_eq h] at hvalid
  split at hvalid
  · cases hvalid
  · obtain rfl := Except.error.inj hvalid
    rfl

end MessageType

end BalancerClient
