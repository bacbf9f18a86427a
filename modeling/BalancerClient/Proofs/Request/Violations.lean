import BalancerClient.Proofs.Request.Presence
import BalancerClient.Proofs.Validation.Findings

/-!
# Violations and parameters

The path of a violation is the name of a parameter.  What validation finds at a way is found
there in the JSON of the request as well: a value that breaks a rule, or no value where one is
required.  The parameters are named by the same ways, so a value that breaks a rule is the
text of the parameter with the violation's path, unless it is inside a field that is sent as
one text; and where a field is missing there is no parameter with that name or below it.

## Main definitions

* `Finding.IsFoundIn` - a value has, at the way of a finding, what the finding says.
* `Finding.LiesInside` - a finding is inside a field, not at it.

## Main statements

* `Shape.isFoundIn_of_mem_findings` - the findings of a message are found in its object.
* `WireRequest.get?_shape_of_at`, `WireRequest.shape_of_not_at` - the parameters at a way.
* `Operation.violations_name_parameters` - the violations of a request and its parameters
  agree.
-/

namespace BalancerClient

/-! ## Findings in a value -/

namespace Finding

/-- A finding is inside a field of the request, not at it. -/
def LiesInside (f : Finding) (wire : String) : Prop := f.way.head? = some wire

instance (f : Finding) (wire : String) : Decidable (f.LiesInside wire) :=
  inferInstanceAs (Decidable (f.way.head? = some wire))

/-- A way of more than one part leads inside the field that is its first part. -/
theorem exists_path_eq_cons (f : Finding) :
    ∃ part more, f.path = part :: more ∧ (more ≠ [] → f.LiesInside part) := by
  obtain ⟨way, field, breach⟩ := f
  cases way with
  | nil => exact ⟨field, [], rfl, fun hne => absurd rfl hne⟩
  | cons part way => exact ⟨part, way ++ [field], rfl, fun _ => rfl⟩

/-- A value has, at the way of a finding, what the finding says: nothing where a field is
missing, else the value that breaks the rule, with its text. -/
structure IsFoundIn (f : Finding) (v : Json) : Prop where
  dotless : ∀ part ∈ f.path, IsDotless part
  absent : f.breach = .missing → ∀ w, ¬ v.At f.path w
  present : f.breach ≠ .missing → ∃ w, v.At f.path w ∧ f.breach.IsOf w ∧
    ∀ text, f.breach.text? = some text → w.scalarText? = some text

variable {f : Finding}

/-- What is found in a member is found below its name. -/
theorem IsFoundIn.under_member {v : Json} (h : f.IsFoundIn v) {members : List (String × Json)}
    {part : String} (hpart : IsDotless part) (hmem : (part, v) ∈ members)
    (hunique : ∀ w, (part, w) ∈ members → w = v) :
    (f.under part).IsFoundIn (.obj members) where
  dotless := List.forall_mem_cons.2 ⟨hpart, h.dotless⟩
  absent := by
    intro hmissing w hat
    obtain ⟨u, hu, hat⟩ := Json.at_obj_cons.1 hat
    exact h.absent hmissing w (hunique u hu ▸ hat)
  present := by
    intro hpresent
    obtain ⟨w, hat, hw⟩ := h.present hpresent
    exact ⟨w, .member hmem hat, hw⟩

/-- What is found in an element is found below its number. -/
theorem IsFoundIn.under_element {v : Json} (h : f.IsFoundIn v) {items : List Json}
    {number : Nat} (hmem : items[number]? = some v) :
    (f.under (toString (number + 1))).IsFoundIn (.arr items) where
  dotless := List.forall_mem_cons.2 ⟨isDotless_toString _, h.dotless⟩
  absent := by
    intro hmissing w hat
    obtain ⟨u, hu, hat⟩ := Json.at_arr_cons.1 hat
    rw [hmem, Option.some.injEq] at hu
    exact h.absent hmissing w (hu ▸ hat)
  present := by
    intro hpresent
    obtain ⟨w, hat, hw⟩ := h.present hpresent
    exact ⟨w, .element hmem hat, hw⟩

/-- A member in front with another name changes nothing. -/
theorem IsFoundIn.cons {members : List (String × Json)} (h : f.IsFoundIn (.obj members))
    {part : String} (hpart : f.path.head? ≠ some part) (v : Json) :
    f.IsFoundIn (.obj ((part, v) :: members)) := by
  obtain ⟨first, more, hpath⟩ := List.exists_cons_of_ne_nil f.path_ne_nil
  have hne : first ≠ part := by
    intro heq
    exact hpart (by rw [hpath, heq]; rfl)
  have hat : ∀ w, (Json.obj ((part, v) :: members)).At f.path w ↔
      (Json.obj members).At f.path w := by
    intro w
    simp only [hpath, Json.at_obj_cons, List.mem_cons, Prod.mk.injEq, hne,
      false_and, false_or]
  refine ⟨h.dotless, ?_, ?_⟩
  · intro hmissing w
    rw [hat]
    exact h.absent hmissing w
  · simpa only [hat] using h.present

end Finding

/-! ## Findings in a message -/

namespace FieldType

theorem isWide_of_facet_integer {type : FieldType} {v : type.Value} {n : Int}
    (h : type.facet v = .integer n) : IsWide n := by
  cases type with
  | int32 =>
    obtain rfl := Facet.integer.inj h
    exact isWide_int32 v
  | int64 =>
    obtain rfl := Facet.integer.inj h
    exact isWide_int64 v
  | text => cases h
  | flag => cases h
  | list item => cases h
  | message name shape => cases h

end FieldType

/-- The text of a breach is the text of the value that breaks the rule. -/
theorem Rule.scalarText?_of_breach?_some {rule : Rule} {type : FieldType} {v : type.Value}
    {b : Breach} (h : rule.breach? (some (type.facet v)) = some b) {text : String}
    (htext : b.text? = some text) : (type.encode v).scalarText? = some text := by
  cases hfacet : type.facet v with
  | text s =>
    rw [FieldType.encode_of_facet_text hfacet]
    rw [hfacet] at h
    cases rule <;> grind [breach?, Breach.text?, Json.scalarText?]
  | integer n =>
    rw [FieldType.encode_of_facet_integer hfacet,
      scalarText?_int (FieldType.isWide_of_facet_integer hfacet)]
    rw [hfacet] at h
    cases rule <;> grind [breach?, Breach.text?]
  | items count =>
    rw [hfacet] at h
    cases rule <;> grind [breach?, Breach.text?]
  | other =>
    rw [hfacet] at h
    cases rule <;> grind [breach?]

namespace Shape

/-- A finding in a message starts with the wire name of a field. -/
theorem head?_path_of_mem_findings {f : Finding} : ∀ {shape : Shape} {m : shape.Values},
    f ∈ shape.findings m → ∃ wire ∈ shape.wires, f.path.head? = some wire
  | .nil, _, hf => absurd hf List.not_mem_nil
  | .cons field type rest, (v, m), hf => by
    rw [findings, List.mem_append, List.mem_append] at hf
    rcases hf with hf | hf | hf
    · obtain ⟨b, -, rfl⟩ := List.mem_map.1 hf
      exact ⟨field.wire, List.mem_cons_self, rfl⟩
    · obtain ⟨f, -, rfl⟩ := List.mem_map.1 hf
      exact ⟨field.wire, List.mem_cons_self, rfl⟩
    · obtain ⟨wire, hwire, hpath⟩ := head?_path_of_mem_findings hf
      exact ⟨wire, List.mem_cons_of_mem _ hwire, hpath⟩

/-- No member has a name that is none of the wire names. -/
theorem notMem_encode {shape : Shape} {wire : String} (h : wire ∉ shape.wires)
    (m : shape.Values) (v : Json) : (wire, v) ∉ shape.encode m := by
  intro hmem
  exact h ((shape.names_encode_sublist m).subset (List.mem_map.2 ⟨(wire, v), hmem, rfl⟩))

end Shape

/-- A breach of a field is found at its name. -/
theorem Rule.isFoundIn_of_breach? {rule : Rule} {type : FieldType} {v : Option type.Value}
    {b : Breach} (h : rule.breach? (v.map type.facet) = some b) {field : Field}
    (hfield : IsDotless field.wire) {rest : Shape} (hwire : field.wire ∉ rest.wires)
    (m : rest.Values) : Finding.IsFoundIn ⟨[], field.wire, b⟩
      (.obj ((Shape.cons field type rest).encode (v, m))) := by
  cases v with
  | none =>
    obtain rfl := eq_missing_of_breach?_none h
    refine ⟨by simpa [Finding.path] using hfield, ?_, fun hne => absurd rfl hne⟩
    intro _ w hat
    obtain ⟨u, hu, -⟩ := Json.at_obj_cons.1 hat
    exact Shape.notMem_encode hwire m u hu
  | some v =>
    have hb : b.IsOf (type.encode v) := isOf_of_breach?_some h
    refine ⟨by simpa [Finding.path] using hfield, ?_, ?_⟩
    · intro hmissing
      obtain rfl : b = .missing := hmissing
      exact False.elim hb
    · intro _
      exact ⟨type.encode v, .member List.mem_cons_self (.here _), hb,
        fun text htext => scalarText?_of_breach?_some h htext⟩

mutual

/-- The findings in a value are found in its JSON. -/
theorem FieldType.isFoundIn_of_mem_findings : ∀ (type : FieldType) (v : type.Value),
    type.isWellNamed = true → ∀ f ∈ type.findings v, f.IsFoundIn (type.encode v)
  | .message _ shape, m, h, f, hf => shape.isFoundIn_of_mem_findings m h f hf
  | .list (.message name shape), ms, h, f, hf => by
    obtain ⟨i, m, hm, inner, hinner, rfl⟩ := exists_of_mem_numberedFindings hf
    have hfound := shape.isFoundIn_of_mem_findings m h inner hinner
    refine hfound.under_element ?_
    rw [List.getElem?_map, hm]
    rfl
  | .text, _, _, _, hf => absurd hf List.not_mem_nil
  | .int32, _, _, _, hf => absurd hf List.not_mem_nil
  | .int64, _, _, _, hf => absurd hf List.not_mem_nil
  | .flag, _, _, _, hf => absurd hf List.not_mem_nil
  | .list .text, _, _, _, hf => absurd hf List.not_mem_nil
  | .list .int32, _, _, _, hf => absurd hf List.not_mem_nil
  | .list .int64, _, _, _, hf => absurd hf List.not_mem_nil
  | .list .flag, _, _, _, hf => absurd hf List.not_mem_nil
  | .list (.list _), _, _, _, hf => absurd hf List.not_mem_nil
termination_by structural type => type

/-- The findings of a message are found in its object. -/
theorem Shape.isFoundIn_of_mem_findings : ∀ (shape : Shape) (m : shape.Values),
    shape.isWellNamed = true → ∀ f ∈ shape.findings m, f.IsFoundIn (.obj (shape.encode m))
  | .nil, _, _, _, hf => absurd hf List.not_mem_nil
  | .cons field type rest, (v, m), h, f, hf => by
    obtain ⟨hfield, hwire, htype, hrest⟩ := Shape.isWellNamed_cons.1 h
    rw [Shape.findings, List.mem_append, List.mem_append] at hf
    rcases hf with hf | hf | hf
    · -- a rule of the field itself
      obtain ⟨b, hb, rfl⟩ := List.mem_map.1 hf
      obtain ⟨rule, -, hb⟩ := List.mem_filterMap.1 hb
      exact Rule.isFoundIn_of_breach? hb hfield hwire m
    · -- inside the field, which is set then
      obtain ⟨inner, hset, rfl⟩ := List.mem_map.1 hf
      obtain ⟨value, hvalue, hinner⟩ := List.mem_flatMap.1 hset
      obtain rfl := Option.mem_toList.1 hvalue
      have hfound := type.isFoundIn_of_mem_findings value htype inner hinner
      refine hfound.under_member hfield List.mem_cons_self ?_
      intro w hw
      rcases List.mem_cons.1 hw with hw | hw
      · exact (Prod.mk.inj hw).2
      · exact absurd hw (Shape.notMem_encode hwire m w)
    · -- in the fields behind it
      have hfound := rest.isFoundIn_of_mem_findings m hrest f hf
      cases v with
      | none => exact hfound
      | some value =>
        refine hfound.cons ?_ (type.encode value)
        obtain ⟨wire, hmem, hpath⟩ := Shape.head?_path_of_mem_findings hf
        rw [hpath, ne_eq, Option.some.injEq]
        intro heq
        exact hwire (heq ▸ hmem)
termination_by structural shape => shape

end

/-! ## Parameters at a way -/

namespace WireRequest

variable {d : Descriptor} {members : List (String × Json)}

/-- A source comes from a value of the request. -/
theorem IsSource.exists_at {s : Leaf} (h : IsSource d members s) :
    ∃ w, (Json.obj members).At s.path w := by
  cases h with
  | scalar hmem htext => exact ⟨_, .member hmem (.here _)⟩
  | packed hmem hpacked hv => exact ⟨_, .member hmem (.here _)⟩
  | inside hmem hpacked hv hat htext => exact ⟨_, .member hmem hat⟩

/-- A scalar is a source, unless it is inside a packed member. -/
theorem isSource_of_at {part : String} {path : List String} {w : Json} {text : String}
    (hat : (Json.obj members).At (part :: path) w) (htext : w.scalarText? = some text)
    (hpacked : path ≠ [] → d.isPacked part = false) :
    IsSource d members ⟨part :: path, text⟩ := by
  obtain ⟨v, hmem, hat⟩ := Json.at_obj_cons.1 hat
  cases hat with
  | here => exact .scalar hmem htext
  | member hinner h => exact .inside hmem (hpacked (by simp)) rfl (.member hinner h) htext
  | element hinner h => exact .inside hmem (hpacked (by simp)) rfl (.element hinner h) htext

variable (hdistinct : (Json.obj members).HasDistinctNames) (hallow : NamesAllow d members)

include hdistinct hallow

/-- A scalar is the text of the parameter with the name of its way, unless it is inside a
packed member. -/
theorem get?_shape_of_at {part : String} {path : List String} {w : Json} {text : String}
    (hat : (Json.obj members).At (part :: path) w) (htext : w.scalarText? = some text)
    (hpacked : path ≠ [] → d.isPacked part = false) :
    (shape d members).get? (dottedName (part :: path)) = some text := by
  rw [get?_shape_iff hdistinct hallow]
  exact ⟨_, (mem_sources_iff d).2 (isSource_of_at hat htext hpacked), rfl, rfl⟩

/-- Where a way leads nowhere, there is no parameter with its name or below. -/
theorem shape_of_not_at {path : List String} (hne : path ≠ [])
    (hdots : ∀ part ∈ path, IsDotless part) (hat : ∀ w, ¬ (Json.obj members).At path w) :
    (shape d members).get? (dottedName path) = none ∧
      (shape d members).below (dottedName path) = [] := by
  have hsource : ∀ s ∈ sources d members, ¬ path <+: s.path := by
    intro s hs hpath
    obtain ⟨more, hmore⟩ := hpath
    obtain ⟨w, hw⟩ := ((mem_sources_iff d).1 hs).exists_at
    rw [← hmore] at hw
    obtain ⟨u, hu, -⟩ := Json.at_append.1 hw
    exact hat u hu
  constructor
  · rw [Option.eq_none_iff_forall_ne_some]
    intro text htext
    obtain ⟨s, hs, hname, -⟩ := (get?_shape_iff hdistinct hallow _ _).1 htext
    obtain ⟨hsne, hsdots⟩ := isDotless_of_mem_sources hallow hs
    have hpath : path = s.path := dottedName_injective hne hsne hdots hsdots hname.symm
    exact hsource s hs (hpath ▸ List.prefix_rfl)
  · rw [Parameters.below, List.filter_eq_nil_iff]
    intro e he hbelow
    obtain ⟨s, hs, rfl⟩ := List.mem_map.1 ((entries_shape_perm hdistinct hallow).mem_iff.1 he)
    obtain ⟨hsne, hsdots⟩ := isDotless_of_mem_sources hallow hs
    obtain ⟨more, -, hmore⟩ :=
      (isBelow_dottedName_iff hne hsne hdots hsdots).1 (of_decide_eq_true hbelow)
    exact hsource s hs ⟨more, hmore.symm⟩

end WireRequest

/-! ## The violations of requests -/

/-- The violations of a request are its findings, in texts.  Each of them is found in the JSON
of the request.  A value that breaks a rule is the text of the parameter with the violation's
path, unless it is inside a packed field.  Where a required field is missing, there is no
parameter with the path as its name or below it. -/
theorem Operation.violations_name_parameters {op : Operation} {m : Message op.request}
    {error : ValidationError} (h : op.request.validate m = .error error) :
    ∃ w, WireRequest.assemble op.descriptor m.toJson = .ok w ∧
      error.violations = (op.request.shape.findings m).map Finding.violation ∧
      ∀ f ∈ op.request.shape.findings m, f.IsFoundIn m.toJson ∧
        (∀ text, f.breach.text? = some text → (∀ wire ∈ op.packed, ¬ f.LiesInside wire) →
          w.parameters.get? f.name = some text) ∧
        (f.breach = .missing →
          w.parameters.get? f.name = none ∧ w.parameters.below f.name = []) := by
  obtain ⟨hdistinct, hallow⟩ := Shape.namesAllow_encode op.descriptor op.isWellNamed_request m
  refine ⟨WireRequest.place op.descriptor (WireRequest.shape op.descriptor
    (op.request.shape.encode m)), rfl,
      MessageType.violations_of_validate op.isListed_request h, ?_⟩
  intro f hf
  have hfound := Shape.isFoundIn_of_mem_findings _ m op.isWellNamed_request f hf
  rw [WireRequest.place_parameters]
  refine ⟨hfound, ?_, ?_⟩
  · intro text htext houtside
    obtain ⟨part, more, hpath, hinside⟩ := f.exists_path_eq_cons
    have hpresent : f.breach ≠ .missing := by
      intro hmissing
      rw [hmissing] at htext
      cases htext
    obtain ⟨v, hat, -, hv⟩ := hfound.present hpresent
    rw [Finding.name, hpath]
    refine WireRequest.get?_shape_of_at hdistinct hallow (hpath ▸ hat) (hv text htext) ?_
    intro hmore
    rw [← Bool.not_eq_true, Descriptor.isPacked, List.contains_iff_mem]
    intro hpacked
    exact houtside part hpacked (hinside hmore)
  · intro hmissing
    exact WireRequest.shape_of_not_at hdistinct hallow f.path_ne_nil hfound.dotless
      (hfound.absent hmissing)

/-- A request with a text that is not allowed, a number outside its range, and a packed list
that holds a tag without a key. -/
theorem Operation.violations_name_parameters_of_tags :
    let m : Message Operation.listTagResources.request :=
      (some "vpc", none, some [Catalog.tag.unset], none, some 0, none, ())
    let allowed := Breach.notAllowed "vpc" Catalog.resourceTypes
    ∃ error, Operation.listTagResources.request.validate m = .error error ∧
      error.violations = [⟨"ResourceType", allowed.description⟩,
        ⟨"Tag.1.Key", "field is required"⟩,
        ⟨"MaxResults", "value 0 is outside the range [1, 100]"⟩] ∧
      ∃ w, WireRequest.assemble Operation.listTagResources.descriptor m.toJson = .ok w ∧
        w.parameters.get? "ResourceType" = some "vpc" ∧ w.parameters.get? "Tag.1.Key" = none ∧
        w.parameters.get? "MaxResults" = some "0" := by
  intro m allowed
  have hfindings : Operation.listTagResources.request.shape.findings m =
      [⟨[], "ResourceType", allowed⟩, ⟨["Tag", "1"], "Key", .missing⟩,
        ⟨[], "MaxResults", .outside 0 1 100⟩] := by decide +kernel
  have hrefused : Operation.listTagResources.request.validate m = .error ⟨[
      ⟨"ResourceType", allowed.description⟩, ⟨"Tag.1.Key", "field is required"⟩,
      ⟨"MaxResults", "value 0 is outside the range [1, 100]"⟩]⟩ := by
    rw [MessageType.validate_eq (isListed_request _), hfindings]
    decide +kernel
  obtain ⟨w, hw, -, hparameters⟩ := violations_name_parameters hrefused
  rw [hfindings, List.forall_mem_cons, List.forall_mem_cons,
    List.forall_mem_singleton] at hparameters
  obtain ⟨htype, hkey, hresults⟩ := hparameters
  have hname : dottedName ["Tag", "1", "Key"] = "Tag.1.Key" := by decide +kernel
  refine ⟨_, hrefused, rfl, w, hw, ?_, ?_, ?_⟩
  · simpa [Finding.name, Finding.path] using htype.2.1 "vpc" rfl (by decide)
  · rw [← hname]
    exact (hkey.2.2 rfl).1
  · simpa [Finding.name, Finding.path] using hresults.2.1 "0" rfl (by decide)

end BalancerClient
