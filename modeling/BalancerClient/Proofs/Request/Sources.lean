import BalancerClient.Proofs.Request.Leaves
import BalancerClient.Request.Wire

/-!
# Where parameters come from

The parameters of a request come from three places: from the members that are scalars, from
the members that are sent as one parameter each, and from the scalars inside all other
members.  They are listed here in one list, of the request's sources.  When no name holds a
point the sources have different names, so none of the three overwrites what another one has
set.

## Main definitions

* `WireRequest.IsSource`, `WireRequest.sources` - what the parameters of a request come from.
* `WireRequest.IsPlaced` - the parameters of a request in wire form are where its descriptor
  says.

## Main statements

* `WireRequest.entries_shape_perm` - the parameters are those of the sources.
* `WireRequest.assemble_lossless` - a request in wire form has lost nothing.
-/

namespace BalancerClient.WireRequest

variable (d : Descriptor)

/-- What a parameter of a request comes from. -/
inductive IsSource (members : List (String × Json)) : Leaf → Prop where
  /-- A member that is a scalar. -/
  | scalar {name text : String} {v : Json} (hmem : (name, v) ∈ members)
      (htext : v.scalarText? = some text) : IsSource members ⟨[name], text⟩
  /-- A packed member that is an array or an object. -/
  | packed {name : String} {v : Json} (hmem : (name, v) ∈ members)
      (hpacked : d.isPacked name = true) (hv : v.isStructured = true) :
      IsSource members ⟨[name], v.compact⟩
  /-- A scalar inside any other array or object. -/
  | inside {name text : String} {v w : Json} {path : List String} (hmem : (name, v) ∈ members)
      (hpacked : d.isPacked name = false) (hv : v.isStructured = true) (hat : v.At path w)
      (htext : w.scalarText? = some text) : IsSource members ⟨name :: path, text⟩

/-- What the parameters of a member come from: a member that is packed from the member itself,
any other from the scalars inside it. -/
def memberSources (m : String × Json) : List Leaf :=
  if d.isPacked m.1 && m.2.isStructured then [⟨[m.1], m.2.compact⟩]
  else m.2.leaves.map (.under m.1)

/-- What the parameters of a request come from, in the order of the request. -/
def sources (members : List (String × Json)) : List Leaf := members.flatMap (memberSources d)

@[simp] theorem sources_nil : sources d [] = [] := rfl

@[simp] theorem sources_cons (m : String × Json) (members : List (String × Json)) :
    sources d (m :: members) = memberSources d m ++ sources d members := rfl

theorem mem_sources_iff {members : List (String × Json)} {s : Leaf} :
    s ∈ sources d members ↔ IsSource d members s := by
  rw [sources, List.mem_flatMap]
  constructor
  · intro h
    obtain ⟨⟨name, v⟩, hmem, hs⟩ := h
    rw [memberSources] at hs
    split at hs
    · next hcond =>
      rw [Bool.and_eq_true] at hcond
      obtain rfl := List.mem_singleton.1 hs
      exact .packed hmem hcond.1 hcond.2
    · next hcond =>
      obtain ⟨⟨path, text⟩, hl, rfl⟩ := List.mem_map.1 hs
      by_cases hv : v.isStructured = true
      · obtain ⟨w, hat, hw⟩ := Json.mem_leaves_iff.1 hl
        have hpacked : d.isPacked name = false := by simpa [hv] using hcond
        exact .inside hmem hpacked hv hat hw
      · -- a member that is neither an array nor an object has at most itself inside
        obtain ⟨rfl, htext⟩ : path = [] ∧ v.scalarText? = some text := by
          cases v <;> simp_all [Json.isStructured, Json.leaves, Json.scalarText?]
        exact .scalar hmem htext
  · intro hs
    cases hs with
    | @scalar name text v hmem htext =>
      have hv : v.isStructured = false := by
        cases v <;> simp_all [Json.isStructured, Json.scalarText?]
      refine ⟨(name, v), hmem, ?_⟩
      simp [memberSources, hv, Json.leaves_of_scalarText? htext, Leaf.under]
    | @packed name v hmem hpacked hv =>
      refine ⟨(name, v), hmem, ?_⟩
      simp [memberSources, hpacked, hv]
    | @inside name text v w path hmem hpacked hv hat htext =>
      refine ⟨(name, v), hmem, ?_⟩
      rw [memberSources, hpacked, Bool.false_and, if_neg Bool.false_ne_true]
      exact List.mem_map.2 ⟨⟨path, text⟩, Json.mem_leaves_iff.2 ⟨w, hat, htext⟩, rfl⟩

/-! ## The three producers -/

/-- The parameter of a member that is a scalar. -/
def scalarPair? (m : String × Json) : Option (String × String) := m.2.scalarText?.map (m.1, ·)

theorem foldl_add (members : List (String × Json)) (p : Partition) :
    members.foldl (fun p (name, v) => p.add name v) p =
      ⟨p.simple.insertAll (members.filterMap scalarPair?),
        p.structured ++ members.filter (·.2.isStructured)⟩ := by
  induction members generalizing p with
  | nil => simp
  | cons m rest ih =>
    obtain ⟨name, v⟩ := m
    rw [List.foldl_cons, ih]
    cases v <;>
      simp [Partition.add, Json.scalarText?, Json.isStructured, scalarPair?,
        List.filterMap_cons]

/-- The scalars of an object, and its arrays and objects. -/
theorem partition_eq (members : List (String × Json)) :
    partition members =
      ⟨.ofList (members.filterMap scalarPair?), members.filter (·.2.isStructured)⟩ := by
  rw [partition, foldl_add]
  rfl

/-- An array or an object sets the parameters of its sources. -/
theorem setField_eq_insertAll {v : Json} (hv : v.isStructured = true) (name : String)
    (p : Parameters) :
    setField d name v p = p.insertAll ((memberSources d (name, v)).map Leaf.entry) := by
  rw [setField, memberSources, hv, Bool.and_true]
  by_cases hpacked : d.isPacked name = true
  · have hnull : v.isNull = false := by cases v <;> simp_all [Json.isStructured, Json.isNull]
    simp [hpacked, Json.pack, hnull, Leaf.entry, Leaf.name]
  · have hflat : Json.FlattensTo [name] v := Json.flatten_eq_insertAll v (by simp)
    have hflat := hflat p
    rw [dottedName_singleton] at hflat
    rw [if_neg hpacked, if_neg hpacked, hflat]
    simp [Function.comp_def, Leaf.entry, Leaf.name]

/-- The parameters are set from the scalars first, and then from the arrays and objects. -/
theorem shape_eq_ofList (members : List (String × Json)) :
    shape d members = .ofList (members.filterMap scalarPair? ++
      (members.filter (·.2.isStructured)).flatMap fun m =>
        (memberSources d m).map Leaf.entry) := by
  have hfold : ∀ {structured : List (String × Json)} (p : Parameters),
      (∀ m ∈ structured, m.2.isStructured = true) →
      structured.foldl (fun p (name, v) => setField d name v p) p =
        p.insertAll (structured.flatMap fun m => (memberSources d m).map Leaf.entry) := by
    intro structured
    induction structured with
    | nil =>
      intro p _
      rfl
    | cons m rest ih =>
      intro p h
      obtain ⟨name, v⟩ := m
      have hv : v.isStructured = true := h _ List.mem_cons_self
      show rest.foldl _ (setField d name v p) = _
      rw [setField_eq_insertAll d hv, List.flatMap_cons, Parameters.insertAll_append,
        ih _ fun m hm => h m (List.mem_cons_of_mem _ hm)]
  simp only [shape, partition_eq]
  rw [Parameters.ofList, Parameters.ofList, Parameters.insertAll_append]
  refine hfold _ ?_
  intro m hm
  exact (List.mem_filter.1 hm).2

/-- The producers together have the sources, in another order. -/
theorem producers_perm (members : List (String × Json)) :
    (members.filterMap scalarPair? ++
      (members.filter (·.2.isStructured)).flatMap fun m =>
        (memberSources d m).map Leaf.entry).Perm ((sources d members).map Leaf.entry) := by
  induction members with
  | nil => exact .nil
  | cons m rest ih =>
    obtain ⟨name, v⟩ := m
    rw [sources_cons, List.map_append]
    by_cases hv : v.isStructured = true
    · have hscalar : scalarPair? (name, v) = none := by
        cases v <;> simp_all [Json.isStructured, scalarPair?, Json.scalarText?]
      rw [List.filterMap_cons_none hscalar, List.filter_cons, if_pos hv, List.flatMap_cons]
      exact (List.perm_append_comm_assoc _ _ _).trans (ih.append_left _)
    · rw [List.filter_cons, if_neg hv, memberSources, Bool.eq_false_iff.2 hv, Bool.and_false,
        if_neg Bool.false_ne_true]
      cases htext : v.scalarText? with
      | none =>
        have hnull : v = .null :=
          by cases v <;> simp_all [Json.isStructured, Json.scalarText?]
        subst hnull
        rw [List.filterMap_cons_none (by rw [scalarPair?, htext, Option.map_none])]
        exact ih
      | some text =>
        rw [List.filterMap_cons_some (b := (name, text))
          (by rw [scalarPair?, htext, Option.map_some]), Json.leaves_of_scalarText? htext]
        simpa [Leaf.entry, Leaf.name, Leaf.under] using ih

/-! ## Different names -/

/-- What is asked of the names in a request: those outside the packed members hold no
point. -/
def NamesAllow (members : List (String × Json)) : Prop :=
  ∀ m ∈ members, IsDotless m.1 ∧ (d.isPacked m.1 = false → m.2.HasDotlessNames)

variable {d} {members : List (String × Json)}

theorem path_of_mem_memberSources {m : String × Json} {s : Leaf}
    (hs : s ∈ memberSources d m) :
    ∃ path, s.path = m.1 :: path := by
  rw [memberSources] at hs
  split at hs
  · obtain rfl := List.mem_singleton.1 hs
    exact ⟨[], rfl⟩
  · obtain ⟨l, -, rfl⟩ := List.mem_map.1 hs
    exact ⟨l.path, rfl⟩

/-- Inside a member that is not packed, a scalar stands below nothing but names and
numbers. -/
theorem isDotless_of_mem_memberSources {m : String × Json} (hname : IsDotless m.1)
    (h : d.isPacked m.1 = false → m.2.HasDotlessNames) {s : Leaf}
    (hs : s ∈ memberSources d m) :
    ∀ part ∈ s.path, IsDotless part := by
  rw [memberSources] at hs
  split at hs
  · obtain rfl := List.mem_singleton.1 hs
    simpa using hname
  · next hcond =>
    obtain ⟨l, hl, rfl⟩ := List.mem_map.1 hs
    rw [Leaf.under_path, List.forall_mem_cons]
    refine ⟨hname, ?_⟩
    by_cases hpacked : d.isPacked m.1 = true
    · -- a packed member that is no array or object is a scalar, with nothing below it
      have hv : m.2.isStructured = false := by simpa [hpacked] using hcond
      cases hm : m.2 <;> simp_all [Json.isStructured, Json.leaves]
    · exact Json.isDotless_of_mem_leaves (h (Bool.eq_false_iff.2 hpacked)) hl

theorem nodup_memberSources {m : String × Json} (h : m.2.HasDistinctNames) :
    ((memberSources d m).map Leaf.path).Nodup := by
  rw [memberSources]
  split
  · simp
  · have hpath : (m.2.leaves.map (Leaf.under m.1)).map Leaf.path =
        (m.2.leaves.map Leaf.path).map (m.1 :: ·) := by simp [Function.comp_def]
    rw [hpath]
    exact (Json.nodup_leaves h).map List.cons_injective

/-- No two sources share a way. -/
theorem nodup_path_sources (h : (Json.obj members).HasDistinctNames) :
    ((sources d members).map Leaf.path).Nodup := by
  rw [Json.hasDistinctNames_obj] at h
  obtain ⟨hnames, hinner⟩ := h
  induction members with
  | nil => simp
  | cons m rest ih =>
    rw [List.map_cons, List.nodup_cons] at hnames
    rw [sources_cons, List.map_append, List.nodup_append]
    refine ⟨nodup_memberSources (hinner m List.mem_cons_self),
      ih hnames.2 fun m hm => hinner m (List.mem_cons_of_mem _ hm), ?_⟩
    intro path hpath path' hpath' heq
    obtain ⟨s, hs, rfl⟩ := List.mem_map.1 hpath
    obtain ⟨s', hs', rfl⟩ := List.mem_map.1 hpath'
    obtain ⟨m', hm', hs'⟩ := List.mem_flatMap.1 hs'
    obtain ⟨tail, htail⟩ := path_of_mem_memberSources hs
    obtain ⟨tail', htail'⟩ := path_of_mem_memberSources hs'
    rw [htail, htail', List.cons.injEq] at heq
    exact hnames.1 (List.mem_map.2 ⟨m', hm', heq.1.symm⟩)

/-- The ways of the sources are not empty, and none of their parts holds a point. -/
theorem isDotless_of_mem_sources (h : NamesAllow d members) {s : Leaf}
    (hs : s ∈ sources d members) : s.path ≠ [] ∧ ∀ part ∈ s.path, IsDotless part := by
  obtain ⟨m, hm, hs⟩ := List.mem_flatMap.1 hs
  obtain ⟨path, hpath⟩ := path_of_mem_memberSources hs
  refine ⟨by simp [hpath], ?_⟩
  exact isDotless_of_mem_memberSources (h m hm).1 (h m hm).2 hs

/-- Different sources have different names. -/
theorem nodup_name_sources (hdistinct : (Json.obj members).HasDistinctNames)
    (hallow : NamesAllow d members) : ((sources d members).map Leaf.name).Nodup := by
  have hname : (sources d members).map Leaf.name =
      ((sources d members).map Leaf.path).map dottedName := by
    simp [Leaf.name, Function.comp_def]
  rw [hname]
  refine (nodup_path_sources hdistinct).map_on ?_
  intro path hpath path' hpath' h
  obtain ⟨s, hs, rfl⟩ := List.mem_map.1 hpath
  obtain ⟨s', hs', rfl⟩ := List.mem_map.1 hpath'
  obtain ⟨hne, hdots⟩ := isDotless_of_mem_sources hallow hs
  obtain ⟨hne', hdots'⟩ := isDotless_of_mem_sources hallow hs'
  exact dottedName_injective hne hne' hdots hdots' h

theorem map_fst_map_entry (sources : List Leaf) :
    (sources.map Leaf.entry).map Prod.fst = sources.map Leaf.name := by
  simp [Leaf.entry, Function.comp_def]

/-- The parameters of a request are those of its sources. -/
theorem shape_eq_ofList_sources (hdistinct : (Json.obj members).HasDistinctNames)
    (hallow : NamesAllow d members) :
    shape d members = .ofList ((sources d members).map Leaf.entry) := by
  have hnames := nodup_name_sources hdistinct hallow
  rw [← map_fst_map_entry] at hnames
  have hperm := producers_perm d members
  rw [shape_eq_ofList]
  exact (Parameters.ofList_eq_iff ((hperm.map Prod.fst).nodup_iff.2 hnames) hnames).2 hperm

/-- The parameters of a request are those of its sources, one for each. -/
theorem entries_shape_perm (hdistinct : (Json.obj members).HasDistinctNames)
    (hallow : NamesAllow d members) :
    (shape d members).entries.Perm ((sources d members).map Leaf.entry) := by
  have hnames := nodup_name_sources hdistinct hallow
  rw [← map_fst_map_entry] at hnames
  rw [shape_eq_ofList_sources hdistinct hallow]
  exact Parameters.entries_ofList_perm hnames

/-- A name has the text of the source of that name. -/
theorem get?_shape_iff (hdistinct : (Json.obj members).HasDistinctNames)
    (hallow : NamesAllow d members) (name text : String) :
    (shape d members).get? name = some text ↔
      ∃ s ∈ sources d members, s.name = name ∧ s.text = text := by
  rw [← Parameters.mem_entries_iff, (entries_shape_perm hdistinct hallow).mem_iff,
    List.mem_map]
  simp only [Leaf.entry, Prod.mk.injEq]

/-! ## Requests in wire form -/

/-- The parameters of a request in wire form are where its descriptor says, and nowhere
else. -/
def IsPlaced (w : WireRequest) : Prop :=
  (w.descriptor.location = .query → w.query = w.parameters ∧ w.body = {}) ∧
    (w.descriptor.location = .body → w.query = {} ∧ w.body = w.parameters)

@[simp] theorem place_descriptor (d : Descriptor) (p : Parameters) :
    (place d p).descriptor = d := by
  cases hloc : d.location <;> simp [place, hloc]

@[simp] theorem place_parameters (d : Descriptor) (p : Parameters) :
    (place d p).parameters = p := by
  have hp : Parameters.empty.insertAll p.entries = p := Parameters.ofList_entries p
  cases hloc : d.location with
  | query => simp [place, hloc, parameters, EmptyCollection.emptyCollection, Parameters.empty]
  | body => simp [place, hloc, parameters, EmptyCollection.emptyCollection, hp]

theorem isPlaced_place (d : Descriptor) (p : Parameters) : (place d p).IsPlaced := by
  rw [IsPlaced, place_descriptor, place_parameters]
  constructor
  · intro hloc
    simp [place, hloc]
  · intro hloc
    simp [place, hloc]

/-- What is assembled has its descriptor, and its parameters are where that says. -/
theorem descriptor_of_assemble {d : Descriptor} {v : Json} {w : WireRequest}
    (h : assemble d v = .ok w) : w.descriptor = d ∧ w.IsPlaced := by
  cases v with
  | obj members =>
    obtain rfl := Except.ok.inj h
    exact ⟨place_descriptor _ _, isPlaced_place _ _⟩
  | null => cases h
  | bool b => cases h
  | num n => cases h
  | str s => cases h
  | arr items => cases h

/-- Nothing of a request is lost on the way into the wire form.  An object whose names hold no
point, as far as they are not inside packed members, is always assembled, and its parameters
are exactly those of its sources; the sources have different names, so there are as many
parameters as sources.  They are placed where the descriptor says.  What is not an object is
refused. -/
theorem assemble_lossless (d : Descriptor) :
    (∀ members, (Json.obj members).HasDistinctNames → NamesAllow d members →
      ∃ w, assemble d (.obj members) = .ok w ∧ w.descriptor = d ∧
        (∀ name text, w.parameters.get? name = some text ↔
          ∃ s, IsSource d members s ∧ s.name = name ∧ s.text = text) ∧
        (∀ s s', IsSource d members s → IsSource d members s' → s.name = s'.name → s = s') ∧
        w.parameters.entries.Perm ((sources d members).map Leaf.entry) ∧
        w.parameters.size = (sources d members).length ∧
        w.IsPlaced) ∧
    ∀ v, (∀ members, v ≠ .obj members) → ∃ payload, assemble d v =
      .error (.serialization payload) := by
  constructor
  · intro members hdistinct hallow
    have hperm := entries_shape_perm hdistinct hallow
    refine ⟨place d (shape d members), rfl, place_descriptor _ _, ?_, ?_, ?_, ?_,
      isPlaced_place d (shape d members)⟩
    · intro name text
      rw [place_parameters, get?_shape_iff hdistinct hallow]
      simp only [mem_sources_iff]
    · intro s s' hs hs' hname
      rw [← mem_sources_iff] at hs hs'
      exact List.inj_on_of_nodup_map (nodup_name_sources hdistinct hallow) hs hs' hname
    · rw [place_parameters]
      exact hperm
    · rw [place_parameters, Parameters.size, hperm.length_eq, List.length_map]
  · intro v hv
    cases v with
    | obj members => exact absurd rfl (hv members)
    | null => exact ⟨_, rfl⟩
    | bool b => exact ⟨_, rfl⟩
    | num n => exact ⟨_, rfl⟩
    | str s => exact ⟨_, rfl⟩
    | arr items => exact ⟨_, rfl⟩

/-- A request with a scalar, a packed list with a point in a name, and a list of which the
first element is null and the second has a member with the empty name. -/
theorem assemble_lossless_of_three_producers :
    let d := { Descriptor.rpc "Call" "1" .post with packed := ["Tag"] }
    let members : List (String × Json) := [("Name", .str "a"),
      ("Tag", .arr [.obj [("k.k", .null)]]), ("Item", .arr [.null, .obj [("", .bool true)]])]
    (Json.obj members).HasDistinctNames ∧ NamesAllow d members ∧
      ∃ w, assemble d (.obj members) = .ok w ∧ w.query = {} ∧
        w.body.entries.Perm
          [("Name", "a"), ("Tag", "[\x7b\"k.k\":null\x7d]"), ("Item.2.", "true")] := by
  intro d members
  have hdistinct : (Json.obj members).HasDistinctNames := by decide
  have hallow : NamesAllow d members := by
    simp only [NamesAllow, members, List.forall_mem_cons]
    decide
  obtain ⟨w, hw, hd, -, -, hperm, -, hplaced⟩ :=
    (assemble_lossless d).1 members hdistinct hallow
  obtain ⟨hquery, hbody⟩ := hplaced.2 (by rw [hd]; rfl)
  refine ⟨hdistinct, hallow, w, hw, hquery, ?_⟩
  rw [hbody]
  exact hperm

end BalancerClient.WireRequest
