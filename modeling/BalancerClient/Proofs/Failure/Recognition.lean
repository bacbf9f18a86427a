import BalancerClient.Proofs.Failure.Members
import BalancerClient.Proofs.Json.Octets
import Mathlib.Data.List.Nodup

/-!
# Which payloads are recognised

A payload is recognised by its known members alone: none of them may occur twice, there must
be a code, and each value must be of the kind of its member.  Neither the order of the members
nor any unknown member matters.

A draft is compared with a text through the values of its members as JSON.  A run over the
known members sets the entry of each of them once and leaves the other entries as they were;
so the draft of a text is known as soon as there is one.

## Main definitions

* `ObjectText.valuesOf` - the texts of the values that a member is given.
* `ObjectText.IsReadable` - what is in the members that matter can be read at all.
* `ObjectText.IsRecognised`, `ObjectText.Holds` - the conditions on a payload, and what it
  says.
* `Draft.Extends` - what a run over known members does to a draft.

## Main statements

* `Status.ofPayload_eq_ok_iff` - the payload that is read, of any text of an object.
* `Status.ofPayload_recognises` - which texts are payloads, what they hold, and what does not
  matter.
* `Status.ofPayload_ofText` - the two ways to read a payload agree on texts with a code.
-/

namespace BalancerClient

/-! ## What a payload must be -/

namespace Status.Member

/-- Whether a text is of the kind of a member's value. -/
def fits : Member → JsonText → Bool
  | .code, v => v.isString
  | .message, v => v.isString
  | .requestId, v => v.isNull || v.isString
  | .hostId, v => v.isNull || v.isString
  | .recommend, v => v.isNull || v.isString
  | .accessDeniedDetail, v => v.nesting ≤ 126

/-- The value of a member that does not occur. -/
def default : Member → Json
  | .code => .str ""
  | .message => .str ""
  | .requestId => .null
  | .hostId => .null
  | .recommend => .null
  | .accessDeniedDetail => .null

end Status.Member

namespace ObjectText

open Status (Member)

variable (t : ObjectText)

/-- The texts of the values that a member is given. -/
def valuesOf (m : Member) : List JsonText := (t.known.filter fun p => p.1 == m).map Prod.snd

/-- The names of all members can be read. -/
def HasReadableNames : Prop := ∀ p ∈ t.members, p.1.body.text?.isSome

/-- The text is in UTF-8, no half of a surrogate pair stands alone in a name or in a known
member, and no number in the details is too large. -/
structure IsReadable : Prop where
  utf8 : (Utf8.decode? t.octets).isSome
  names : ∀ p ∈ t.members, p.1.body.IsPaired
  strings : ∀ m, ∀ v ∈ t.valuesOf m, ∀ s ∈ v.strings, s.IsPaired
  numbers : ∀ v ∈ t.valuesOf .accessDeniedDetail, ∀ n ∈ v.numbers, n.value?.isSome

/-- No known member occurs twice, there is a code, and every value is of its kind. -/
structure IsRecognised : Prop where
  once : ∀ m, (t.valuesOf m).length ≤ 1
  code : t.valuesOf .code ≠ []
  fits : ∀ m, ∀ v ∈ t.valuesOf m, m.fits v

/-- A payload has the values that a text gives its members, and defaults for the others.
Details of null are no details. -/
structure Holds (s : Status) : Prop where
  given : ∀ m, ∀ v ∈ t.valuesOf m, v.value? = some (s.memberJson m)
  absent : ∀ m, t.valuesOf m = [] → s.memberJson m = m.default
  detail : s.accessDeniedDetail ≠ some .null

variable {t}

theorem mem_valuesOf {m : Member} {v : JsonText} : v ∈ t.valuesOf m ↔ (m, v) ∈ t.known := by
  constructor
  · intro h
    obtain ⟨⟨n, w⟩, hp, rfl⟩ := List.mem_map.1 h
    obtain ⟨hmem, hn⟩ := List.mem_filter.1 hp
    obtain rfl : n = m := eq_of_beq hn
    exact hmem
  · intro h
    exact List.mem_map.2 ⟨(m, v), List.mem_filter.2 ⟨h, beq_self_eq_true m⟩, rfl⟩

theorem valuesOf_eq_nil {m : Member} : t.valuesOf m = [] ↔ m ∉ t.known.map Prod.fst := by
  rw [List.eq_nil_iff_forall_not_mem, List.mem_map]
  constructor
  · rintro h ⟨⟨n, v⟩, hp, rfl⟩
    exact h v (mem_valuesOf.2 hp)
  · intro h v hv
    exact h ⟨(m, v), mem_valuesOf.1 hv, rfl⟩

/-- No known member occurs twice exactly if the known members are different ones. -/
theorem length_valuesOf_le_one :
    (∀ m, (t.valuesOf m).length ≤ 1) ↔ (t.known.map Prod.fst).Nodup := by
  rw [List.nodup_iff_count_le_one]
  refine forall_congr' fun m => ?_
  rw [valuesOf, List.length_map, List.count, List.countP_map, List.countP_eq_length_filter]
  rfl

end ObjectText

namespace Status

/-! ## Entries of a draft -/

/-- What has been read of a member, as JSON. -/
def Draft.entry? (d : Draft) : Member → Option Json
  | .code => d.code.map .str
  | .message => d.message.map .str
  | .requestId => d.requestId.map .optional
  | .hostId => d.hostId.map .optional
  | .recommend => d.recommend.map .optional
  | .accessDeniedDetail => d.accessDeniedDetail.map fun j => j.getD .null

/-- The details that have been read, if any, are not null. -/
def Draft.IsProper (d : Draft) : Prop := d.accessDeniedDetail ≠ some (some .null)

/-- What is read as a member. -/
def Member.reading? (m : Member) (v : JsonText) : Option Json :=
  if m.fits v then v.value? else none

theorem Draft.has_eq_isSome (d : Draft) (m : Member) : d.has m = (d.entry? m).isSome := by
  cases m <;> simp [Draft.has, Draft.entry?]

/-- The payload of a draft has the entries of the draft, and defaults for the others. -/
theorem Draft.memberJson_toStatus (d : Draft) (m : Member) :
    d.toStatus.memberJson m = (d.entry? m).getD m.default := by
  obtain ⟨code, message, requestId, hostId, recommend, detail⟩ := d
  cases m with
  | code => cases code <;> rfl
  | message => cases message <;> rfl
  | requestId => cases requestId <;> rfl
  | hostId => cases hostId <;> rfl
  | recommend => cases recommend <;> rfl
  | accessDeniedDetail => cases detail <;> rfl

section Readings

variable (v : JsonText)

theorem map_text? : v.text?.map Json.str = if v.isString then v.value? else none := by
  cases v <;> rfl

theorem map_orNull?_text? : (v.orNull? JsonText.text?).map Json.optional =
    if v.isNull || v.isString then v.value? else none := by
  cases v with
  | str s =>
    show (s.text?.map some).map Json.optional = s.text?.map Json.str
    rw [Option.map_map]
    rfl
  | null | bool _ | num _ | arr _ _ | obj _ _ => rfl

theorem map_orNull?_valueUpTo? (depth : Nat) :
    (v.orNull? fun v => v.valueUpTo? depth).map (fun j => j.getD .null) =
      v.valueUpTo? depth := by
  rw [JsonText.orNull?]
  cases hnull : v.isNull with
  | true =>
    obtain rfl : v = .null := by
      cases v <;> first | rfl | cases hnull
    rfl
  | false =>
    simp [Option.map_map, Function.comp_def]

/-- Only null stands for null. -/
theorem isNull_of_value? (h : v.value? = some .null) : v.isNull = true := by
  cases v <;> simp_all [JsonText.value?, JsonText.isNull]

end Readings

section Setting

variable {v : JsonText} {d d' : Draft} {m : Member}

/-- A member that is set has what is read as its value; it cannot be set if there is nothing
to read. -/
theorem Draft.map_entry?_put? :
    (d.put? v m).map (fun d => d.entry? m) = (m.reading? v).map some := by
  cases m
  case code | message =>
    refine Eq.trans ?_ (congrArg (Option.map some) (map_text? v))
    simp only [Draft.put?, Option.map_map]
    rfl
  case requestId | hostId | recommend =>
    refine Eq.trans ?_ (congrArg (Option.map some) (map_orNull?_text? v))
    simp only [Draft.put?, Option.map_map]
    rfl
  case accessDeniedDetail =>
    have hread : Member.accessDeniedDetail.reading? v = v.valueUpTo? detailNesting :=
      if_congr (decide_eq_true_iff) rfl rfl
    rw [hread]
    refine Eq.trans ?_ (congrArg (Option.map some) (map_orNull?_valueUpTo? v detailNesting))
    simp only [Draft.put?, Option.map_map]
    rfl

theorem Draft.isSome_put? : (d.put? v m).isSome = (m.reading? v).isSome := by
  have h := congrArg Option.isSome (map_entry?_put? (v := v) (d := d) (m := m))
  rwa [Option.isSome_map, Option.isSome_map] at h

theorem Draft.entry?_put? (h : d.put? v m = some d') :
    ∃ j, m.reading? v = some j ∧ d'.entry? m = some j := by
  have hentry := map_entry?_put? (v := v) (d := d) (m := m)
  rw [h, Option.map_some, eq_comm, Option.map_eq_some_iff] at hentry
  obtain ⟨j, hj, hd⟩ := hentry
  exact ⟨j, hj, hd.symm⟩

/-- Setting a member leaves the others as they were. -/
theorem Draft.entry?_put?_of_ne (h : d.put? v m = some d') {n : Member} (hn : n ≠ m) :
    d'.entry? n = d.entry? n := by
  cases m
  all_goals
    obtain ⟨a, -, rfl⟩ := Option.map_eq_some_iff.1 h
    cases n <;> first | rfl | exact absurd rfl hn

/-- Null is not kept as details. -/
theorem Draft.isProper_put? (h : d.put? v m = some d') (hd : d.IsProper) : d'.IsProper := by
  cases m
  case accessDeniedDetail =>
    obtain ⟨a, ha, rfl⟩ := Option.map_eq_some_iff.1 h
    rintro he
    obtain rfl : a = some .null := Option.some.inj he
    rw [JsonText.orNull?] at ha
    split at ha
    · cases ha
    · next hnull =>
      obtain ⟨j, hj, hnil⟩ := Option.map_eq_some_iff.1 ha
      obtain rfl : j = .null := Option.some.inj hnil
      rw [JsonText.valueUpTo?] at hj
      split at hj
      · exact hnull (isNull_of_value? v hj)
      · cases hj
  all_goals
    obtain ⟨a, -, rfl⟩ := Option.map_eq_some_iff.1 h
    exact hd

end Setting

/-! ## Runs over known members -/

/-- What a run over known members does to a draft: each of them is different, new and has a
value that can be read, which becomes its entry, and the other entries stay. -/
structure Draft.Extends (d : Draft) (known : List (Member × JsonText)) (d' : Draft) :
    Prop where
  distinct : (known.map Prod.fst).Nodup
  fresh : ∀ p ∈ known, d.entry? p.1 = none
  given : ∀ p ∈ known, ∃ j, p.1.reading? p.2 = some j ∧ d'.entry? p.1 = some j
  others : ∀ m ∉ known.map Prod.fst, d'.entry? m = d.entry? m
  proper : d.IsProper → d'.IsProper

variable {d d' : Draft}

theorem Draft.take?_eq_some {p : Member × JsonText} :
    d.take? p = some d' ↔ d.entry? p.1 = none ∧ d.put? p.2 p.1 = some d' := by
  rw [Draft.take?, Draft.has_eq_isSome]
  cases d.entry? p.1 <;> simp

/-- A run sets each known member once. -/
theorem extends_of_foldlM {known : List (Member × JsonText)}
    (h : known.foldlM Draft.take? d = some d') : d.Extends known d' := by
  induction known generalizing d with
  | nil =>
    obtain rfl : d = d' := Option.some.inj h
    exact ⟨List.nodup_nil, List.forall_mem_nil _, List.forall_mem_nil _, fun _ _ => rfl, id⟩
  | cons p known ih =>
    rw [List.foldlM_cons] at h
    obtain ⟨next, hp, hrest⟩ := Option.bind_eq_some_iff.1 h
    obtain ⟨hfresh, hput⟩ := Draft.take?_eq_some.1 hp
    obtain ⟨j, hread, hentry⟩ := Draft.entry?_put? hput
    have hrun := ih hrest
    have hother := fun n hn => Draft.entry?_put?_of_ne hput (n := n) hn
    -- the run behind it starts with the first member set, and takes only members that are not
    have hnotin : p.1 ∉ known.map Prod.fst := by
      intro hmem
      obtain ⟨q, hq, he⟩ := List.mem_map.1 hmem
      have := hrun.fresh q hq
      rw [he, hentry] at this
      cases this
    refine ⟨?_, ?_, ?_, ?_, ?_⟩
    · exact List.nodup_cons.2 ⟨hnotin, hrun.distinct⟩
    · refine List.forall_mem_cons.2 ⟨hfresh, fun q hq => ?_⟩
      have hne : q.1 ≠ p.1 := fun he => hnotin (he ▸ List.mem_map_of_mem hq)
      rw [← hother q.1 hne]
      exact hrun.fresh q hq
    · refine List.forall_mem_cons.2 ⟨⟨j, hread, ?_⟩, hrun.given⟩
      rw [hrun.others p.1 hnotin, hentry]
    · intro m hm
      rw [List.map_cons, List.mem_cons, not_or] at hm
      rw [hrun.others m hm.2, hother m hm.1]
    · exact fun hd => hrun.proper (Draft.isProper_put? hput hd)

/-- There is a run if the known members are different and new and their values can be read. -/
theorem exists_foldlM {known : List (Member × JsonText)}
    (hdistinct : (known.map Prod.fst).Nodup) (hfresh : ∀ p ∈ known, d.entry? p.1 = none)
    (hread : ∀ p ∈ known, (p.1.reading? p.2).isSome) :
    ∃ d', known.foldlM Draft.take? d = some d' := by
  induction known generalizing d with
  | nil => exact ⟨d, rfl⟩
  | cons p known ih =>
    obtain ⟨hp, hrest⟩ := List.forall_mem_cons.1 hread
    obtain ⟨hnew, hfresh⟩ := List.forall_mem_cons.1 hfresh
    obtain ⟨hnotin, hdistinct⟩ := List.nodup_cons.1 hdistinct
    obtain ⟨next, hput⟩ := Option.isSome_iff_exists.1 ((Draft.isSome_put? (d := d)).trans hp)
    have hnext : ∀ q ∈ known, next.entry? q.1 = none := by
      intro q hq
      have hne : q.1 ≠ p.1 := fun he => hnotin (he ▸ List.mem_map_of_mem hq)
      rw [Draft.entry?_put?_of_ne hput hne]
      exact hfresh q hq
    obtain ⟨d', hd'⟩ := ih hdistinct hnext hrest
    refine ⟨d', ?_⟩
    rw [List.foldlM_cons, Draft.take?_eq_some.2 ⟨hnew, hput⟩]
    exact hd'

/-- Two payloads without details of null are equal if their members are. -/
theorem ext_memberJson {s s' : Status} (h : ∀ m, s.memberJson m = s'.memberJson m)
    (hs : s.accessDeniedDetail ≠ some .null) (hs' : s'.accessDeniedDetail ≠ some .null) :
    s = s' := by
  have hoptional : ∀ {x y : Option String}, Json.optional x = Json.optional y → x = y := by
    intro x y he
    cases x <;> cases y <;> simp_all [Json.optional]
  have hdetail : ∀ {x y : Option Json}, x ≠ some .null → y ≠ some .null → x.getD .null =
      y.getD .null → x = y := by
    intro x y hx hy he
    cases x <;> cases y <;> simp_all
  obtain ⟨code, message, requestId, hostId, recommend, detail⟩ := s
  obtain ⟨code', message', requestId', hostId', recommend', detail'⟩ := s'
  obtain rfl : code = code' := Json.str.inj (h .code)
  obtain rfl : message = message' := Json.str.inj (h .message)
  obtain rfl : requestId = requestId' := hoptional (h .requestId)
  obtain rfl : hostId = hostId' := hoptional (h .hostId)
  obtain rfl : recommend = recommend' := hoptional (h .recommend)
  obtain rfl : detail = detail' := hdetail hs hs' (h .accessDeniedDetail)
  rfl

/-- What a text says is one payload at most. -/
theorem eq_of_holds {t : ObjectText} {s s' : Status} (hs : t.Holds s) (hs' : t.Holds s') :
    s = s' := by
  refine ext_memberJson (fun m => ?_) hs.detail hs'.detail
  cases hv : t.valuesOf m with
  | nil => rw [hs.absent m hv, hs'.absent m hv]
  | cons v vs =>
    have hmem : v ∈ t.valuesOf m := hv ▸ List.mem_cons_self
    exact Option.some.inj ((hs.given m v hmem).symm.trans (hs'.given m v hmem))

/-! ## Drafts of texts -/

section Texts

variable {t : ObjectText} {d : Draft}

/-- A text has a draft if its names can be read, its known members are different, and their
values can be read. -/
theorem exists_draft? (hnames : t.HasReadableNames) (honce : ∀ m, (t.valuesOf m).length ≤ 1)
    (hread : ∀ m, ∀ v ∈ t.valuesOf m, (m.reading? v).isSome) : ∃ d, t.draft? = some d := by
  have hfresh : ∀ p ∈ t.known, Draft.entry? {} p.1 = none := by
    intro p _
    cases p.1 <;> rfl
  obtain ⟨d, hd⟩ := exists_foldlM (ObjectText.length_valuesOf_le_one.1 honce) hfresh
    fun p hp => hread p.1 p.2 (ObjectText.mem_valuesOf.2 hp)
  exact ⟨d, foldlM_read?.2 ⟨hnames, hd⟩⟩

/-- The draft of a text comes from its known members, and all names can be read. -/
theorem extends_of_draft? (h : t.draft? = some d) :
    t.HasReadableNames ∧ Draft.Extends {} t.known d := by
  obtain ⟨hnames, hrun⟩ := foldlM_read?.1 h
  exact ⟨hnames, extends_of_foldlM hrun⟩

/-- A member is in the draft of a text exactly if it is in the text. -/
theorem has_iff_of_draft? (h : t.draft? = some d) (m : Member) :
    d.has m = true ↔ t.valuesOf m ≠ [] := by
  obtain ⟨-, hrun⟩ := extends_of_draft? h
  rw [Draft.has_eq_isSome, ne_eq, ObjectText.valuesOf_eq_nil, not_not]
  constructor
  · intro hsome
    by_contra hnotin
    rw [hrun.others m hnotin] at hsome
    cases m <;> cases hsome
  · intro hmem
    obtain ⟨p, hp, rfl⟩ := List.mem_map.1 hmem
    obtain ⟨j, -, hj⟩ := hrun.given p hp
    rw [hj]
    rfl

/-- The draft of a text gives what the text says. -/
theorem holds_of_draft? (h : t.draft? = some d) : t.Holds d.toStatus := by
  obtain ⟨-, hrun⟩ := extends_of_draft? h
  refine ⟨?_, ?_, ?_⟩
  · intro m v hv
    obtain ⟨j, hread, hentry⟩ := hrun.given (m, v) (ObjectText.mem_valuesOf.1 hv)
    rw [Member.reading?] at hread
    split at hread
    · rw [hread, Draft.memberJson_toStatus, hentry]
      rfl
    · cases hread
  · intro m hm
    rw [Draft.memberJson_toStatus, hrun.others m (ObjectText.valuesOf_eq_nil.1 hm)]
    cases m <;> rfl
  · have hproper : d.IsProper := hrun.proper (by simp [Draft.IsProper])
    intro hnull
    rw [Draft.toStatus] at hnull
    cases hdetail : d.accessDeniedDetail with
    | none => simp [hdetail] at hnull
    | some j =>
      refine hproper ?_
      rw [hdetail]
      simpa [hdetail] using hnull

/-- The values of a text with a draft are of their kinds. -/
theorem fits_of_draft? (h : t.draft? = some d) : ∀ m, ∀ v ∈ t.valuesOf m, m.fits v := by
  intro m v hv
  obtain ⟨j, hread, -⟩ := (extends_of_draft? h).2.given (m, v) (ObjectText.mem_valuesOf.1 hv)
  by_contra hfits
  rw [Member.reading?, if_neg hfits] at hread
  cases hread

end Texts

/-! ## Main results -/

theorem toOption_eq_some {ε α : Type} {x : Except ε α} {a : α} :
    x.toOption = some a ↔ x = .ok a := by
  cases x <;> simp [Except.toOption]

theorem ofPayload_eq_ok_iff_draft? {t : ObjectText} {s : Status} :
    ofPayload t.octets = .ok s ↔
    ∃ d, t.draft? = some d ∧ t.valuesOf .code ≠ [] ∧ d.toStatus = s := by
  rw [← toOption_eq_some, toOption_ofPayload, Option.bind_eq_some_iff]
  refine exists_congr fun d => and_congr_right fun hd => ?_
  rw [← has_iff_of_draft? hd]
  split <;> simp_all

/-- The payload that is read is the one that a text says, if its names can be read and it is
recognised. -/
theorem ofPayload_eq_ok_iff {t : ObjectText} {s : Status} :
    ofPayload t.octets = .ok s ↔ t.HasReadableNames ∧ t.IsRecognised ∧ t.Holds s := by
  rw [ofPayload_eq_ok_iff_draft?]
  constructor
  · rintro ⟨d, hd, hcode, rfl⟩
    obtain ⟨hnames, hrun⟩ := extends_of_draft? hd
    exact ⟨hnames, ⟨ObjectText.length_valuesOf_le_one.2 hrun.distinct, hcode,
      fits_of_draft? hd⟩, holds_of_draft? hd⟩
  · rintro ⟨hnames, hrec, hs⟩
    have hread : ∀ m, ∀ v ∈ t.valuesOf m, (m.reading? v).isSome := by
      intro m v hv
      rw [Member.reading?, if_pos (hrec.fits m v hv), hs.given m v hv]
      rfl
    obtain ⟨d, hd⟩ := exists_draft? hnames hrec.once hread
    exact ⟨d, hd, hrec.code, eq_of_holds (holds_of_draft? hd) hs⟩

theorem hasReadableNames_of_isReadable {t : ObjectText} (h : t.IsReadable) :
    t.HasReadableNames := by
  have htext := ObjectText.isText_members ((Utf8.isSome_decode?_iff _).1 h.utf8)
  intro p hp
  exact StringText.isSome_text? (h.names p hp) (htext p hp).1

theorem numbers_eq_nil {v : JsonText} (h : v.isNull = true ∨ v.isString = true) :
    v.numbers = [] := by
  cases v with
  | null | str _ => rfl
  | bool _ | num _ | arr _ _ | obj _ _ => simp [JsonText.isNull, JsonText.isString] at h

/-- A value of the kind of its member can be read. -/
theorem isSome_reading?_of_isReadable {t : ObjectText} (h : t.IsReadable) {m : Member}
    {v : JsonText} (hv : v ∈ t.valuesOf m) (hfits : m.fits v) : (m.reading? v).isSome := by
  have htext := ObjectText.isText_members ((Utf8.isSome_decode?_iff _).1 h.utf8)
  obtain ⟨p, hp, hknown⟩ := List.mem_filterMap.1 (ObjectText.mem_valuesOf.1 hv)
  obtain rfl : p.2.body = v := by
    obtain ⟨n, -, hn⟩ := Option.map_eq_some_iff.1 hknown
    exact congrArg Prod.snd hn
  have hnumbers : ∀ n ∈ p.2.body.numbers, n.value?.isSome := by
    -- no other member than the details has numbers
    cases m with
    | accessDeniedDetail => exact h.numbers _ hv
    | code | message => simp [numbers_eq_nil (.inr hfits)]
    | requestId | hostId | recommend => simp [numbers_eq_nil (Bool.or_eq_true_iff.1 hfits)]
  rw [Member.reading?, if_pos hfits]
  exact JsonText.isSome_value? (htext p hp).2 (h.strings m _ hv) hnumbers

/-- What is recognised depends on the known members only, and not on their order. -/
theorem ofPayload_of_perm {t t' : ObjectText} (hnames : t'.HasReadableNames)
    (hperm : t.known.Perm t'.known) {s : Status} (h : ofPayload t.octets = .ok s) :
    ofPayload t'.octets = .ok s := by
  have hvalues : ∀ m, (t.valuesOf m).Perm (t'.valuesOf m) := fun m => (hperm.filter _).map _
  obtain ⟨-, hrec, hs⟩ := ofPayload_eq_ok_iff.1 h
  refine ofPayload_eq_ok_iff.2 ⟨hnames, ⟨?_, ?_, ?_⟩, ⟨?_, ?_, hs.detail⟩⟩
  · exact fun m => (hvalues m).length_eq ▸ hrec.once m
  · exact fun hnil => hrec.code (List.perm_nil.1 (hnil ▸ hvalues .code))
  · exact fun m v hv => hrec.fits m v ((hvalues m).mem_iff.2 hv)
  · exact fun m v hv => hs.given m v ((hvalues m).mem_iff.2 hv)
  · exact fun m hnil => hs.absent m (List.perm_nil.1 (hnil ▸ hvalues m))

/-- A text of an object, as far as it can be read, is recognised as a payload exactly if no
known member occurs twice, it has a code, and every value is of its kind.  The payload holds
exactly the values of the text.  It is the payload of any other text with the same known
members, in whatever order they are and whatever other members there are. -/
theorem ofPayload_recognises (t : ObjectText) (h : t.IsReadable) :
    ((∃ s, ofPayload t.octets = .ok s) ↔ t.IsRecognised) ∧
      (∀ s, ofPayload t.octets = .ok s → t.Holds s) ∧
      ∀ t' : ObjectText, t'.HasReadableNames → t.known.Perm t'.known →
        ∀ s, ofPayload t.octets = .ok s ↔ ofPayload t'.octets = .ok s := by
  have hnames := hasReadableNames_of_isReadable h
  refine ⟨?_, fun s hs => (ofPayload_eq_ok_iff.1 hs).2.2, ?_⟩
  · constructor
    · rintro ⟨s, hs⟩
      exact (ofPayload_eq_ok_iff.1 hs).2.1
    · intro hrec
      obtain ⟨d, hd⟩ := exists_draft? hnames hrec.once fun m v hv =>
        isSome_reading?_of_isReadable h hv (hrec.fits m v hv)
      exact ⟨d.toStatus, ofPayload_eq_ok_iff_draft?.2 ⟨d, hd, hrec.code, rfl⟩⟩
  · intro t' hnames' hperm s
    exact ⟨ofPayload_of_perm hnames' hperm, ofPayload_of_perm hnames hperm.symm⟩

section Examples

/-- A member whose name and value are without blanks around them. -/
def unspaced (name : StringText) (v : JsonText) : Padded StringText × Padded JsonText :=
  (⟨.none, name, .none⟩, ⟨.none, v, .none⟩)

/-- The name of the code, its last letter escaped. -/
def codeName : StringText :=
  [.octet 0x43 (by decide), .octet 0x6f (by decide), .octet 0x64 (by decide),
    .unit 0x30 0x30 0x36 0x35 0x65 (by decide)]

/-- The name of no member. -/
def otherName : StringText := [.octet 0x78 (by decide)]

/-- An object with the code, and an unknown member with an array in an array. -/
def nestedText : ObjectText :=
  ⟨.none, [unspaced codeName (.str otherName),
    unspaced otherName (.arr [⟨.none, .arr [] .none, .none⟩] .none)], .none, .none⟩

/-- An object with the code only, behind a blank. -/
def codeText : ObjectText :=
  ⟨⟨[0x20], List.forall_mem_singleton.2 rfl⟩, [unspaced codeName (.str otherName)],
    .none, .none⟩

theorem text?_codeName : codeName.text? = some "Code" := Utf8.decode?_encode "Code"

theorem text?_otherName : otherName.text? = some "x" := Utf8.decode?_encode "x"

theorem knownMember?_code (v : JsonText) :
    knownMember? (unspaced codeName v) = some (.code, v) := by
  show (codeName.text?.bind Member.ofName?).map (·, v) = _
  rw [text?_codeName]
  rfl

theorem knownMember?_other (v : JsonText) : knownMember? (unspaced otherName v) = none := by
  show (otherName.text?.bind Member.ofName?).map (·, v) = _
  rw [text?_otherName]
  rfl

theorem known_nestedText : nestedText.known = [(.code, .str otherName)] := by
  simp [ObjectText.known, nestedText, knownMember?_code, knownMember?_other]

theorem known_codeText : codeText.known = [(.code, .str otherName)] := by
  simp [ObjectText.known, codeText, knownMember?_code]

theorem valuesOf_nestedText (m : Member) :
    nestedText.valuesOf m = if m = .code then [.str otherName] else [] := by
  rw [ObjectText.valuesOf, known_nestedText]
  cases m <;> rfl

theorem isReadable_nestedText : nestedText.IsReadable where
  utf8 :=
    (Utf8.isSome_decode?_iff _).2 ⟨['\x7b', '"', 'C', 'o', 'd', '\\', 'u', '0', '0',
    '6', '5', '"',
    ':', '"', 'x', '"', ',', '"', 'x', '"', ':', '[', '[', ']', ']', '\x7d'], rfl⟩
  names := by
    intro p hp
    simp only [nestedText, List.mem_cons, List.not_mem_nil, or_false] at hp
    rcases hp with rfl | rfl <;> rfl
  strings := by
    intro m v hv s hs
    rw [valuesOf_nestedText] at hv
    split at hv
    · obtain rfl := List.mem_singleton.1 hv
      obtain rfl := List.mem_singleton.1 hs
      rfl
    · cases hv
  numbers := by simp [valuesOf_nestedText]

/-- A payload with an escape in a name and an unknown member is that of its code alone. -/
theorem ofPayload_recognises_nestedText :
    nestedText.IsReadable ∧ nestedText.IsRecognised ∧ nestedText.Holds { code := "x" } ∧
      ofPayload codeText.octets = .ok { code := "x" } := by
  obtain ⟨hiff, hholds, hsame⟩ := ofPayload_recognises nestedText isReadable_nestedText
  have hread : ofPayload nestedText.octets = .ok { code := "x" } := rfl
  have hnames : codeText.HasReadableNames := by
    intro p hp
    obtain rfl := List.mem_singleton.1 hp
    exact Option.isSome_of_eq_some text?_codeName
  have hknown : nestedText.known.Perm codeText.known :=
    by rw [known_nestedText, known_codeText]
  exact ⟨isReadable_nestedText, hiff.1 ⟨_, hread⟩, hholds _ hread,
    (hsame codeText hnames hknown _).1 hread⟩

end Examples

/-- A member is given a value exactly if its name is among those of a text. -/
theorem valuesOf_ne_nil_iff {t : ObjectText} (m : Member) :
    t.valuesOf m ≠ [] ↔ ∃ p ∈ t.members, p.1.body.text? = some m.name := by
  rw [ne_eq, ObjectText.valuesOf_eq_nil, not_not, ObjectText.known, List.map_filterMap,
    List.mem_filterMap]
  refine exists_congr fun p => and_congr_right fun _ => ?_
  rw [knownMember?, Option.map_map, Function.comp_def, Option.map_eq_some_iff]
  constructor
  · rintro ⟨n, hn, rfl⟩
    obtain ⟨name, hname, hof⟩ := Option.bind_eq_some_iff.1 hn
    rw [hname, Member.name_of_ofName? hof]
  · intro hname
    exact ⟨m, by rw [hname, Option.bind_some, Member.ofName?_name], rfl⟩

theorem ofText_eq_ok_iff_draft? {t : ObjectText} {s : Status} :
    ofText t.octets = .ok s ↔ ∃ d, t.draft? = some d ∧ d.toStatus = s := by
  rw [← toOption_eq_some, toOption_ofText, Option.map_eq_some_iff]

/-- The two ways to read a text of an object agree.  A payload is also a record; a record with
a code is also a payload; and nothing without a code is a payload. -/
theorem ofPayload_ofText (t : ObjectText) :
    (∀ s, ofPayload t.octets = .ok s → ofText t.octets = .ok s) ∧
      ((∃ p ∈ t.members, p.1.body.text? = some "Code") →
        ∀ s, ofText t.octets = .ok s → ofPayload t.octets = .ok s) ∧
      ((∀ p ∈ t.members, p.1.body.text? ≠ some "Code") → ∀ s, ofPayload t.octets ≠
        .ok s) := by
  have hcode : t.valuesOf .code ≠ [] ↔ ∃ p ∈ t.members, p.1.body.text? = some "Code" :=
    valuesOf_ne_nil_iff .code
  simp only [ne_eq, ofPayload_eq_ok_iff_draft?, ofText_eq_ok_iff_draft?]
  simp only [← ne_eq, hcode]
  refine ⟨?_, ?_, ?_⟩
  · rintro s ⟨d, hd, -, hs⟩
    exact ⟨d, hd, hs⟩
  · rintro hmember s ⟨d, hd, hs⟩
    exact ⟨d, hd, hmember, hs⟩
  · rintro hnone s ⟨d, -, ⟨p, hp, hname⟩, -⟩
    exact hnone p hp hname

/-- A record with a code is a payload, and one without a code is none. -/
theorem ofPayload_ofText_codeText :
    ofPayload codeText.octets = .ok { code := "x" } ∧
      ofPayload (ObjectText.octets ⟨.none, [], .none, .none⟩) ≠ .ok {} := by
  obtain ⟨-, hrecord, -⟩ := ofPayload_ofText codeText
  obtain ⟨-, -, hnone⟩ := ofPayload_ofText ⟨.none, [], .none, .none⟩
  exact ⟨hrecord ⟨_, List.mem_singleton_self _, text?_codeName⟩ _ rfl,
    hnone (List.forall_mem_nil _) {}⟩

end Status

end BalancerClient
