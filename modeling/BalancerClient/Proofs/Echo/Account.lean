import BalancerClient.Echo.Server
import BalancerClient.Proofs.Message.Parts
import BalancerClient.Session.Trail

/-!
# Header fields in the account of a request

The echo server answers with an account of the request, and the account has a member for each
name of a header field.  It stands for the first value of the name.  The second and further
values of a name are accounted under a name of their own, so an account reports the header
fields as they were received if and only if no name is repeated.

## Main definitions

* `EchoServer.Reports` - members report header fields.
* `EchoServer.headerMembers` - the members in the account.
* `EchoServer.IsAnswered` - a request that is answered with an account.

## Main statements

* `EchoServer.reports_iff` - header fields are reported if and only if no name is repeated.
* `EchoServer.exists_account` - how a request is answered.
-/

namespace BalancerClient

/-! ## Members that are put one after the other -/

/-- The members that are left when each of a list is set. -/
def putAll (writes : List (String × Json)) : List (String × Json) :=
  writes.foldl (fun ms w => putMember w.1 w.2 ms) []

/-- Members that are set have different names. -/
theorem nodup_putAll (writes : List (String × Json)) :
    ((putAll writes).map Prod.fst).Nodup := by
  have hfold : ∀ ms : List (String × Json), (ms.map Prod.fst).Nodup →
      ((writes.foldl (fun ms w => putMember w.1 w.2 ms) ms).map Prod.fst).Nodup := by
    induction writes with
    | nil => exact fun ms h => h
    | cons w writes ih =>
      intro ms h
      apply ih
      rw [map_fst_putMember]
      split
      · exact h
      · next hmem =>
        rw [← List.concat_eq_append]
        exact (List.nodup_concat _ _).2 ⟨hmem, h⟩
  exact hfold [] List.nodup_nil

/-- The member of a name is the last that was set under it. -/
theorem lookup_putAll (writes : List (String × Json)) (name : String) :
    (putAll writes).lookup name =
      (writes.filterMap fun w => if w.1 = name then some w.2 else none).getLast? := by
  have hput : ∀ (ms : List (String × Json)) (w : String × Json),
      (putMember w.1 w.2 ms).lookup name =
      (if w.1 = name then some w.2 else none).or (ms.lookup name) := by
    intro ms w
    by_cases hname : w.1 = name
    · subst hname
      simp
    · rw [lookup_putMember_of_ne (Ne.symm hname), if_neg hname, Option.none_or]
  have hfold := view_foldl_or hput [] writes
  rw [List.lookup_nil, Option.or_none] at hfold
  exact hfold

theorem mem_of_lookup_putAll {writes : List (String × Json)} {name : String} {v : Json}
    (h : (putAll writes).lookup name = some v) : (name, v) ∈ writes := by
  rw [lookup_putAll] at h
  obtain ⟨w, hw, hname⟩ := List.mem_filterMap.1 (List.mem_of_getLast? h)
  split at hname
  · next he =>
    subst he
    obtain rfl := Option.some.inj hname
    exact hw
  · cases hname

theorem exists_lookup_putAll {writes : List (String × Json)} {name : String} {v : Json}
    (h : (name, v) ∈ writes) : ∃ w, (putAll writes).lookup name = some w := by
  cases hw : (putAll writes).lookup name with
  | some w => exact ⟨w, rfl⟩
  | none =>
    rw [lookup_putAll, List.getLast?_eq_none_iff, List.filterMap_eq_nil_iff] at hw
    exact absurd (hw _ h) (by simp)

namespace EchoServer

/-! ## The members in an account -/

/-- The members in the account of header fields. -/
def headerMembers (h : Headers) : List (String × Json) := h.names.foldl (accountField h) []

/-- What is set for a name: a member for its first value, and one for each further value. -/
def writes (h : Headers) (name : String) : List (String × Json) :=
  (h.value? name).toList.map (fun text => (name, .str text)) ++
    (h.values name).tail.map fun text => (furtherName, .str text)

theorem headerMembers_eq (h : Headers) :
    headerMembers h = putAll (h.names.flatMap (writes h)) := by
  have hfield : ∀ members name, accountField h members name =
      (writes h name).foldl (fun ms w => putMember w.1 w.2 ms) members := by
    intro members name
    rw [accountField, writes, Headers.value?]
    cases h.values name with
    | nil => rfl
    | cons first further => simp [List.foldl_map]
  rw [headerMembers, putAll, List.foldl_flatMap]
  congr 1
  funext members name
  exact hfield members name

/-- A name occurs if and only if it has a first value. -/
theorem mem_names_iff {h : Headers} {name : String} :
    name ∈ h.names ↔ ∃ text, h.value? name = some text := by
  have hhas : h.has name = false ↔ name ∉ h.names := by
    simp only [← Bool.not_eq_true, Headers.has, Headers.names, List.mem_eraseDups,
      List.mem_map, List.any_eq_true, beq_iff_eq]
  rw [← not_iff_not, ← hhas, Headers.has_eq_false_iff, Headers.value?]
  cases h.values name <;> simp

/-- What is set for header fields: the first value of each name, and the further values. -/
theorem mem_writes_iff {h : Headers} {name : String} {v : Json} :
    (name, v) ∈ h.names.flatMap (writes h) ↔
      (∃ text, h.value? name = some text ∧ v = .str text) ∨
        name = furtherName ∧ ∃ n, ∃ text ∈ (h.values n).tail, v = .str text := by
  simp only [List.mem_flatMap, writes, List.mem_append, List.mem_map, Prod.mk.injEq,
    Option.mem_toList]
  constructor
  · rintro ⟨n, -, ⟨text, ht, rfl, rfl⟩ | ⟨text, ht, rfl, rfl⟩⟩
    · exact .inl ⟨text, ht, rfl⟩
    · exact .inr ⟨rfl, n, text, ht, rfl⟩
  · rintro (⟨text, ht, rfl⟩ | ⟨rfl, n, text, ht, rfl⟩)
    · exact ⟨name, mem_names_iff.2 ⟨text, ht⟩, .inl ⟨text, ht, rfl, rfl⟩⟩
    · obtain ⟨first, hfirst⟩ : ∃ first, h.value? n = some first := by
        rw [Headers.value?]
        cases hvalues : h.values n with
        | nil => simp [hvalues] at ht
        | cons first further => exact ⟨first, rfl⟩
      exact ⟨n, mem_names_iff.2 ⟨first, hfirst⟩, .inr ⟨text, ht, rfl, rfl⟩⟩

/-- A name stands for its first value, unless further values are accounted under it. -/
theorem lookup_headerMembers (h : Headers) {name : String}
    (hname : name ≠ furtherName ∨ ∀ n, (h.values n).tail = []) :
    (headerMembers h).lookup name = (h.value? name).map .str := by
  have hwrites : ∀ v, (name, v) ∈ h.names.flatMap (writes h) ↔
      ∃ text, h.value? name = some text ∧ v = .str text := by
    intro v
    rw [mem_writes_iff, or_iff_left]
    rintro ⟨hfurther, n, text, ht, -⟩
    rcases hname with hne | htail
    · exact hne hfurther
    · simp [htail n] at ht
  rw [headerMembers_eq]
  cases hv : h.value? name with
  | some text =>
    obtain ⟨w, hw⟩ := exists_lookup_putAll ((hwrites (.str text)).2 ⟨text, hv, rfl⟩)
    obtain ⟨text', ht', rfl⟩ := (hwrites w).1 (mem_of_lookup_putAll hw)
    rw [hw, Option.some.inj (hv.symm.trans ht')]
    rfl
  | none =>
    cases hw : (putAll (h.names.flatMap (writes h))).lookup name with
    | none => rfl
    | some w =>
      obtain ⟨text, ht, -⟩ := (hwrites w).1 (mem_of_lookup_putAll hw)
      simp [hv] at ht

/-! ## Reporting header fields -/

/-- Members report header fields: their names are those of the fields, each once, and each of
them stands for one of the values that were received under it. -/
structure Reports (h : Headers) (members : List (String × Json)) : Prop where
  nodup : (members.map Prod.fst).Nodup
  names : ∀ name, name ∈ members.map Prod.fst ↔ name ∈ h.names
  values : ∀ name v, (name, v) ∈ members → ∃ text ∈ h.values name, v = .str text

/-- No name is repeated. -/
def IsSingle (h : Headers) : Prop := ∀ name, (h.values name).tail = []

theorem nodup_headerMembers (h : Headers) : ((headerMembers h).map Prod.fst).Nodup := by
  rw [headerMembers_eq]
  exact nodup_putAll _

/-- Header fields without repeated names are reported. -/
theorem reports_headerMembers {h : Headers} (hsingle : IsSingle h) :
    Reports h (headerMembers h) where
  nodup := nodup_headerMembers h
  names := by
    intro name
    rw [← not_iff_not, ← lookup_eq_none_iff_notMem, lookup_headerMembers h (.inr hsingle),
      mem_names_iff]
    cases h.value? name <;> simp
  values := by
    intro name v hmem
    have hlookup := (lookup_eq_some_iff_mem (nodup_headerMembers h)).2 hmem
    rw [lookup_headerMembers h (.inr hsingle)] at hlookup
    obtain ⟨text, ht, rfl⟩ := Option.map_eq_some_iff.1 hlookup
    exact ⟨text, List.mem_of_mem_head? ht, rfl⟩

/-- Further values are accounted under their name, whatever names the fields have. -/
theorem furtherName_mem {h : Headers} (hrepeated : ¬ IsSingle h) :
    furtherName ∈ (headerMembers h).map Prod.fst := by
  obtain ⟨name, hname⟩ := not_forall.1 hrepeated
  obtain ⟨text, ht⟩ := List.exists_mem_of_ne_nil _ hname
  rw [headerMembers_eq]
  obtain ⟨w, hw⟩ := exists_lookup_putAll (mem_writes_iff.2 (.inr ⟨rfl, name, text, ht, rfl⟩))
  exact List.mem_map_of_mem (mem_of_lookup_eq_some hw)

/-- Of all further values the last one stays. -/
theorem lookup_furtherName {h : Headers} (hother : furtherName ∉ h.names) :
    (headerMembers h).lookup furtherName =
      ((h.names.flatMap fun name => (h.values name).tail).getLast?).map .str := by
  have hwrites : ∀ name ∈ h.names,
      (writes h name).filterMap (fun w => if w.1 = furtherName then some w.2 else none) =
        (h.values name).tail.map .str := by
    intro name hname
    have hne : name ≠ furtherName := fun he => hother (he ▸ hname)
    rw [writes, List.filterMap_append, List.filterMap_map, List.filterMap_map]
    simp [hne]
  rw [headerMembers_eq, lookup_putAll, List.filterMap_flatMap, List.flatMap_congr hwrites,
    ← List.map_flatMap, List.getLast?_map]

/-- Header fields of other names than that of further values are reported if and only if no
name is repeated. -/
theorem reports_iff {h : Headers} (hother : furtherName ∉ h.names) :
    Reports h (headerMembers h) ↔ IsSingle h := by
  constructor
  · intro hreports
    by_contra hrepeated
    exact hother ((hreports.names furtherName).1 (furtherName_mem hrepeated))
  · exact reports_headerMembers

/-! ## The answer -/

/-- A request that is answered with an account: it is for the root, its action has no answer
of its own, its body can be read, and all values in its header fields are visible. -/
structure IsAnswered (r : HttpRequest) : Prop where
  root : r.target.toList.takeWhile (· != '?') = ['/']
  action : (visible? r.headers "x-acs-action").getD "" ∉ ["Error", "Proxy",
    "NoContent", "Delay"]
  body : (accountBody? r).isSome = true
  visible : ∀ field ∈ r.headers.fields, isVisible field.2 = true

/-- What is told of the header fields in an account. -/
structure TellsHeaders (h : Headers) (members : List (String × Json)) : Prop where
  nodup : (members.map Prod.fst).Nodup
  /-- A name stands for its first value. -/
  first : ∀ name ≠ furtherName, members.lookup name = (h.value? name).map .str
  /-- The last further value stands under the name of all of them. -/
  further : furtherName ∉ h.names →
    members.lookup furtherName =
      ((h.names.flatMap fun name => (h.values name).tail).getLast?).map .str
  /-- Names that are not repeated are reported. -/
  reports : IsSingle h → Reports h members
  /-- Names that are repeated are not, unless one of them happens to be that of further
  values. -/
  reports_iff : furtherName ∉ h.names → (Reports h members ↔ IsSingle h)

theorem tellsHeaders_headerMembers (h : Headers) : TellsHeaders h (headerMembers h) where
  nodup := nodup_headerMembers h
  first := fun _ hname => lookup_headerMembers h (.inl hname)
  further := lookup_furtherName
  reports := reports_headerMembers
  reports_iff := reports_iff

/-- A body that is in an account is not too long. -/
theorem length_le_of_accountBody? {r : HttpRequest} {body : Json}
    (h : accountBody? r = some body) : ¬ maxBody < r.body.length := by
  intro hlong
  rw [accountBody?, if_pos hlong] at h
  cases h

/-- The account of a request that is answered with one. -/
theorem exists_account?_eq {r : HttpRequest} (h : IsAnswered r) :
    ∃ account, account? r = some account ∧ reply r = textReply 200 account.compact ∧
      account.member? "Headers" = some (.obj (headerMembers r.headers)) := by
  obtain ⟨body, hbody⟩ := Option.isSome_iff_exists.1 h.body
  have hheaders : accountHeaders? r.headers = some (.obj (headerMembers r.headers)) :=
    if_pos (List.all_eq_true.2 h.visible)
  obtain ⟨account, haccount, hmember⟩ : ∃ account, account? r = some account ∧
      account.member? "Headers" = some (.obj (headerMembers r.headers)) := by
    rw [account?, hbody, hheaders]
    exact ⟨_, rfl, rfl⟩
  refine ⟨account, haccount, ?_, hmember⟩
  have hnot := h.action
  simp only [List.mem_cons, List.not_mem_nil, or_false, not_or] at hnot
  have hreply : replyTo r = textReply 200 account.compact := by
    rw [replyTo, haccount]
    split
    · next he => exact absurd he hnot.1
    · next he => exact absurd he hnot.2.1
    · next he => exact absurd he hnot.2.2.1
    · rfl
  rw [reply, h.root, hbody, if_neg (by simp), if_neg (length_le_of_accountBody? hbody),
    if_neg (by simp), hreply]

/-- A request is answered with an account that tells its header fields. -/
theorem exists_account {r : HttpRequest} (h : IsAnswered r) :
    ∃ account members, account? r = some account ∧ reply r = textReply 200 account.compact ∧
      account.member? "Headers" = some (.obj members) ∧ TellsHeaders r.headers members := by
  obtain ⟨account, haccount, hreply, hmember⟩ := exists_account?_eq h
  exact ⟨account, _, haccount, hreply, hmember, tellsHeaders_headerMembers r.headers⟩

/-- A request with two header fields of different names. -/
theorem reports_of_differentNames :
    ∃ account members, account? ⟨.get, "/", ⟨[("x-trial", "a"), ("x-other", "b")]⟩, []⟩ =
      some account ∧ account.member? "Headers" = some (.obj members) ∧
      Reports ⟨[("x-trial", "a"), ("x-other", "b")]⟩ members := by
  have hanswered : IsAnswered ⟨.get, "/", ⟨[("x-trial", "a"), ("x-other", "b")]⟩, []⟩ :=
    ⟨by decide, by decide, rfl, by decide⟩
  have hsingle : IsSingle ⟨[("x-trial", "a"), ("x-other", "b")]⟩ := by
    intro name
    by_cases htrial : "x-trial" = name
    · subst htrial
      rfl
    · by_cases hother : "x-other" = name <;> simp [Headers.values, htrial, hother]
  obtain ⟨account, members, haccount, -, hmember, htells⟩ := exists_account hanswered
  exact ⟨account, members, haccount, hmember, htells.reports hsingle⟩

/-- The second value of a name is not reported under that name. -/
theorem not_forall_reports :
    ¬ ∀ (r : HttpRequest) (account : Json), IsAnswered r → account? r = some account →
      ∃ members, account.member? "Headers" = some (.obj members) ∧
        Reports r.headers members := by
  intro h
  have hanswered : IsAnswered ⟨.get, "/", ⟨[("x-trial", "a"), ("x-trial", "b")]⟩, []⟩ :=
    ⟨by decide, by decide, rfl, by decide⟩
  obtain ⟨account, haccount, -, hmember⟩ := exists_account?_eq hanswered
  obtain ⟨members, hmember', hreports⟩ := h _ account hanswered haccount
  obtain rfl := Json.obj.inj (Option.some.inj (hmember.symm.trans hmember'))
  have hsingle := (reports_iff (by decide)).1 hreports
  exact absurd (hsingle "x-trial") (by decide)

end EchoServer

end BalancerClient
