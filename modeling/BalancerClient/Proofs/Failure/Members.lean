import BalancerClient.Failure.Payload
import BalancerClient.Proofs.Json.Skipping

/-!
# Reading the members of a payload

The text of a payload is read member by member into a draft, from its first member to its
last, whatever blanks are between them and however deep the values of the unknown members are.
So a payload is what a fold over the members of its text gives.

The fold is in two parts.  The names tell which members are known, and an unknown one leaves
the draft as it is; a known member must be the first of its name, and its value must fit.

## Main definitions

* `Draft.put?` - the draft with a member set to what a text holds.
* `Draft.take?`, `Draft.read?` - the draft behind a known member, and behind any member.
* `ObjectText.draft?`, `ObjectText.known` - the draft of a whole text, and its known members.

## Main statements

* `Status.finds_readMember` - the reader of one value.
* `Status.toOption_readObject` - the loop over the members.
* `Status.toOption_ofPayload`, `Status.toOption_ofText` - the two ways to read a text.
* `Status.foldlM_read?` - the loop depends on the known members only.
-/

namespace BalancerClient

open Json.Parse (Finds EndsNumber skipBlanks skipBlanks_append skipBlanks_cons)

/-! ## Values of members -/

namespace JsonText

/-- The characters of a text that is a string. -/
def text? : JsonText → Option String
  | str s => s.text?
  | _ => none

/-- Nothing for null, and what is read of any other text. -/
def orNull? {α : Type} (read : JsonText → Option α) (v : JsonText) : Option (Option α) :=
  if v.isNull then some none else (read v).map some

end JsonText

namespace Status

/-- The draft with a member set to what a text holds. -/
def Draft.put? (d : Draft) (v : JsonText) : Member → Option Draft
  | .code => v.text?.map fun s => { d with code := some s }
  | .message => v.text?.map fun s => { d with message := some s }
  | .requestId => (v.orNull? JsonText.text?).map fun s => { d with requestId := some s }
  | .hostId => (v.orNull? JsonText.text?).map fun s => { d with hostId := some s }
  | .recommend => (v.orNull? JsonText.text?).map fun s => { d with recommend := some s }
  | .accessDeniedDetail =>
    (v.orNull? fun v => v.valueUpTo? detailNesting).map fun j =>
      { d with accessDeniedDetail := some j }

section Values

variable (v : JsonText) (bs : Blanks) {rest : Bytes}

/-- A text that is a string is read as its characters, and no other text is. -/
theorem finds_readText : Finds (readText (bs.octets ++ (v.octets ++ rest))) v.text? rest := by
  have hother : v.isString = false → v.text? = none →
      Finds (readText (bs.octets ++ (v.octets ++ rest))) v.text? rest := by
    intro hstring hnone
    obtain ⟨b, tail, hb, hblank, -, hquote, -⟩ := Json.Parse.JsonText.exists_cons v
    have hne : b ≠ 0x22 := of_decide_eq_false (hquote.symm.trans hstring)
    rw [readText, skipBlanks_append, hnone, hb, List.cons_append, skipBlanks_cons hblank]
    simp only [hne, if_false]
    rfl
  cases v with
  | str s =>
    rw [readText, skipBlanks_append, JsonText.octets, List.cons_append, List.append_assoc,
      skipBlanks_cons (by decide)]
    exact Json.Parse.finds_string s rest
  | null | bool _ | num _ | arr _ _ | obj _ _ => exact hother rfl rfl

/-- Null is read as nothing, any other text by the reader of what there may be. -/
theorem finds_readOptional {α : Type} {read : Bytes → Json.Parse.Result α}
    {f : JsonText → Option α}
    (h : Finds (read (bs.octets ++ (v.octets ++ rest))) (f v) rest) :
    Finds (readOptional read (bs.octets ++ (v.octets ++ rest))) (v.orNull? f) rest := by
  have hpresent := h.map some
  obtain ⟨b, tail, hb, hblank, -, -, hletter⟩ := Json.Parse.JsonText.exists_cons v
  rw [readOptional, JsonText.orNull?]
  simp only [skipBlanks_append]
  cases hnull : v.isNull with
  | true =>
    obtain rfl : v = .null := by
      cases v <;> first | rfl | cases hnull
    rw [JsonText.octets, List.cons_append, skipBlanks_cons (by decide)]
    rfl
  | false =>
    have hne : b ≠ 0x6e := of_decide_eq_false (hletter.symm.trans hnull)
    rw [hb, List.cons_append] at hpresent ⊢
    rw [skipBlanks_cons hblank]
    simp only [hne, if_false]
    exact hpresent

/-- A member is read as what the text of its value holds. -/
theorem finds_readMember (d : Draft) (m : Member) (h : EndsNumber rest) :
    Finds (readMember d m (bs.octets ++ (v.octets ++ rest))) (d.put? v m) rest := by
  have htext : Finds (readText (bs.octets ++ (v.octets ++ rest))) v.text? rest :=
    finds_readText v bs
  have hoptional := finds_readOptional v bs htext
  have hdetail :=
    finds_readOptional v bs (Json.Parse.readsText_value v detailNesting bs rest h)
  cases m with
  | code => exact htext.map fun s => { d with code := some s }
  | message => exact htext.map fun s => { d with message := some s }
  | requestId => exact hoptional.map fun s => { d with requestId := some s }
  | hostId => exact hoptional.map fun s => { d with hostId := some s }
  | recommend => exact hoptional.map fun s => { d with recommend := some s }
  | accessDeniedDetail => exact hdetail.map fun j => { d with accessDeniedDetail := some j }

end Values

/-! ## The loop over the members -/

/-- The draft behind a known member: its first occurrence, with a value that fits. -/
def Draft.take? (d : Draft) (p : Member × JsonText) : Option Draft :=
  if d.has p.1 then none else d.put? p.2 p.1

/-- The draft behind a member of a text. -/
def Draft.read? (d : Draft) (p : Padded StringText × Padded JsonText) : Option Draft :=
  p.1.body.text?.bind fun name =>
    match Member.ofName? name with
    | some m => d.take? (m, p.2.body)
    | none => some d

/-- The member of a name is read, and any other is passed over. -/
theorem finds_readNamed (d : Draft) (name : String) (gap before : Blanks) (v : JsonText)
    {rest : Bytes} (h : EndsNumber rest) :
    Finds (readNamed d name (gap.octets ++ 0x3a :: (before.octets ++ (v.octets ++ rest))))
      (match Member.ofName? name with
        | some m => d.take? (m, v)
        | none => some d) rest := by
  rw [readNamed, Json.Parse.colon_append]
  cases Member.ofName? name with
  | none =>
    have hskip := Json.Skip.value_octets v before h
    simp only [Except.bind, hskip]
    rfl
  | some m =>
    cases hhas : d.has m with
    | true =>
      simp only [Draft.take?, hhas]
      rfl
    | false =>
      simp only [Draft.take?, hhas]
      exact finds_readMember v before d m h

/-- The members of an object are read one after the other, up to the end of the text. -/
theorem toOption_readObject (finish : Draft → Except Json.Fault Status) (close after : Blanks)
    {members : List (Padded StringText × Padded JsonText)} {fuel : Nat} (d : Draft)
    (gap : Blanks) (first : Bool) (hlt : members.length < fuel) :
    (readObject finish fuel first d
      (gap.octets ++ (JsonText.memberOctets first members close ++ after.octets))).toOption =
      (members.foldlM Draft.read? d).bind fun d => (finish d).toOption := by
  induction members generalizing fuel d gap first with
  | nil =>
    obtain ⟨fuel, rfl⟩ := Nat.exists_eq_succ_of_ne_zero (Nat.ne_of_gt hlt)
    have hblank : skipBlanks after.octets = [] := by
      simpa [skipBlanks] using skipBlanks_append after []
    rw [readObject, Json.Parse.nextMember_append, JsonText.memberOctets, List.append_assoc,
      Json.Parse.nextMember_append, List.singleton_append, Json.Parse.nextMember_close]
    simp only [Json.Parse.finish, hblank]
    show _ = (finish d).toOption
    cases finish d with
    | error fault => rfl
    | ok s => rfl
  | cons m members ih =>
    -- the name, then the value, and then the loop goes on with the draft behind them
    obtain ⟨name, before, v, behind⟩ := m
    obtain ⟨fuel, rfl⟩ := Nat.exists_eq_succ_of_ne_zero (Nat.ne_of_gt (Nat.zero_lt_of_lt hlt))
    have hmore : ∀ d, (readObject finish fuel false d
        (behind.octets ++ (JsonText.memberOctets false members close ++
          after.octets))).toOption =
        (members.foldlM Draft.read? d).bind fun d => (finish d).toOption :=
      fun d => ih d behind false (Nat.lt_of_succ_lt_succ hlt)
    have hnamed := fun n => finds_readNamed d n name.after before v
      (Json.Parse.endsNumber_memberOctets behind after.octets members close)
    rw [readObject, Json.Parse.nextMember_append, JsonText.memberOctets]
    simp only [List.append_assoc, List.cons_append, Json.Parse.nextMember_octets]
    rw [List.foldlM_cons, Draft.read?]
    rcases (Json.Parse.finds_string name.body _).none_or_some with
      ⟨hn, fault, hr⟩ | ⟨n, hn, hr⟩
    · rw [hn, hr]
      rfl
    · rw [hn, hr]
      simp only [Option.bind_some]
      rcases (hnamed n).none_or_some with ⟨hd, fault, hr⟩ | ⟨d', hd, hr⟩
      · simp only [hd, hr]
        rfl
      · simp only [hd, hr]
        exact hmore d'

end Status

/-- The draft of a whole text. -/
def ObjectText.draft? (t : ObjectText) : Option Status.Draft :=
  t.members.foldlM Status.Draft.read? {}

namespace Status

/-- A text is read as its draft, if that is enough. -/
theorem toOption_read (finishObject finishArray : Draft → Except Json.Fault Status)
    (t : ObjectText) : (read finishObject finishArray t.octets).toOption =
      t.draft?.bind fun d => (finishObject d).toOption := by
  have hlt : t.members.length <
      (JsonText.memberOctets true t.members t.close ++ t.after.octets).length + 1 := by
    have := Json.Parse.length_memberOctets true t.members t.close
    rw [List.length_append]
    omega
  rw [read, ObjectText.octets, List.append_assoc, skipBlanks_append, List.cons_append,
    skipBlanks_cons (by decide)]
  exact toOption_readObject finishObject t.close t.after {} .none true hlt

/-- The payload of a failed call must have a code. -/
theorem toOption_ofPayload (t : ObjectText) : (ofPayload t.octets).toOption =
    t.draft?.bind fun d => if d.has .code then some d.toStatus else none := by
  rw [ofPayload, toOption_read]
  congr 1
  funext d
  rw [needsCode]
  split <;> rfl

/-- A record needs no member at all. -/
theorem toOption_ofText (t : ObjectText) :
    (ofText t.octets).toOption = t.draft?.map Draft.toStatus := by
  rw [ofText, toOption_read]
  cases t.draft? <;> rfl

/-! ## Known members -/

/-- A member of a text, if its name is known. -/
def knownMember? (p : Padded StringText × Padded JsonText) : Option (Member × JsonText) :=
  (p.1.body.text?.bind Member.ofName?).map (·, p.2.body)

/-- Only the known members matter, as long as every name can be read. -/
theorem foldlM_read? {members : List (Padded StringText × Padded JsonText)} {d d' : Draft} :
    members.foldlM Draft.read? d = some d' ↔
      (∀ p ∈ members, p.1.body.text?.isSome) ∧
        (members.filterMap knownMember?).foldlM Draft.take? d = some d' := by
  induction members generalizing d with
  | nil => simp
  | cons p members ih =>
    rw [List.foldlM_cons, List.forall_mem_cons, Draft.read?]
    cases hname : p.1.body.text? with
    | none => simp
    | some name =>
      rw [Option.bind_some]
      cases hm : Member.ofName? name with
      | none =>
        have hunknown : knownMember? p = none := by simp [knownMember?, hname, hm]
        rw [List.filterMap_cons_none hunknown]
        simp [ih]
      | some m =>
        have hknown : knownMember? p = some (m, p.2.body) := by simp [knownMember?, hname, hm]
        rw [List.filterMap_cons_some hknown, List.foldlM_cons]
        dsimp only [Option.bind_some]
        cases d.take? (m, p.2.body) with
        | none => simp
        | some d => simp [ih]

end Status

/-- The known members of a text, with the texts of their values. -/
def ObjectText.known (t : ObjectText) : List (Status.Member × JsonText) :=
  t.members.filterMap Status.knownMember?

end BalancerClient
