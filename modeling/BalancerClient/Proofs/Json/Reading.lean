import BalancerClient.Proofs.Json.Tokens

/-!
# Reading texts

A text is read as the value that it stands for, if it stands for one and its arrays and
objects are not too deep; otherwise it is not read at all.  What follows the text is left, and
the blanks in front of it do not matter.

The induction is on the text.  Each of the two loops, over the items of an array and over the
members of an object, comes with what it does to a text whose parts are read in some way, and
the induction says in which.

## Main definitions

* `Json.Parse.ReadsText` - a reader finds a value in a text, whatever is around it.

## Main statements

* `JsonText.induct` - induction over texts.
* `Json.Parse.finds_items`, `Json.Parse.finds_members` - the two loops of the reader.
* `Json.Parse.readsText_value` - a text is read as its value up to a depth.
-/

namespace BalancerClient

namespace JsonText

/-! ## Induction -/

section Induction

variable {motive : JsonText → Prop} (null : motive null) (bool : ∀ b, motive (bool b))
  (num : ∀ n, motive (num n)) (str : ∀ s, motive (str s))
  (arr : ∀ items close, (∀ p ∈ items, motive p.body) → motive (arr items close))
  (obj : ∀ members close, (∀ m ∈ members, motive m.2.body) → motive (obj members close))

include null bool num str arr obj

/-- Induction over texts, by way of items and members. -/
@[induction_eliminator] theorem induct (v : JsonText) : motive v := by
  refine @JsonText.rec motive (fun items => ∀ p ∈ items, motive p.body)
    (fun members => ∀ m ∈ members, motive m.2.body) (fun p => motive p.body) (fun m =>
      motive m.2.body)
    null bool num str arr obj ?noItem ?item ?noMember ?member ?padded ?named v
  case noItem => simp
  case item =>
    intro p items hp hitems
    exact List.forall_mem_cons.2 ⟨hp, hitems⟩
  case noMember => simp
  case member =>
    intro m members hm hmembers
    exact List.forall_mem_cons.2 ⟨hm, hmembers⟩
  case padded =>
    intro before v after hv
    exact hv
  case named =>
    intro name p hp
    exact hp

end Induction

/-! ## Values up to a depth -/

/-- The value that a text of at most some depth stands for. -/
def valueUpTo? (depth : Nat) (v : JsonText) : Option Json :=
  if v.nesting ≤ depth then v.value? else none

/-- Sets the member of an object that a text of a member stands for. -/
def putText (value : JsonText → Option Json) (seen : List (String × Json))
    (m : Padded StringText × Padded JsonText) : Option (List (String × Json)) :=
  m.1.body.text?.bind fun name => (value m.2.body).map fun v => putMember name v seen

/-- The values of items up to a depth are those of all items, unless one of them is deeper. -/
theorem mapM_valueUpTo? (depth : Nat) (items : List (Padded JsonText)) :
    (items.mapM fun p => p.body.valueUpTo? depth) =
      if nestingItems items ≤ depth then values? items else none := by
  induction items with
  | nil => rfl
  | cons p rest ih =>
    obtain ⟨before, v, after⟩ := p
    rw [List.mapM_cons, ih, valueUpTo?, values?, nestingItems]
    by_cases hv : v.nesting ≤ depth
    · cases hjson : v.value? with
      | none => simp [hv]
      | some json => by_cases hrest : nestingItems rest ≤ depth <;> simp [hv, hrest]
    · simp [hv]

/-- The members of an object up to a depth are all its members, unless one of them is
deeper. -/
theorem foldlM_putText (depth : Nat) (members : List (Padded StringText × Padded JsonText))
    (seen : List (String × Json)) :
    members.foldlM (putText fun v => v.valueUpTo? depth) seen =
      if nestingMembers members ≤ depth then membersFrom? seen members else none := by
  induction members generalizing seen with
  | nil => rfl
  | cons m rest ih =>
    obtain ⟨name, before, v, after⟩ := m
    rw [List.foldlM_cons, putText, membersFrom?, valueUpTo?, nestingMembers]
    cases name.body.text? with
    | none => simp
    | some n =>
      by_cases hv : v.nesting ≤ depth
      · cases hjson : v.value? with
        | none => simp [hv]
        | some json => simp [hv, ih]
      · simp [hv]

end JsonText

namespace Json.Parse

/-! ## Where a text begins -/

theorem NumberText.exists_cons (n : NumberText) :
    ∃ b rest, n.octets = b :: rest ∧ (b = 0x2d ∨ isDigit b = true) := by
  rw [NumberText.octets]
  cases n.negative with
  | true => exact ⟨0x2d, n.unsignedOctets, rfl, .inl rfl⟩
  | false =>
    obtain ⟨d, ds, hd, hdigit⟩ := Digits.exists_cons n.whole
    exact ⟨d, ds ++ n.tailOctets, by simp [NumberText.unsignedOctets, hd], .inr hdigit⟩

/-- The first octet of a text tells strings and null from anything else. -/
theorem JsonText.exists_cons (v : JsonText) :
    ∃ b rest, v.octets = b :: rest ∧ isBlank b = false ∧
    b ≠ 0x5d ∧ v.isString = decide (b = 0x22) ∧ v.isNull = decide (b = 0x6e) := by
  cases v with
  | num n =>
    obtain ⟨b, rest, hb, hfirst⟩ := NumberText.exists_cons n
    refine ⟨b, rest, hb, ?_⟩
    rcases hfirst with rfl | hdigit
    · exact ⟨rfl, by decide, rfl, rfl⟩
    · exact ⟨isBlank_of_isDigit hdigit, ne_of_isDigit hdigit rfl,
        (decide_eq_false (ne_of_isDigit hdigit rfl)).symm,
          (decide_eq_false (ne_of_isDigit hdigit rfl)).symm⟩
  | bool b => cases b <;> exact ⟨_, _, rfl, rfl, by decide, rfl, rfl⟩
  | null | str _ | arr _ _ | obj _ _ => exact ⟨_, _, rfl, rfl, by decide, rfl, rfl⟩

theorem startsValue_octets (v : JsonText) (rest : Bytes) :
    v.octets ++ rest ≠ [] ∧ StartsValue (v.octets ++ rest) := by
  obtain ⟨b, tail, hb, hblank, hclose, -, -⟩ := JsonText.exists_cons v
  rw [hb]
  exact ⟨List.cons_ne_nil _ _, startsValue_cons hblank hclose _⟩

/-! ## Between items and members -/

section Steps

variable (bs : Blanks) (first : Bool) (rest : Bytes)

@[simp] theorem nextItem_append (bytes : Bytes) :
    nextItem first (bs.octets ++ bytes) = nextItem first bytes := by
  rw [nextItem, skipBlanks_append, ← nextItem]

@[simp] theorem nextMember_append (bytes : Bytes) :
    nextMember first (bs.octets ++ bytes) = nextMember first bytes := by
  rw [nextMember, skipBlanks_append, ← nextMember]

/-- The next item of an array comes after a comma and blanks. -/
theorem nextItem_octets (v : JsonText) :
    nextItem first (JsonText.comma first ++ (bs.octets ++ (v.octets ++ rest))) =
      .ok (.more (v.octets ++ rest)) := by
  obtain ⟨hne, hstart⟩ := startsValue_octets v rest
  cases first with
  | true => exact (nextItem_append bs true _).trans (nextItem_first hne hstart)
  | false =>
    have hcomma := nextItem_comma hne hstart
    show nextItem false (0x2c :: (bs.octets ++ (v.octets ++ rest))) = _
    rw [nextItem, skipBlanks_cons (by decide)] at hcomma ⊢
    simp only [skipBlanks_append]
    exact hcomma

/-- The next member of an object comes after a comma and blanks. -/
theorem nextMember_octets (name : Padded StringText) :
    nextMember first (JsonText.comma first ++ (JsonText.nameOctets name ++ rest)) =
      .ok (.more (name.body.octets ++ 0x22 :: (name.after.octets ++ rest))) := by
  have hquote : ∀ bytes : Bytes, skipBlanks (name.before.octets ++ 0x22 :: bytes) =
      0x22 :: bytes := by
    intro bytes
    rw [skipBlanks_append, skipBlanks_cons (by decide)]
  rw [JsonText.nameOctets]
  simp only [List.append_assoc, List.cons_append]
  cases first with
  | true =>
    show nextMember true (name.before.octets ++ 0x22 :: _) = _
    rw [nextMember, hquote]
    rfl
  | false =>
    show nextMember false (0x2c :: (name.before.octets ++ 0x22 :: _)) = _
    rw [nextMember, skipBlanks_cons (by decide)]
    simp only [hquote]
    rfl

/-- The colon comes after blanks. -/
theorem colon_append : colon (bs.octets ++ 0x3a :: rest) = .ok rest := by
  rw [colon, skipBlanks_append, ← colon, colon_cons]

/-- What follows an item, after blanks, ends a number. -/
theorem endsNumber_itemOctets (items : List (Padded JsonText)) (close : Blanks) :
    EndsNumber (bs.octets ++ (JsonText.itemOctets false items close ++ rest)) := by
  apply endsNumber_append
  cases items with
  | nil =>
    rw [JsonText.itemOctets, List.append_assoc]
    exact endsNumber_append (endsNumber_cons (.inr (.inl rfl)) rest) close
  | cons p items => exact endsNumber_cons (.inl rfl) _

/-- What follows a member, after blanks, ends a number. -/
theorem endsNumber_memberOctets (members : List (Padded StringText × Padded JsonText))
    (close : Blanks) :
    EndsNumber (bs.octets ++ (JsonText.memberOctets false members close ++ rest)) := by
  apply endsNumber_append
  cases members with
  | nil =>
    rw [JsonText.memberOctets, List.append_assoc]
    exact endsNumber_append (endsNumber_cons (.inr (.inr rfl)) rest) close
  | cons m members => exact endsNumber_cons (.inl rfl) _

end Steps

/-! ## Items and members -/

/-- A reader finds a value in a text, with any blanks in front of it and whatever it may be
followed by. -/
def ReadsText (item : Bytes → Result Json) (v : JsonText) (value : Option Json) : Prop :=
  ∀ (bs : Blanks) (rest : Bytes), EndsNumber rest →
    Finds (item (bs.octets ++ (v.octets ++ rest))) value rest

theorem ReadsText.finds {item : Bytes → Result Json} {v : JsonText} {value : Option Json}
    (h : ReadsText item v value) {rest : Bytes} (hrest : EndsNumber rest) :
    Finds (item (v.octets ++ rest)) value rest :=
  h .none rest hrest

/-- The items of an array are read up to the closing bracket. -/
theorem finds_items {item : Bytes → Result Json} {value : JsonText → Option Json}
    (close : Blanks) (rest : Bytes) :
    ∀ {items : List (Padded JsonText)} {fuel : Nat} (gap : Blanks) (first : Bool),
      (∀ p ∈ items, ReadsText item p.body (value p.body)) → items.length < fuel →
      Finds (Parse.items item fuel first (gap.octets ++
        (JsonText.itemOctets first items close ++ rest)))
        (items.mapM fun p => value p.body) rest
  | [], fuel + 1, gap, first, _, _ => by
    rw [Parse.items, nextItem_append, JsonText.itemOctets, List.append_assoc, nextItem_append,
      List.singleton_append, nextItem_close]
    rfl
  | ⟨before, v, after⟩ :: items, fuel + 1, gap, first, h, hlt => by
    have hmore :=
      finds_items close rest after false (fun p hp => h p (List.mem_cons_of_mem _ hp))
      (Nat.lt_of_succ_lt_succ hlt)
    have hitem :=
      (h _ List.mem_cons_self).finds (endsNumber_itemOctets after rest items close)
    rw [Parse.items, nextItem_append, JsonText.itemOctets]
    simp only [List.append_assoc, nextItem_octets]
    rw [List.mapM_cons]
    rcases hitem.none_or_some with ⟨hv, fault, hr⟩ | ⟨json, hv, hr⟩
    · rw [hv, hr]
      rfl
    · rw [hv, hr]
      rcases hmore.none_or_some with ⟨hvs, fault, hr⟩ | ⟨vs, hvs, hr⟩
      · simp only [hvs, hr]
        rfl
      · simp only [hvs, hr]
        rfl

/-- The members of an object are read up to the closing brace. -/
theorem finds_members {item : Bytes → Result Json} {value : JsonText → Option Json}
    (close : Blanks) (rest : Bytes) :
    ∀ {members : List (Padded StringText × Padded JsonText)} {fuel : Nat}
      (seen : List (String × Json)) (gap : Blanks) (first : Bool),
      (∀ m ∈ members, ReadsText item m.2.body (value m.2.body)) → members.length < fuel →
      Finds (Parse.members item fuel first seen
          (gap.octets ++ (JsonText.memberOctets first members close ++ rest)))
        (members.foldlM (JsonText.putText value) seen) rest
  | [], fuel + 1, seen, gap, first, _, _ => by
    rw [Parse.members, nextMember_append, JsonText.memberOctets, List.append_assoc,
      nextMember_append, List.singleton_append, nextMember_close]
    rfl
  | (name, ⟨before, v, after⟩) :: members, fuel + 1, seen, gap, first, h, hlt => by
    have hmore : ∀ seen, Finds (Parse.members item fuel false seen
        (after.octets ++ (JsonText.memberOctets false members close ++ rest)))
        (members.foldlM (JsonText.putText value) seen) rest := fun seen =>
      finds_members close rest seen after false (fun m hm => h m (List.mem_cons_of_mem _ hm))
        (Nat.lt_of_succ_lt_succ hlt)
    have hitem :=
      h _ List.mem_cons_self before _ (endsNumber_memberOctets after rest members close)
    rw [Parse.members, nextMember_append, JsonText.memberOctets]
    simp only [List.append_assoc, List.cons_append, nextMember_octets]
    rw [List.foldlM_cons, JsonText.putText]
    rcases (finds_string name.body _).none_or_some with ⟨hn, fault, hr⟩ | ⟨n, hn, hr⟩
    · rw [hn, hr]
      rfl
    · rw [hn, hr]
      simp only [colon_append]
      rcases hitem.none_or_some with ⟨hv, fault, hr⟩ | ⟨json, hv, hr⟩
      · simp only [hv, hr]
        rfl
      · simp only [hv, hr]
        exact hmore _

/-! ## Values -/

/-- Blanks in front of a value do not matter. -/
theorem value_append (depth : Nat) (bs : Blanks) (bytes : Bytes) :
    value depth (bs.octets ++ bytes) = value depth bytes := by
  rw [value.eq_def, skipBlanks_append, ← value.eq_def]

theorem length_itemOctets (first : Bool) (items : List (Padded JsonText)) (close : Blanks) :
    items.length < (JsonText.itemOctets first items close).length := by
  induction items generalizing first with
  | nil => simp [JsonText.itemOctets]
  | cons p items ih =>
    obtain ⟨b, rest, hb, -⟩ := JsonText.exists_cons p.body
    have := ih false
    simp only [JsonText.itemOctets, List.length_append, hb, List.length_cons]
    omega

theorem length_memberOctets (first : Bool)
    (members : List (Padded StringText × Padded JsonText))
    (close : Blanks) :
    members.length < (JsonText.memberOctets first members close).length := by
  induction members generalizing first with
  | nil => simp [JsonText.memberOctets]
  | cons m members ih =>
    have := ih false
    simp only [JsonText.memberOctets, List.length_append, List.length_cons]
    omega

/-- A number is read at any depth. -/
theorem readsText_num (depth : Nat) (n : NumberText) :
    ReadsText (value depth) (.num n) (n.value?.map .num) := by
  intro bs rest hrest
  have hread := (finds_number n hrest).map Json.num
  rw [value_append, JsonText.octets, NumberText.octets]
  cases hn : n.negative with
  | true =>
    rw [hn] at hread
    rw [if_pos rfl, List.singleton_append, List.cons_append, value.eq_def,
      skipBlanks_cons (by decide)]
    exact hread
  | false =>
    obtain ⟨d, ds, hd, hdigit⟩ := Digits.exists_cons n.whole
    rw [hn, NumberText.unsignedOctets, hd, List.append_assoc, List.cons_append] at hread
    rw [if_neg Bool.false_ne_true, List.nil_append, NumberText.unsignedOctets, hd,
      List.append_assoc,
      List.cons_append, value.eq_def, skipBlanks_cons (isBlank_of_isDigit hdigit)]
    have hne : ∀ b : UInt8, isDigit b = false → d ≠ b := fun b hb => ne_of_isDigit hdigit hb
    simp only [scalar, hne 0x5b rfl, hne 0x7b rfl, hne 0x6e rfl, hne 0x74 rfl, hne 0x66 rfl,
      hne 0x22 rfl, hne 0x2d rfl, hdigit, if_false, if_true]
    exact hread

/-- A string is read at any depth. -/
theorem readsText_str (depth : Nat) (s : StringText) :
    ReadsText (value depth) (.str s) (s.text?.map .str) := by
  intro bs rest _
  rw [value_append, JsonText.octets, List.cons_append, List.append_assoc, value.eq_def,
    skipBlanks_cons (by decide)]
  exact (finds_string s rest).map Json.str

/-- An array is read if its items are, one level deeper. -/
theorem readsText_arr {depth : Nat} {f : JsonText → Option Json}
    {items : List (Padded JsonText)} (close : Blanks)
    (h : ∀ p ∈ items, ReadsText (value depth) p.body (f p.body)) :
    ReadsText (value (depth + 1)) (.arr items close) ((items.mapM fun p =>
      f p.body).map .arr) := by
  intro bs rest _
  have hlt : items.length < (JsonText.itemOctets true items close ++ rest).length + 1 := by
    have := length_itemOctets true items close
    rw [List.length_append]
    omega
  have hitems := (finds_items close rest .none true h hlt).map Json.arr
  rw [value_append, JsonText.octets, List.cons_append, value.eq_def,
    skipBlanks_cons (by decide)]
  exact hitems

/-- An object is read if its members are, one level deeper. -/
theorem readsText_obj {depth : Nat} {f : JsonText → Option Json}
    {members : List (Padded StringText × Padded JsonText)} (close : Blanks)
    (h : ∀ m ∈ members, ReadsText (value depth) m.2.body (f m.2.body)) :
    ReadsText (value (depth + 1)) (.obj members close)
      ((members.foldlM (JsonText.putText f) []).map .obj) := by
  intro bs rest _
  have hlt : members.length < (JsonText.memberOctets true members close ++
      rest).length + 1 := by
    have := length_memberOctets true members close
    rw [List.length_append]
    omega
  have hmembers := (finds_members close rest [] .none true h hlt).map Json.obj
  rw [value_append, JsonText.octets, List.cons_append, value.eq_def,
    skipBlanks_cons (by decide)]
  exact hmembers

/-- No array and no object is read where there must be none. -/
theorem readsText_structured {v : JsonText} (h : 0 < v.nesting) :
    ReadsText (value 0) v none := by
  intro bs rest _
  rw [value_append]
  cases v with
  | arr items close =>
    rw [JsonText.octets, List.cons_append, value.eq_def, skipBlanks_cons (by decide)]
    rfl
  | obj members close =>
    rw [JsonText.octets, List.cons_append, value.eq_def, skipBlanks_cons (by decide)]
    rfl
  | null | bool _ | num _ | str _ => simp [JsonText.nesting] at h

/-- A text is read as the value that it stands for, if it is not too deep. -/
theorem readsText_value (v : JsonText) :
    ∀ depth, ReadsText (value depth) v (v.valueUpTo? depth) := by
  induction v with
  | null =>
    intro depth bs rest _
    rw [value_append, JsonText.octets, value.eq_def, List.cons_append,
      skipBlanks_cons (by decide)]
    rfl
  | bool b =>
    intro depth bs rest _
    rw [value_append]
    cases b with
    | true =>
      rw [JsonText.octets, value.eq_def, List.cons_append, skipBlanks_cons (by decide)]
      rfl
    | false =>
      rw [JsonText.octets, value.eq_def, List.cons_append, skipBlanks_cons (by decide)]
      rfl
  | num n => exact fun depth => readsText_num depth n
  | str s => exact fun depth => readsText_str depth s
  | arr items close ih =>
    intro depth
    cases depth with
    | zero => exact readsText_structured (Nat.succ_pos _)
    | succ depth =>
      have hread := readsText_arr close (f := fun v => v.valueUpTo? depth) fun p hp =>
          ih p hp depth
      rw [JsonText.mapM_valueUpTo?] at hread
      rw [JsonText.valueUpTo?, JsonText.nesting, JsonText.value?]
      split
      · next h => rwa [if_pos (Nat.le_of_succ_le_succ h)] at hread
      · next h => rwa [if_neg (mt Nat.succ_le_succ h)] at hread
  | obj members close ih =>
    intro depth
    cases depth with
    | zero => exact readsText_structured (Nat.succ_pos _)
    | succ depth =>
      have hread := readsText_obj close (f := fun v => v.valueUpTo? depth) fun m hm =>
          ih m hm depth
      rw [JsonText.foldlM_putText] at hread
      rw [JsonText.valueUpTo?, JsonText.nesting, JsonText.value?]
      split
      · next h => rwa [if_pos (Nat.le_of_succ_le_succ h)] at hread
      · next h => rwa [if_neg (mt Nat.succ_le_succ h)] at hread

end Json.Parse

end BalancerClient
