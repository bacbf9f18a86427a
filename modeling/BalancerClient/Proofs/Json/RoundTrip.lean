import BalancerClient.Proofs.Json.Numbers
import BalancerClient.Proofs.Json.WellFormed

/-!
# Reading the values that are written

The compact text of a value is read back as the same value, with the members of every object
in their order, as long as names do not repeat, numbers are integers and arrays and objects do
not contain each other too deeply.  The reader is asked to stop where the text ends: the
statements carry what follows.

The induction is on the depth that the reader allows, because every step of the reader into an
array or an object spends one level of it.

## Main statements

* `Json.Parse.items_moreItemChars`, `Json.Parse.members_moreMemberChars` - the two loops of
  the reader.
* `Json.Parse.value_chars` - a value that is written is read back, whatever follows it.
* `Json.parse_compact` - the same for a whole text; `Json.compact_injective` follows.
-/

namespace BalancerClient.Json

namespace Parse

open Utf8 (octets)

/-! ## Where a value begins and ends -/

theorem endsNumber_nil : EndsNumber [] := by simp [EndsNumber]

/-- Commas and closing brackets end numbers. -/
theorem endsNumber_cons {b : UInt8} (h : b = 0x2c ∨ b = 0x5d ∨ b = 0x7d) (rest : Bytes) :
    EndsNumber (b :: rest) := by
  intro d hd
  obtain rfl : b = d := Option.some.inj hd
  rcases h with rfl | rfl | rfl <;> decide

theorem skipBlanks_cons {b : UInt8} (h : isBlank b = false) (rest : Bytes) :
    skipBlanks (b :: rest) = b :: rest := by
  simp [skipBlanks, h]

/-- Whether a value may start with an octet: neither a blank nor the end of an array. -/
def StartsValue (bytes : Bytes) : Prop := ∀ b ∈ bytes.head?, isBlank b = false ∧ b ≠ 0x5d

theorem startsValue_cons {b : UInt8} (hblank : isBlank b = false) (hclose : b ≠ 0x5d)
    (rest : Bytes) : StartsValue (b :: rest) := by
  intro d hd
  obtain rfl : b = d := Option.some.inj hd
  exact ⟨hblank, hclose⟩

theorem startsValue_of_digit {c : Char} (h : c.isDigit = true) (rest : Bytes) :
    StartsValue (String.utf8EncodeChar c ++ rest) := by
  obtain ⟨ho, hd, -⟩ := octet_of_isDigit h
  rw [ho]
  exact startsValue_cons (isBlank_of_isDigit hd) (ne_of_isDigit hd rfl) rest

/-- The text of a value starts one. -/
theorem startsValue_chars {v : Json} (h : v.IsIntegral) (rest : Bytes) :
    StartsValue (octets v.chars ++ rest) := by
  have hopen : String.utf8EncodeChar '[' = [0x5b] := rfl
  have hbrace : String.utf8EncodeChar '\x7b' = [0x7b] := rfl
  have hminus : String.utf8EncodeChar '-' = [0x2d] := rfl
  cases v with
  | null => exact startsValue_cons (b := 0x6e) (by decide) (by decide) _
  | bool b =>
    cases b with
    | true => exact startsValue_cons (b := 0x74) (by decide) (by decide) _
    | false => exact startsValue_cons (b := 0x66) (by decide) (by decide) _
  | str s =>
    rw [chars, octets_stringChars]
    exact startsValue_cons (by decide) (by decide) _
  | arr items =>
    rw [chars, Utf8.octets_cons, hopen]
    exact startsValue_cons (by decide) (by decide) _
  | obj members =>
    rw [chars, Utf8.octets_cons, hbrace]
    exact startsValue_cons (by decide) (by decide) _
  | num n =>
    cases n with
    | float x => exact absurd h (by simp [IsIntegral, everywhere, isNoFloat])
    | int n wide =>
      rw [chars, Number.chars, intChars]
      split
      · rw [Utf8.octets_cons, hminus]
        exact startsValue_cons (by decide) (by decide) _
      · obtain ⟨c, cs, hcs, hdigit⟩ := exists_toDigits n.natAbs
        rw [hcs, Utf8.octets_cons, List.append_assoc]
        exact startsValue_of_digit (hdigit c List.mem_cons_self) _

/-- The text of a value is not empty. -/
theorem chars_ne_nil {v : Json} (h : v.IsIntegral) : v.chars ≠ [] := by
  cases v with
  | null => simp [chars]
  | bool b => cases b <;> simp [chars]
  | str s => simp [chars, stringChars]
  | arr items => simp [chars]
  | obj members => simp [chars]
  | num n =>
    cases n with
    | float x => exact absurd h (by simp [IsIntegral, everywhere, isNoFloat])
    | int n wide =>
      rw [chars, Number.chars, intChars]
      split
      · simp
      · exact Nat.toDigits_ne_nil

/-! ## Scalars -/

/-- An integer that is written is read back. -/
theorem value_intChars (depth : Nat) {n : Int} (wide : IsWide n) {rest : Bytes}
    (hr : EndsNumber rest) :
    value depth (octets (intChars n) ++ rest) = .ok (.num (.int n wide), rest) := by
  obtain ⟨hlow, hhigh⟩ := wide
  have hfit : n.natAbs ≤ maxSignificand := by
    simp only [maxSignificand]
    omega
  have hnumber := fun negative => number_toDigits negative hfit hr
  rw [intChars]
  split
  · next hneg =>
    have hint : integral true n.natAbs 0 = .ok (.int n ⟨hlow, hhigh⟩) := by
      have h63 : ¬ (n.natAbs = 0 ∨ 0x8000000000000000 < n.natAbs) := by omega
      have habs : -((n.natAbs : Nat) : Int) = n := by omega
      simp only [integral, ne_eq, not_true_eq_false, if_false, if_true, if_neg h63, habs]
      rw [Number.ofInt_of_isWide ⟨hlow, hhigh⟩]
    have hminus : String.utf8EncodeChar '-' = [0x2d] := rfl
    rw [Utf8.octets_cons, hminus, List.append_assoc, List.singleton_append, value.eq_def,
      skipBlanks_cons (by decide)]
    simp only [scalar]
    rw [hnumber true, hint]
    rfl
  · next hpos =>
    have hint : integral false n.natAbs 0 = .ok (.int n ⟨hlow, hhigh⟩) := by
      have habs : ((n.natAbs : Nat) : Int) = n := by omega
      simp only [integral, ne_eq, not_true_eq_false, if_false, Bool.false_eq_true, habs]
      rw [Number.ofInt_of_isWide ⟨hlow, hhigh⟩]
    obtain ⟨c, cs, hcs, hdigit⟩ := exists_toDigits n.natAbs
    have hc : c.isDigit = true := hdigit c List.mem_cons_self
    obtain ⟨ho, hd, -⟩ := octet_of_isDigit hc
    have hread := hnumber false
    rw [hint, hcs, Utf8.octets_cons, ho, List.singleton_append, List.cons_append] at hread
    have hstart := startsValue_of_digit hc (octets cs ++ rest)
    rw [ho, List.singleton_append] at hstart
    obtain ⟨hblank, -⟩ := hstart _ rfl
    rw [hcs, Utf8.octets_cons, ho, List.singleton_append, List.cons_append, value.eq_def,
      skipBlanks_cons hblank]
    generalize UInt8.ofNat c.toNat = b at hd hread
    have hne : ∀ d : UInt8, isDigit d = false → b ≠ d := fun d hd' => ne_of_isDigit hd hd'
    simp only [hne 0x5b (by decide), hne 0x7b (by decide), if_false, scalar,
      hne 0x6e (by decide), hne 0x74 (by decide), hne 0x66 (by decide), hne 0x22 (by decide),
      hne 0x2d (by decide), hd, if_true, hread]
    rfl

/-- A string that is written is read back as a value. -/
theorem value_stringChars (depth : Nat) (s : String) (rest : Bytes) :
    value depth (octets (stringChars s) ++ rest) = .ok (.str s, rest) := by
  rw [octets_stringChars, List.cons_append, List.append_assoc, value.eq_def,
    skipBlanks_cons (by decide)]
  simp only [scalar]
  rw [List.singleton_append, string_stringChars]
  rfl

/-! ## Arrays and objects -/

/-- A reader reads a value: from its text it takes the value, and leaves what follows. -/
def Reads (item : Bytes → Result Json) (v : Json) : Prop :=
  ∀ rest, EndsNumber rest → item (octets v.chars ++ rest) = .ok (v, rest)

theorem nextItem_close (first : Bool) (rest : Bytes) :
    nextItem first (0x5d :: rest) = .ok (.close rest) := by
  rw [nextItem, skipBlanks_cons (by decide)]
  rfl

theorem nextItem_first {bytes : Bytes} (hne : bytes ≠ []) (h : StartsValue bytes) :
    nextItem true bytes = .ok (.more bytes) := by
  cases bytes with
  | nil => exact absurd rfl hne
  | cons b rest =>
    obtain ⟨hblank, hclose⟩ := h b rfl
    simp [nextItem, skipBlanks_cons hblank, hclose]

theorem nextItem_comma {bytes : Bytes} (hne : bytes ≠ []) (h : StartsValue bytes) :
    nextItem false (0x2c :: bytes) = .ok (.more bytes) := by
  cases bytes with
  | nil => exact absurd rfl hne
  | cons b rest =>
    obtain ⟨hblank, hclose⟩ := h b rfl
    rw [nextItem, skipBlanks_cons (by decide)]
    simp [skipBlanks_cons hblank, hclose]

theorem endsNumber_moreItemChars (vs : List Json) (rest : Bytes) :
    EndsNumber (octets (moreItemChars vs) ++ rest) := by
  cases vs with
  | nil => exact endsNumber_cons (.inr (.inl rfl)) _
  | cons v vs => exact endsNumber_cons (.inl rfl) _

/-- One more item is read, after a comma or first. -/
theorem items_item {item : Bytes → Result Json} {v : Json} {vs : List Json}
    (hv : Reads item v) {fuel : Nat} {first : Bool} {bytes rest : Bytes}
    (hnext : nextItem first bytes =
      .ok (.more (octets v.chars ++ (octets (moreItemChars vs) ++ rest))))
    (hmore : items item fuel false (octets (moreItemChars vs) ++ rest) = .ok (vs, rest)) :
    items item (fuel + 1) first bytes = .ok (v :: vs, rest) := by
  rw [items, hnext]
  simp only [hv _ (endsNumber_moreItemChars vs rest), hmore]

theorem octets_chars_ne_nil {v : Json} (h : v.IsIntegral) (rest : Bytes) :
    octets v.chars ++ rest ≠ [] := by
  have hlen := Utf8.length_le_length_octets v.chars
  have hpos := List.length_pos_iff.2 (chars_ne_nil h)
  intro hnil
  rw [List.append_eq_nil_iff] at hnil
  rw [hnil.1, List.length_nil] at hlen
  omega

/-- The items behind the first are read up to the closing bracket. -/
theorem items_moreItemChars {item : Bytes → Result Json} (rest : Bytes) :
    ∀ {vs : List Json} {fuel : Nat}, (∀ v ∈ vs, v.IsIntegral ∧ Reads item v) →
      vs.length < fuel →
      items item fuel false (octets (moreItemChars vs) ++ rest) = .ok (vs, rest)
  | [], fuel + 1, _, _ => by
    show items item (fuel + 1) false (0x5d :: rest) = _
    rw [items, nextItem_close]
  | v :: vs, fuel + 1, h, hlt => by
    obtain ⟨hint, hread⟩ := h v List.mem_cons_self
    have ih : items item fuel false (octets (moreItemChars vs) ++ rest) = .ok (vs, rest) :=
      items_moreItemChars rest (fun w hw => h w (List.mem_cons_of_mem _ hw))
        (Nat.lt_of_succ_lt_succ hlt)
    refine items_item hread ?_ ih
    rw [moreItemChars, Utf8.octets_cons, Utf8.octets_append, List.append_assoc,
      List.append_assoc]
    exact nextItem_comma (octets_chars_ne_nil hint _) (startsValue_chars hint _)

/-- The items of an array are read up to the closing bracket. -/
theorem items_itemChars {item : Bytes → Result Json} (rest : Bytes) {vs : List Json}
    {fuel : Nat} (h : ∀ v ∈ vs, v.IsIntegral ∧ Reads item v) (hlt : vs.length < fuel) :
    items item fuel true (octets (itemChars vs) ++ rest) = .ok (vs, rest) := by
  cases fuel with
  | zero => exact absurd hlt (Nat.not_lt_zero _)
  | succ fuel =>
    cases vs with
    | nil =>
      show items item (fuel + 1) true (0x5d :: rest) = _
      rw [items, nextItem_close]
    | cons v vs =>
      obtain ⟨hint, hread⟩ := h v List.mem_cons_self
      have hmore : items item fuel false (octets (moreItemChars vs) ++ rest) =
          .ok (vs, rest) :=
        items_moreItemChars rest (fun w hw => h w (List.mem_cons_of_mem _ hw))
          (Nat.lt_of_succ_lt_succ hlt)
      refine items_item hread ?_ hmore
      rw [itemChars, Utf8.octets_append, List.append_assoc]
      exact nextItem_first (octets_chars_ne_nil hint _) (startsValue_chars hint _)

theorem putMember_of_notMem {name : String} (v : Json) :
    ∀ {members : List (String × Json)}, name ∉ members.map Prod.fst →
      putMember name v members = members ++ [(name, v)]
  | [], _ => rfl
  | (n, w) :: rest, h => by
    simp only [List.map_cons, List.mem_cons, not_or] at h
    rw [putMember, if_neg (Ne.symm h.1), putMember_of_notMem v h.2, List.cons_append]

theorem nextMember_close (first : Bool) (rest : Bytes) :
    nextMember first (0x7d :: rest) = .ok (.close rest) := by
  rw [nextMember, skipBlanks_cons (by decide)]
  rfl

theorem nextMember_first (bytes : Bytes) :
    nextMember true (0x22 :: bytes) = .ok (.more bytes) := by
  rw [nextMember, skipBlanks_cons (by decide)]
  rfl

theorem nextMember_comma (bytes : Bytes) :
    nextMember false (0x2c :: 0x22 :: bytes) = .ok (.more bytes) := by
  rw [nextMember, skipBlanks_cons (by decide)]
  rfl

theorem colon_cons (rest : Bytes) : colon (0x3a :: rest) = .ok rest := by
  rw [colon, skipBlanks_cons (by decide)]
  rfl

theorem endsNumber_moreMemberChars (ms : List (String × Json)) (rest : Bytes) :
    EndsNumber (octets (moreMemberChars ms) ++ rest) := by
  cases ms with
  | nil => exact endsNumber_cons (.inr (.inr rfl)) _
  | cons m ms => exact endsNumber_cons (.inl rfl) _

/-- One more member is read, after a comma or first. -/
theorem members_member {item : Bytes → Result Json} {name : String} {v : Json}
    (seen : List (String × Json)) (hv : Reads item v) (hname : name ∉ seen.map Prod.fst)
    {ms : List (String × Json)} {fuel : Nat} {first : Bool} {bytes rest : Bytes}
    (hnext : nextMember first bytes = .ok (.more (octets (name.toList.flatMap escape) ++
      0x22 :: 0x3a :: (octets v.chars ++ (octets (moreMemberChars ms) ++ rest)))))
    (hmore : members item fuel false (seen ++ [(name, v)]) (octets (moreMemberChars ms) ++
      rest) = .ok (seen ++ (name, v) :: ms, rest)) :
    members item (fuel + 1) first seen bytes = .ok (seen ++ (name, v) :: ms, rest) := by
  rw [members, hnext]
  simp only [string_stringChars, colon_cons, hv _ (endsNumber_moreMemberChars ms rest),
    putMember_of_notMem v hname, hmore]

/-- The octets of a written member, with what follows it. -/
theorem octets_member (name : String) (v : Json) (ms : List (String × Json)) (rest : Bytes) :
    octets (stringChars name ++ ':' :: (v.chars ++ moreMemberChars ms)) ++ rest =
      0x22 :: (octets (name.toList.flatMap escape) ++
        0x22 :: 0x3a :: (octets v.chars ++ (octets (moreMemberChars ms) ++ rest))) := by
  have hcolon : String.utf8EncodeChar ':' = [0x3a] := rfl
  simp only [Utf8.octets_append, Utf8.octets_cons, octets_stringChars, hcolon,
    List.append_assoc, List.cons_append, List.nil_append]

/-- The members behind the first are read up to the closing brace. -/
theorem members_moreMemberChars {item : Bytes → Result Json} (rest : Bytes) :
    ∀ {ms seen : List (String × Json)} {fuel : Nat}, (∀ m ∈ ms, Reads item m.2) →
      ((seen ++ ms).map Prod.fst).Nodup → ms.length < fuel →
      members item fuel false seen (octets (moreMemberChars ms) ++ rest) =
        .ok (seen ++ ms, rest)
  | [], seen, fuel + 1, _, _, _ => by
    show members item (fuel + 1) false seen (0x7d :: rest) = _
    rw [members, nextMember_close, List.append_nil]
  | (name, v) :: ms, seen, fuel + 1, h, hnames, hlt => by
    have hname : name ∉ seen.map Prod.fst := by
      rw [List.map_append, List.map_cons, List.nodup_append] at hnames
      intro hmem
      exact hnames.2.2 _ hmem _ List.mem_cons_self rfl
    have hassoc : seen ++ (name, v) :: ms = (seen ++ [(name, v)]) ++ ms := by simp
    have ih : members item fuel false (seen ++ [(name, v)]) (octets (moreMemberChars ms) ++
        rest) = .ok (seen ++ (name, v) :: ms, rest) := by
      rw [hassoc] at hnames ⊢
      exact members_moreMemberChars rest (fun m hm => h m (List.mem_cons_of_mem _ hm)) hnames
        (Nat.lt_of_succ_lt_succ hlt)
    refine members_member seen (h _ List.mem_cons_self) hname ?_ ih
    have hcomma : String.utf8EncodeChar ',' = [0x2c] := rfl
    rw [moreMemberChars, Utf8.octets_cons, hcomma, List.singleton_append, List.cons_append,
      octets_member, nextMember_comma]

/-- The members of an object are read up to the closing brace. -/
theorem members_memberChars {item : Bytes → Result Json} (rest : Bytes)
    {ms : List (String × Json)} {fuel : Nat} (h : ∀ m ∈ ms, Reads item m.2)
    (hnames : (ms.map Prod.fst).Nodup) (hlt : ms.length < fuel) :
    members item fuel true [] (octets (memberChars ms) ++ rest) = .ok (ms, rest) := by
  cases fuel with
  | zero => exact absurd hlt (Nat.not_lt_zero _)
  | succ fuel =>
    cases ms with
    | nil =>
      show members item (fuel + 1) true [] (0x7d :: rest) = _
      rw [members, nextMember_close]
    | cons m ms =>
      obtain ⟨name, v⟩ := m
      have hmore : members item fuel false [(name, v)] (octets (moreMemberChars ms) ++ rest) =
          .ok ((name, v) :: ms, rest) :=
        members_moreMemberChars rest (fun m hm => h m (List.mem_cons_of_mem _ hm)) hnames
          (Nat.lt_of_succ_lt_succ hlt)
      have hread : Reads item v := h (name, v) List.mem_cons_self
      refine members_member [] hread (by simp) ?_ hmore
      rw [memberChars, octets_member, nextMember_first]

/-! ## Values -/

theorem length_lt_length_moreItemChars (vs : List Json) :
    vs.length < (moreItemChars vs).length := by
  induction vs with
  | nil => simp [moreItemChars]
  | cons v vs ih =>
    simp only [moreItemChars, List.length_cons, List.length_append]
    omega

theorem length_lt_length_moreMemberChars (ms : List (String × Json)) :
    ms.length < (moreMemberChars ms).length := by
  induction ms with
  | nil => simp [moreMemberChars]
  | cons m ms ih =>
    obtain ⟨name, v⟩ := m
    simp only [moreMemberChars, List.length_cons, List.length_append]
    omega

theorem length_itemChars_lt (vs : List Json) (rest : Bytes) :
    vs.length < (octets (itemChars vs) ++ rest).length + 1 := by
  have hchars : vs.length ≤ (itemChars vs).length := by
    cases vs with
    | nil => simp
    | cons v vs =>
      have := length_lt_length_moreItemChars vs
      simp only [itemChars, List.length_cons, List.length_append]
      omega
  have := Utf8.length_le_length_octets (itemChars vs)
  rw [List.length_append]
  omega

theorem length_memberChars_lt (ms : List (String × Json)) (rest : Bytes) :
    ms.length < (octets (memberChars ms) ++ rest).length + 1 := by
  have hchars : ms.length ≤ (memberChars ms).length := by
    cases ms with
    | nil => simp
    | cons m ms =>
      have := length_lt_length_moreMemberChars ms
      simp only [memberChars, List.length_cons, List.length_append]
      omega
  have := Utf8.length_le_length_octets (memberChars ms)
  rw [List.length_append]
  omega

/-- Words, numbers and strings are read at any depth. -/
theorem value_scalar (depth : Nat) {v : Json} (hint : v.IsIntegral)
    (hv : v.isStructured = false) : Reads (value depth) v := by
  intro rest hr
  have hnull : octets null.chars = [0x6e, 0x75, 0x6c, 0x6c] := rfl
  have htrue : octets (bool true).chars = [0x74, 0x72, 0x75, 0x65] := rfl
  have hfalse : octets (bool false).chars = [0x66, 0x61, 0x6c, 0x73, 0x65] := rfl
  cases v with
  | null =>
    rw [hnull, List.cons_append, value.eq_def, skipBlanks_cons (by decide)]
    rfl
  | bool b =>
    cases b with
    | true =>
      rw [htrue, List.cons_append, value.eq_def, skipBlanks_cons (by decide)]
      rfl
    | false =>
      rw [hfalse, List.cons_append, value.eq_def, skipBlanks_cons (by decide)]
      rfl
  | num n =>
    cases n with
    | float x => exact absurd hint (by simp [IsIntegral, everywhere, isNoFloat])
    | int n wide => exact value_intChars depth wide hr
  | str s => exact value_stringChars depth s rest
  | arr items => exact absurd hv (by simp [isStructured])
  | obj members => exact absurd hv (by simp [isStructured])

/-- An array that is written is read back, if its items are. -/
theorem value_arr {depth : Nat} {vs : List Json}
    (h : ∀ v ∈ vs, v.IsIntegral ∧ Reads (value depth) v) :
    Reads (value (depth + 1)) (arr vs) := by
  intro rest _
  have hopen : String.utf8EncodeChar '[' = [0x5b] := rfl
  have hitems := items_itemChars rest h (length_itemChars_lt vs rest)
  rw [chars, Utf8.octets_cons, hopen, List.singleton_append, List.cons_append, value.eq_def,
    skipBlanks_cons (by decide)]
  simp only [if_true, hitems]
  rfl

/-- An object that is written is read back, if its members are and their names differ. -/
theorem value_obj {depth : Nat} {ms : List (String × Json)} (hnames : (ms.map Prod.fst).Nodup)
    (h : ∀ m ∈ ms, Reads (value depth) m.2) : Reads (value (depth + 1)) (obj ms) := by
  intro rest _
  have hopen : String.utf8EncodeChar '\x7b' = [0x7b] := rfl
  have hmembers := members_memberChars rest h hnames (length_memberChars_lt ms rest)
  have hne : ¬ (0x7b : UInt8) = 0x5b := by decide
  rw [chars, Utf8.octets_cons, hopen, List.singleton_append, List.cons_append, value.eq_def,
    skipBlanks_cons (by decide)]
  simp only [hne, if_true, if_false, hmembers]
  rfl

/-- A value that is written is read back, and what follows it is left. -/
theorem value_chars {depth : Nat} :
    ∀ {v : Json}, v.HasDistinctNames → v.IsIntegral → v.nesting ≤ depth →
      Reads (value depth) v := by
  induction depth with
  | zero =>
    intro v _ hint hdepth
    refine value_scalar 0 hint ?_
    cases v <;> simp [nesting, isStructured] at hdepth ⊢
  | succ depth ih =>
    intro v hnames hint hdepth
    cases v with
    | arr items =>
      rw [nesting, Nat.add_le_add_iff_right, nestingItems_le_iff] at hdepth
      rw [hasDistinctNames_arr] at hnames
      rw [isIntegral_arr] at hint
      apply value_arr
      intro v hv
      exact ⟨hint v hv, ih (hnames v hv) (hint v hv) (hdepth v hv)⟩
    | obj members =>
      rw [nesting, Nat.add_le_add_iff_right, nestingMembers_le_iff] at hdepth
      rw [hasDistinctNames_obj] at hnames
      rw [isIntegral_obj] at hint
      apply value_obj hnames.1
      intro m hm
      exact ih (hnames.2 m hm) (hint m hm) (hdepth m hm)
    | null => exact value_scalar _ hint rfl
    | bool b => exact value_scalar _ hint rfl
    | num n => exact value_scalar _ hint rfl
    | str s => exact value_scalar _ hint rfl

end Parse

/-- The compact text of a value is read back as the value. -/
theorem parse_compact {v : Json} (hnames : v.HasDistinctNames) (hint : v.IsIntegral)
    (hdepth : v.nesting ≤ maxNesting) : parse (Utf8.encode v.compact) = .ok v := by
  have hread := Parse.value_chars hnames hint hdepth [] Parse.endsNumber_nil
  rw [List.append_nil] at hread
  rw [parse, compact, Utf8.encode_eq_octets, String.toList_ofList, hread]
  rfl

/-- Different values have different texts. -/
theorem compact_injective {v w : Json} (hv : v.HasDistinctNames ∧ v.IsIntegral ∧
    v.nesting ≤ maxNesting)
    (hw : w.HasDistinctNames ∧ w.IsIntegral ∧ w.nesting ≤ maxNesting)
    (h : v.compact = w.compact) : v = w := by
  have hread := parse_compact hv.1 hv.2.1 hv.2.2
  rw [h, parse_compact hw.1 hw.2.1 hw.2.2] at hread
  exact (Except.ok.inj hread).symm

end BalancerClient.Json
