import BalancerClient.Json.Skip
import BalancerClient.Proofs.Json.Reading

/-!
# Passing over texts

Every text is passed over, however deep its arrays and objects are, however large its numbers,
and whatever its strings hold, and what follows it is left.

The reader keeps a list of what is open.  Inside a text the list grows and shrinks, and behind
the text it is what it was in front of it: this is what the induction over texts carries,
together with a bound on the fuel that a text takes.

## Main definitions

* `Json.Skip.Passes` - a text is passed over, whatever is open.

## Main statements

* `Json.Skip.passes` - every text is passed over.
* `Json.Skip.value_octets` - the same of the whole reader, with the fuel that it has.
-/

namespace BalancerClient.Json.Skip

open Parse (EndsNumber skipBlanks skipBlanks_append skipBlanks_cons isDigit digits
  isBlank colon)

/-! ## Strings and numbers -/

/-- The content of a string is passed over, with its closing quotation mark. -/
theorem stringContent_octets (s : StringText) (rest : Bytes) :
    stringContent (s.octets ++ 0x22 :: rest) = .ok rest := by
  induction s with
  | nil =>
    rw [stringContent.eq_def]
    rfl
  | cons p s ih =>
    rw [Parse.octets_cons, List.append_assoc]
    cases p with
    | octet b plain =>
      obtain ⟨hlow, hquote, hslash⟩ := plain
      rw [StringPiece.octets, List.singleton_append, stringContent.eq_def]
      simp [hquote, hslash, UInt8.not_lt.2 hlow, ih]
    | letter e octet escape =>
      have hunit : e ≠ 0x75 := by
        intro he
        rw [he] at escape
        cases escape
      rw [StringPiece.octets, List.cons_append, List.singleton_append, stringContent.eq_def]
      simp [hunit, escape, ih]
    | unit h₁ h₂ h₃ h₄ n hex =>
      rw [StringPiece.octets]
      simp only [List.cons_append, List.nil_append]
      rw [stringContent.eq_def]
      simp [hex, ih]

section Numbers

variable {rest : Bytes}

theorem someDigits_octets (ds : Digits) (hr : ∀ b ∈ rest.head?, isDigit b = false) :
    someDigits (ds.octets ++ rest) = .ok rest := by
  obtain ⟨d, tail, hd, -⟩ := Parse.Digits.exists_cons ds
  rw [someDigits, Parse.digits_octets ds hr, hd]

theorem exponentPart_octets (e : ExponentText) (hr : ∀ b ∈ rest.head?, isDigit b = false) :
    exponentPart (e.signOctets ++ (e.digits.octets ++ rest)) = .ok rest := by
  have hdigits := someDigits_octets e.digits hr
  obtain ⟨d, tail, hd, hdigit⟩ := Parse.Digits.exists_cons e.digits
  have hplus : d ≠ 0x2b := Parse.ne_of_isDigit hdigit rfl
  have hminus : d ≠ 0x2d := Parse.ne_of_isDigit hdigit rfl
  rw [ExponentText.signOctets]
  rw [hd, List.cons_append] at hdigits ⊢
  rcases e.sign with _ | _ | _
  · simp [exponentPart, hplus, hminus, hdigits]
  · simp [exponentPart, hdigits]
  · simp [exponentPart, hdigits]

theorem optionalExponent_octets (e : Option ExponentText) (h : EndsNumber rest) :
    optionalExponent (e.elim [] ExponentText.octets ++ rest) = .ok rest := by
  cases e with
  | none =>
    cases rest with
    | nil => rfl
    | cons b rest =>
      obtain ⟨-, -, hsmall, hlarge⟩ := h b rfl
      simp [optionalExponent, hsmall, hlarge]
  | some e =>
    have hread := exponentPart_octets e (Parse.isDigit_head?_of_endsNumber h)
    simp only [Option.elim_some, ExponentText.octets, List.cons_append, List.append_assoc]
    cases e.capital <;> simp [optionalExponent, hread]

/-- A number is passed over, however large it is. -/
theorem number_octets (n : NumberText) (h : EndsNumber rest) :
    number (n.unsignedOctets ++ rest) = .ok rest := by
  have hdigits := Parse.digits_octets n.whole (Parse.not_isDigit_tailOctets n h)
  obtain ⟨d, ds, hd, hzero⟩ := Parse.NumberText.exists_whole n
  have hexponent := optionalExponent_octets n.exponent h
  have hhead := Parse.head?_exponent n.exponent h
  rw [NumberText.unsignedOctets, List.append_assoc, number, hdigits, hd]
  simp only [hzero]
  rw [NumberText.tailOctets]
  cases n.fraction with
  | some ds =>
    have hread := someDigits_octets ds fun b hb => (hhead b hb).1
    simp only [Option.elim_some, List.cons_append, List.append_assoc, hread, if_true]
    exact hexponent
  | none =>
    rw [Option.elim_none, List.nil_append]
    generalize n.exponent.elim [] ExponentText.octets ++ rest = bytes at hexponent hhead
    cases bytes with
    | nil => exact hexponent
    | cons b bytes => simpa [(hhead b rfl).2] using hexponent

end Numbers

/-! ## Values -/

/-- A text is passed over, whatever is open around it, with as much fuel as it has octets at
most. -/
def Passes (v : JsonText) : Prop :=
  ∃ cost ≤ v.octets.length, ∀ (fuel : Nat) (frames : List Frame) (bs : Blanks) (rest : Bytes),
    EndsNumber rest → inside (cost + fuel) frames (bs.octets ++ (v.octets ++ rest)) =
      behind fuel frames rest

/-- Blanks in front of a value do not matter. -/
theorem inside_append (fuel : Nat) (frames : List Frame) (bs : Blanks) (bytes : Bytes) :
    inside fuel frames (bs.octets ++ bytes) = inside fuel frames bytes := by
  cases fuel with
  | zero => rfl
  | succ fuel => rw [inside, skipBlanks_append, ← inside]

/-- Blanks behind an item or a member do not matter. -/
theorem behind_append (fuel : Nat) (frame : Frame) (frames : List Frame) (bs : Blanks)
    (bytes : Bytes) :
    behind fuel (frame :: frames) (bs.octets ++ bytes) =
      behind fuel (frame :: frames) bytes := by
  cases fuel with
  | zero => rfl
  | succ fuel => simp only [behind, skipBlanks_append]

/-- A text that is neither an array nor an object is passed over if the reader of scalars does
so. -/
theorem passes_of_scalar {v : JsonText} {b : UInt8} {tail : Bytes} (hv : v.octets = b :: tail)
    (hblank : isBlank b = false) (hopen : b ≠ 0x5b ∧ b ≠ 0x7b)
    (h : ∀ rest, EndsNumber rest → scalar b (tail ++ rest) = .ok rest) : Passes v := by
  refine ⟨1, by simp [hv], ?_⟩
  intro fuel frames bs rest hrest
  rw [inside_append, hv, Nat.add_comm, inside, List.cons_append, skipBlanks_cons hblank]
  simp [hopen.1, hopen.2, h rest hrest]

/-- The items behind the first are passed over up to the closing bracket. -/
theorem passes_items (close : Blanks) {items : List (Padded JsonText)}
    (h : ∀ p ∈ items, Passes p.body) :
    ∃ cost ≤ (JsonText.itemOctets false items close).length,
      ∀ (fuel : Nat) (frames : List Frame) (gap : Blanks) (rest : Bytes),
        behind (cost + fuel) (.array :: frames)
          (gap.octets ++ (JsonText.itemOctets false items close ++ rest)) =
            behind fuel frames rest := by
  induction items with
  | nil =>
    refine ⟨1, by simp [JsonText.itemOctets], ?_⟩
    intro fuel frames gap rest
    rw [behind_append, JsonText.itemOctets, List.append_assoc, behind_append,
      Nat.add_comm, behind, List.singleton_append, skipBlanks_cons (by decide)]
    rfl
  | cons p items ih =>
    obtain ⟨before, v, after⟩ := p
    obtain ⟨cost, hcost, hitems⟩ := ih fun p hp => h p (List.mem_cons_of_mem _ hp)
    obtain ⟨first, hfirst, hv⟩ : Passes v := h _ List.mem_cons_self
    -- the step past the comma is paid for by the comma
    refine ⟨first + cost + 1, ?_, ?_⟩
    · simp only [JsonText.itemOctets, JsonText.comma, List.length_append,
        Bool.false_eq_true, if_false, List.length_cons, List.length_nil]
      omega
    · intro fuel frames gap rest
      have hfuel : first + cost + 1 + fuel = first + (cost + fuel) + 1 := by omega
      rw [behind_append, JsonText.itemOctets, hfuel, behind]
      simp only [JsonText.comma, Bool.false_eq_true, if_false, List.append_assoc,
        List.cons_append, List.nil_append]
      rw [skipBlanks_cons (by decide)]
      simp only [if_true]
      rw [hv _ _ _ _ (Parse.endsNumber_itemOctets after rest items close), hitems]

/-- The name of a member is passed over with its colon. -/
theorem memberName_octets (name : Padded StringText) (rest : Bytes) :
    memberName (JsonText.nameOctets name ++ 0x3a :: rest) = .ok rest := by
  rw [memberName, JsonText.nameOctets]
  simp only [List.append_assoc, List.cons_append]
  rw [skipBlanks_append, skipBlanks_cons (by decide)]
  simp only [if_true, stringContent_octets]
  exact Parse.colon_append name.after rest

/-- The members behind the first are passed over up to the closing brace. -/
theorem passes_members (close : Blanks) {members : List (Padded StringText × Padded JsonText)}
    (h : ∀ m ∈ members, Passes m.2.body) :
    ∃ cost ≤ (JsonText.memberOctets false members close).length,
      ∀ (fuel : Nat) (frames : List Frame) (gap : Blanks) (rest : Bytes),
        behind (cost + fuel) (.object :: frames)
          (gap.octets ++ (JsonText.memberOctets false members close ++ rest)) =
            behind fuel frames rest := by
  induction members with
  | nil =>
    refine ⟨1, by simp [JsonText.memberOctets], ?_⟩
    intro fuel frames gap rest
    rw [behind_append, JsonText.memberOctets, List.append_assoc, behind_append,
      Nat.add_comm, behind, List.singleton_append, skipBlanks_cons (by decide)]
    rfl
  | cons m members ih =>
    obtain ⟨name, before, v, after⟩ := m
    obtain ⟨cost, hcost, hmembers⟩ := ih fun m hm => h m (List.mem_cons_of_mem _ hm)
    obtain ⟨first, hfirst, hv⟩ : Passes v := h _ List.mem_cons_self
    refine ⟨first + cost + 1, ?_, ?_⟩
    · simp only [JsonText.memberOctets, JsonText.comma, List.length_append,
        Bool.false_eq_true, if_false, List.length_cons, List.length_nil]
      omega
    · intro fuel frames gap rest
      have hfuel : first + cost + 1 + fuel = first + (cost + fuel) + 1 := by omega
      rw [behind_append, JsonText.memberOctets, hfuel, behind]
      simp only [JsonText.comma, Bool.false_eq_true, if_false, List.append_assoc,
        List.cons_append, List.nil_append]
      rw [skipBlanks_cons (by decide)]
      simp only [if_true, memberName_octets]
      rw [hv _ _ _ _ (Parse.endsNumber_memberOctets after rest members close), hmembers]

/-- An array is passed over if its items are. -/
theorem passes_arr {items : List (Padded JsonText)} (close : Blanks)
    (h : ∀ p ∈ items, Passes p.body) : Passes (.arr items close) := by
  cases items with
  | nil =>
    refine ⟨1, by simp [JsonText.octets], ?_⟩
    intro fuel frames bs rest _
    rw [inside_append, JsonText.octets, JsonText.itemOctets, Nat.add_comm, inside,
      List.cons_append, skipBlanks_cons (by decide)]
    simp only [if_true, List.append_assoc, List.singleton_append, skipBlanks_append]
    rw [skipBlanks_cons (by decide)]
    rfl
  | cons p items =>
    obtain ⟨before, v, after⟩ := p
    obtain ⟨cost, hcost, hitems⟩ := passes_items close fun p hp =>
      h p (List.mem_cons_of_mem _ hp)
    obtain ⟨first, hfirst, hv⟩ : Passes v := h _ List.mem_cons_self
    obtain ⟨b, tail, hb, hblank, hclose, -⟩ := Parse.JsonText.exists_cons v
    refine ⟨first + cost + 1, ?_, ?_⟩
    · simp only [JsonText.octets, JsonText.itemOctets, List.length_append, List.length_cons]
      omega
    · intro fuel frames bs rest _
      have hfuel : first + cost + 1 + fuel = first + (cost + fuel) + 1 := by omega
      have hinside := hv (cost + fuel) (.array :: frames) .none _
        (Parse.endsNumber_itemOctets after rest items close)
      rw [hb, Blanks.none, List.nil_append, List.cons_append] at hinside
      rw [inside_append, JsonText.octets, JsonText.itemOctets, hfuel, inside,
        List.cons_append, skipBlanks_cons (by decide)]
      simp only [JsonText.comma, if_true, List.nil_append, List.append_assoc,
        skipBlanks_append, hb, List.cons_append]
      rw [skipBlanks_cons hblank]
      simp only [hclose, if_false]
      rw [hinside, hitems]

/-- An object is passed over if its members are. -/
theorem passes_obj {members : List (Padded StringText × Padded JsonText)} (close : Blanks)
    (h : ∀ m ∈ members, Passes m.2.body) : Passes (.obj members close) := by
  cases members with
  | nil =>
    refine ⟨1, by simp [JsonText.octets], ?_⟩
    intro fuel frames bs rest _
    rw [inside_append, JsonText.octets, JsonText.memberOctets, Nat.add_comm, inside,
      List.cons_append, skipBlanks_cons (by decide)]
    simp only [List.append_assoc, List.singleton_append, skipBlanks_append]
    rw [skipBlanks_cons (by decide)]
    rfl
  | cons m members =>
    obtain ⟨name, before, v, after⟩ := m
    obtain ⟨cost, hcost, hmembers⟩ := passes_members close fun m hm =>
      h m (List.mem_cons_of_mem _ hm)
    obtain ⟨first, hfirst, hv⟩ : Passes v := h _ List.mem_cons_self
    refine ⟨first + cost + 1, ?_, ?_⟩
    · simp only [JsonText.octets, JsonText.memberOctets, List.length_append, List.length_cons]
      omega
    · intro fuel frames bs rest _
      have hfuel : first + cost + 1 + fuel = first + (cost + fuel) + 1 := by omega
      have hname := memberName_octets ⟨.none, name.body, name.after⟩ (before.octets ++
          (v.octets ++
        (after.octets ++ (JsonText.memberOctets false members close ++ rest))))
      have hinside := hv (cost + fuel) (.object :: frames) before _
        (Parse.endsNumber_memberOctets after rest members close)
      rw [inside_append, JsonText.octets, JsonText.memberOctets, hfuel, inside,
        List.cons_append, skipBlanks_cons (by decide)]
      simp only [JsonText.nameOctets, Blanks.none, List.nil_append, List.cons_append,
        List.append_assoc] at hname
      simp only [JsonText.comma, if_true, List.nil_append, List.append_assoc,
        JsonText.nameOctets, skipBlanks_append, List.cons_append]
      rw [skipBlanks_cons (by decide)]
      simp only [hname]
      exact hinside.trans (hmembers _ _ _ _)

/-- Every text is passed over. -/
theorem passes (v : JsonText) : Passes v := by
  induction v with
  | null =>
    refine passes_of_scalar rfl (by decide) (by decide) ?_
    intro rest _
    rfl
  | bool b =>
    cases b with
    | true =>
      refine passes_of_scalar rfl (by decide) (by decide) ?_
      intro rest _
      rfl
    | false =>
      refine passes_of_scalar rfl (by decide) (by decide) ?_
      intro rest _
      rfl
  | num n =>
    obtain ⟨d, ds, hd, hdigit⟩ := Parse.Digits.exists_cons n.whole
    cases hn : n.negative with
    | true =>
      have hoctets : (JsonText.num n).octets = 0x2d :: n.unsignedOctets := by
        rw [JsonText.octets, NumberText.octets, hn]
        rfl
      refine passes_of_scalar hoctets (by decide) (by decide) ?_
      intro rest hrest
      exact number_octets n hrest
    | false =>
      have hoctets : (JsonText.num n).octets = d :: (ds ++ n.tailOctets) := by
        rw [JsonText.octets, NumberText.octets, hn, NumberText.unsignedOctets, hd]
        rfl
      have hne : ∀ b : UInt8, isDigit b = false → d ≠ b := fun b hb =>
          Parse.ne_of_isDigit hdigit hb
      refine passes_of_scalar hoctets (Parse.isBlank_of_isDigit hdigit) ⟨hne _ rfl,
        hne _ rfl⟩ ?_
      intro rest hrest
      have hnumber := number_octets n hrest
      rw [NumberText.unsignedOctets, hd] at hnumber
      simp only [scalar, hne 0x6e rfl, hne 0x74 rfl, hne 0x66 rfl, hne 0x22 rfl,
        hne 0x2d rfl, hdigit, if_false, if_true]
      exact hnumber
  | str s =>
    refine passes_of_scalar rfl (by decide) (by decide) ?_
    intro rest _
    rw [List.append_assoc]
    exact stringContent_octets s rest
  | arr items close ih => exact passes_arr close ih
  | obj members close ih => exact passes_obj close ih

/-- Every text is passed over, with the fuel that there is. -/
theorem value_octets (v : JsonText) (bs : Blanks) {rest : Bytes} (h : EndsNumber rest) :
    value (bs.octets ++ (v.octets ++ rest)) = .ok rest := by
  obtain ⟨cost, hcost, hinside⟩ := passes v
  obtain ⟨fuel, hfuel⟩ : ∃ fuel, (bs.octets ++ (v.octets ++ rest)).length + 1 = cost + fuel :=
    Nat.exists_eq_add_of_le (by simp only [List.length_append]; omega)
  rw [value, hfuel, hinside fuel [] bs rest h]
  cases fuel <;> rfl

end BalancerClient.Json.Skip
