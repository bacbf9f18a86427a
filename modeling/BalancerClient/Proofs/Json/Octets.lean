import BalancerClient.Proofs.Json.Reading

/-!
# Texts in UTF-8

Nothing in a text but the content of its strings has octets beyond those of ASCII, so a text
in UTF-8 can be taken apart at its tokens: every string in it is in UTF-8 by itself, and so is
what its escapes stand for.  Hence a text in UTF-8 stands for a value unless a half of a
surrogate pair stands alone or a number is too large.

## Main definitions

* `Utf8.IsText` - octets in UTF-8.

## Main statements

* `Utf8.IsText.split` - a text may be taken apart at an octet of ASCII.
* `StringText.isSome_text?` - a string in UTF-8 stands for characters.
* `JsonText.isSome_value?` - a text in UTF-8 stands for a value.
-/

namespace BalancerClient

namespace Utf8

/-- Octets in UTF-8. -/
def IsText (bytes : Bytes) : Prop := ∃ cs : List Char, bytes = octets cs

theorem isText_nil : IsText [] := ⟨[], rfl⟩

theorem IsText.append {front back : Bytes} (hf : IsText front) (hb : IsText back) :
    IsText (front ++ back) := by
  obtain ⟨cs, rfl⟩ := hf
  obtain ⟨ds, rfl⟩ := hb
  exact ⟨cs ++ ds, (octets_append cs ds).symm⟩

/-- What can be decoded is in UTF-8. -/
theorem isSome_decode?_iff (bytes : Bytes) : (decode? bytes).isSome ↔ IsText bytes := by
  constructor
  · intro h
    obtain ⟨s, hs⟩ := Option.isSome_iff_exists.1 h
    refine ⟨s.toList, ?_⟩
    rw [← encode_eq_octets]
    rw [decode?, String.fromUTF8?] at hs
    split at hs
    · cases hs
      simp [encode, String.fromUTF8]
    · cases hs
  · rintro ⟨cs, rfl⟩
    rw [octets, ← encode_ofList, decode?_encode]
    rfl

/-- A text may be taken apart at an octet of ASCII. -/
theorem IsText.split {front back : Bytes} {b : UInt8} (hb : b.toNat < 128)
    (h : IsText (front ++ b :: back)) : IsText front ∧ IsText back := by
  obtain ⟨cs, hcs⟩ := h
  induction cs generalizing front with
  | nil => exact absurd hcs (by simp)
  | cons c cs ih =>
    rw [octets_cons] at hcs
    rcases List.append_eq_append_iff.1 hcs with ⟨tail, hc, hrest⟩ | ⟨tail, hf, hrest⟩
    · cases tail with
      | nil =>
        rw [List.append_nil] at hc
        have hback : octets cs = [] ++ b :: back := hrest.symm
        exact ⟨⟨[c], by rw [← hc, octets_cons, octets_nil, List.append_nil]⟩,
          (ih hback.symm).2⟩
      | cons d tail =>
        obtain ⟨rfl, rfl⟩ := List.cons.inj hrest
        have hsmall : c.toNat < 128 := by
          by_contra hlarge
          have := le_of_mem_utf8EncodeChar (Nat.le_of_not_lt hlarge) b (by simp [hc])
          omega
        rw [utf8EncodeChar_of_lt hsmall] at hc
        obtain ⟨rfl, rfl⟩ : front = [] ∧ tail = [] := by
          have hlength := congrArg List.length hc
          simp only [List.length_append, List.length_cons, List.length_nil] at hlength
          exact ⟨List.length_eq_zero_iff.1 (by omega), List.length_eq_zero_iff.1 (by omega)⟩
        exact ⟨isText_nil, cs, rfl⟩
    · obtain ⟨⟨ds, rfl⟩, hback⟩ := ih hrest.symm
      exact ⟨⟨c :: ds, hf⟩, hback⟩

/-- An octet of ASCII in front of a text may be taken away. -/
theorem IsText.of_cons {b : UInt8} {back : Bytes} (hb : b.toNat < 128)
    (h : IsText (b :: back)) : IsText back :=
  (@IsText.split [] back b hb h).2

/-- An octet of ASCII is in UTF-8 by itself. -/
theorem isText_singleton {b : UInt8} (hb : b.toNat < 128) : IsText [b] := by
  have hvalid : b.toUInt32.isValidChar := .inl (by simp; omega)
  refine ⟨[⟨b.toUInt32, hvalid⟩], ?_⟩
  have hlt : (⟨b.toUInt32, hvalid⟩ : Char).toNat < 128 := by simpa [Char.toNat] using hb
  rw [octets_cons, utf8EncodeChar_of_lt hlt]
  simp [Char.toNat]

/-- Octets of ASCII. -/
def IsAscii (bytes : Bytes) : Prop := ∀ b ∈ bytes, b.toNat < 128

/-- Octets of ASCII in front of a text may be taken away. -/
theorem IsText.of_append {front back : Bytes} (hf : IsAscii front)
    (h : IsText (front ++ back)) : IsText back := by
  induction front with
  | nil => exact h
  | cons b front ih =>
    have hrest : IsText (front ++ back) := IsText.of_cons (hf b List.mem_cons_self) h
    exact ih (fun d hd => hf d (List.mem_cons_of_mem b hd)) hrest

/-- A text may be taken apart at octets of ASCII. -/
theorem IsText.split_append {front gap back : Bytes} {b : UInt8} (hgap : IsAscii (b :: gap))
    (h : IsText (front ++ b :: (gap ++ back))) : IsText front ∧ IsText back := by
  obtain ⟨hfront, hrest⟩ := h.split (hgap b List.mem_cons_self)
  exact ⟨hfront, hrest.of_append fun d hd => hgap d (List.mem_cons_of_mem b hd)⟩

/-- Octets that are empty or begin with one of ASCII. -/
def BeginsAscii (bytes : Bytes) : Prop := ∀ b ∈ bytes.head?, b.toNat < 128

theorem BeginsAscii.append {front back : Bytes} (hf : IsAscii front) (hb : BeginsAscii back) :
    BeginsAscii (front ++ back) := by
  cases front with
  | nil => exact hb
  | cons b front =>
    intro d hd
    obtain rfl : b = d := Option.some.inj hd
    exact hf b List.mem_cons_self

/-- A text may be taken apart in front of an octet of ASCII. -/
theorem IsText.of_beginsAscii {front back : Bytes} (hb : BeginsAscii back)
    (h : IsText (front ++ back)) : IsText front ∧ IsText back := by
  cases back with
  | nil => exact ⟨by rwa [List.append_nil] at h, isText_nil⟩
  | cons b back =>
    obtain ⟨hfront, hrest⟩ := h.split (hb b rfl)
    exact ⟨hfront, (isText_singleton (hb b rfl)).append hrest⟩

end Utf8

open Utf8 (IsText IsAscii BeginsAscii)
open Json.Parse (hexValue? hexUnit? simpleEscape? codePoint isLowSurrogate isHighSurrogate)

/-! ## Strings -/

/-- An escape by letter is in ASCII, and so is what it stands for. -/
theorem Json.Parse.lt_of_simpleEscape? {e octet : UInt8} (h : simpleEscape? e = some octet) :
    e.toNat < 128 ∧ octet.toNat < 128 := by
  rw [simpleEscape?] at h
  repeat' split at h
  all_goals cases h <;> subst_vars <;> decide

/-- A hexadecimal digit is in ASCII. -/
theorem Json.Parse.lt_of_hexValue? {b : UInt8} {n : Nat} (h : hexValue? b = some n) :
    b.toNat < 128 := by
  have hbound : ∀ d : UInt8, d.toNat < 128 → b ≤ d → b.toNat < 128 := fun d hd hb =>
    Nat.lt_of_le_of_lt (UInt8.le_iff_toNat_le.1 hb) hd
  simp only [hexValue?, Bool.and_eq_true, decide_eq_true_eq] at h
  split at h
  · next hdigit => exact hbound _ (by decide) hdigit.2
  · split at h
    · next hcapital => exact hbound _ (by decide) hcapital.2
    · split at h
      · next hsmall => exact hbound _ (by decide) hsmall.2
      · cases h

/-- An escape by number is in ASCII. -/
theorem Json.Parse.isAscii_hexUnit {h₁ h₂ h₃ h₄ : UInt8} {n : Nat}
    (h : hexUnit? h₁ h₂ h₃ h₄ = some n) : IsAscii [0x5c, 0x75, h₁, h₂, h₃, h₄] := by
  simp only [hexUnit?, Option.bind_eq_bind, Option.bind_eq_some_iff] at h
  obtain ⟨n₁, ha, n₂, hb, n₃, hc, n₄, hd, -⟩ := h
  simp only [IsAscii, List.forall_mem_cons]
  exact ⟨by decide, by decide, lt_of_hexValue? ha, lt_of_hexValue? hb, lt_of_hexValue? hc,
    lt_of_hexValue? hd, List.forall_mem_nil _⟩

theorem Json.Parse.isText_codePoint (n : Nat) : IsText (codePoint n) :=
  ⟨[Char.ofNat n], (List.append_nil _).symm⟩

/-- What a string stands for is in UTF-8 if the string is, with whatever octets in front of
it. -/
theorem StringText.isText_content {s : StringText} {content : Bytes}
    (hc : s.content? = some content) (front : Bytes) (h : IsText (front ++ s.octets)) :
    IsText (front ++ content) := by
  fun_induction StringText.content? s generalizing front content with
  | case1 =>
    cases hc
    exact h
  | case2 b plain s ih =>
    obtain ⟨content, hs, rfl⟩ := Option.map_eq_some_iff.1 hc
    rw [Json.Parse.octets_cons, ← List.append_assoc] at h
    simpa [StringPiece.octets] using ih hs _ h
  | case3 e octet escape s ih =>
    obtain ⟨content, hs, rfl⟩ := Option.map_eq_some_iff.1 hc
    obtain ⟨hletter, hoctet⟩ := Json.Parse.lt_of_simpleEscape? escape
    have hascii : IsAscii [0x5c, e] := by simp [IsAscii, hletter]
    obtain ⟨hfront, hrest⟩ := h.split_append hascii
    exact hfront.append ((Utf8.isText_singleton hoctet).append (ih hs [] hrest))
  | case5 h₁ h₂ h₃ h₄ n digits hlow hhigh l₁ l₂ l₃ l₄ low second s hpair ih =>
    obtain ⟨content, hs, rfl⟩ := Option.map_eq_some_iff.1 hc
    obtain ⟨hfront, hrest⟩ := h.split_append (Json.Parse.isAscii_hexUnit digits)
    have hrest := hrest.of_append (Json.Parse.isAscii_hexUnit second)
    exact hfront.append ((Json.Parse.isText_codePoint _).append (ih hs [] hrest))
  | case8 h₁ h₂ h₃ h₄ n digits s hlow hhigh ih =>
    obtain ⟨content, hs, rfl⟩ := Option.map_eq_some_iff.1 hc
    obtain ⟨hfront, hrest⟩ := h.split_append (Json.Parse.isAscii_hexUnit digits)
    exact hfront.append ((Json.Parse.isText_codePoint _).append (ih hs [] hrest))
  | case4 | case6 | case7 => cases hc

/-- A string in UTF-8 stands for characters, unless a half of a surrogate pair stands
alone. -/
theorem StringText.isSome_text? {s : StringText} (hs : s.IsPaired) (h : IsText s.octets) :
    s.text?.isSome := by
  obtain ⟨content, hc⟩ := Option.isSome_iff_exists.1 hs
  rw [StringText.text?, hc, Option.bind_some, Utf8.isSome_decode?_iff]
  exact isText_content hc [] h

/-! ## Values -/

theorem Blanks.isAscii (bs : Blanks) : IsAscii bs.octets := by
  intro b hb
  have hblank := bs.isBlank b hb
  simp only [Json.Parse.isBlank, Bool.or_eq_true, beq_iff_eq] at hblank
  rcases hblank with ((rfl | rfl) | rfl) | rfl <;> decide

theorem Utf8.IsAscii.append {front back : Bytes} (hf : IsAscii front) (hb : IsAscii back) :
    IsAscii (front ++ back) := List.forall_mem_append.2 ⟨hf, hb⟩

namespace JsonText

theorem beginsAscii_itemOctets (gap : Blanks) (items : List (Padded JsonText))
    (close : Blanks) : BeginsAscii (gap.octets ++ itemOctets false items close) := by
  refine .append gap.isAscii ?_
  cases items with
  | nil => exact .append close.isAscii (by simp [BeginsAscii])
  | cons p items => simp [BeginsAscii, itemOctets, comma]

theorem beginsAscii_memberOctets (gap : Blanks)
    (members : List (Padded StringText × Padded JsonText))
    (close : Blanks) : BeginsAscii (gap.octets ++ memberOctets false members close) := by
  refine .append gap.isAscii ?_
  cases members with
  | nil => exact .append close.isAscii (by simp [BeginsAscii])
  | cons p members => simp [BeginsAscii, memberOctets, comma]

theorem isAscii_comma (first : Bool) : IsAscii (comma first) := by
  cases first <;> simp [IsAscii, comma]

/-- The items of an array in UTF-8 are in UTF-8. -/
theorem isText_items {items : List (Padded JsonText)} {close : Blanks} {first : Bool}
    (h : IsText (itemOctets first items close)) : ∀ p ∈ items, IsText p.body.octets := by
  induction items generalizing first with
  | nil => simp
  | cons p items ih =>
    obtain ⟨before, v, after⟩ := p
    simp only [itemOctets, List.append_assoc] at h
    have hrest := (h.of_append (isAscii_comma first)).of_append before.isAscii
    obtain ⟨hv, hrest⟩ := hrest.of_beginsAscii (beginsAscii_itemOctets after items close)
    exact List.forall_mem_cons.2 ⟨hv, ih (hrest.of_append after.isAscii)⟩

/-- The names and the values of an object in UTF-8 are in UTF-8. -/
theorem isText_members {members : List (Padded StringText × Padded JsonText)} {close : Blanks}
    {first : Bool} (h : IsText (memberOctets first members close)) :
    ∀ m ∈ members, IsText m.1.body.octets ∧ IsText m.2.body.octets := by
  induction members generalizing first with
  | nil => simp
  | cons m members ih =>
    obtain ⟨name, before, v, after⟩ := m
    simp only [memberOctets, nameOctets, List.append_assoc, List.cons_append] at h
    have hquote := (h.of_append (isAscii_comma first)).of_append name.before.isAscii
    have hname := hquote.of_cons (by decide)
    obtain ⟨hname, hcolon⟩ := hname.split (by decide)
    have hvalue := (hcolon.of_append name.after.isAscii).of_cons (by decide)
    have hrest := hvalue.of_append before.isAscii
    obtain ⟨hv, hrest⟩ := hrest.of_beginsAscii (beginsAscii_memberOctets after members close)
    exact List.forall_mem_cons.2 ⟨⟨hname, hv⟩, ih (hrest.of_append after.isAscii)⟩

/-- The strings in a list of items are those in its items. -/
theorem mem_itemStrings {s : StringText} {items : List (Padded JsonText)} :
    s ∈ itemStrings items ↔ ∃ p ∈ items, s ∈ p.body.strings := by
  induction items with
  | nil => simp [itemStrings]
  | cons p items ih => simp [itemStrings, ih]

/-- The strings in a list of members are the names and those in the values. -/
theorem mem_memberStrings {s : StringText}
    {members : List (Padded StringText × Padded JsonText)} :
    s ∈ memberStrings members ↔ ∃ m ∈ members, s = m.1.body ∨ s ∈ m.2.body.strings := by
  induction members with
  | nil => simp [memberStrings]
  | cons m members ih => simp [memberStrings, ih, or_assoc]

theorem mem_itemNumbers {n : NumberText} {items : List (Padded JsonText)} :
    n ∈ itemNumbers items ↔ ∃ p ∈ items, n ∈ p.body.numbers := by
  induction items with
  | nil => simp [itemNumbers]
  | cons p items ih => simp [itemNumbers, ih]

theorem mem_memberNumbers {n : NumberText}
    {members : List (Padded StringText × Padded JsonText)} :
    n ∈ memberNumbers members ↔ ∃ m ∈ members, n ∈ m.2.body.numbers := by
  induction members with
  | nil => simp [memberNumbers]
  | cons m members ih => simp [memberNumbers, ih]

/-- A list of items stands for values if every item does. -/
theorem isSome_values? {items : List (Padded JsonText)}
    (h : ∀ p ∈ items, p.body.value?.isSome) : (values? items).isSome := by
  induction items with
  | nil => rfl
  | cons p items ih =>
    obtain ⟨v, hv⟩ := Option.isSome_iff_exists.1 (h p List.mem_cons_self)
    obtain ⟨vs, hvs⟩ :=
      Option.isSome_iff_exists.1 (ih fun q hq => h q (List.mem_cons_of_mem p hq))
    simp [values?, hv, hvs]

/-- A list of members stands for an object if every name and every value can be read. -/
theorem isSome_membersFrom? {members : List (Padded StringText × Padded JsonText)}
    {seen : List (String × Json)}
    (h : ∀ m ∈ members, m.1.body.text?.isSome ∧ m.2.body.value?.isSome) :
    (membersFrom? seen members).isSome := by
  induction members generalizing seen with
  | nil => rfl
  | cons m members ih =>
    obtain ⟨hname, hvalue⟩ := h m List.mem_cons_self
    obtain ⟨name, hn⟩ := Option.isSome_iff_exists.1 hname
    obtain ⟨v, hv⟩ := Option.isSome_iff_exists.1 hvalue
    have hrest : (membersFrom? (putMember name v seen) members).isSome :=
      ih fun p hp => h p (List.mem_cons_of_mem m hp)
    simpa [membersFrom?, hn, hv] using hrest

/-- A text in UTF-8 stands for a value, unless a half of a surrogate pair stands alone or a
number is too large. -/
theorem isSome_value? {v : JsonText} (h : IsText v.octets) (hs : ∀ s ∈ v.strings, s.IsPaired)
    (hn : ∀ n ∈ v.numbers, n.value?.isSome) : v.value?.isSome := by
  induction v with
  | null => rfl
  | bool b => rfl
  | num n => simpa [value?] using hn n (by simp [numbers])
  | str s =>
    have hcontent : IsText s.octets := ((h.of_cons (by decide)).split (by decide)).1
    simpa [value?] using StringText.isSome_text? (hs s (by simp [strings])) hcontent
  | arr items close ih =>
    have hitems := isText_items (h.of_cons (by decide))
    rw [value?, Option.isSome_map]
    apply isSome_values?
    intro p hp
    exact ih p hp (hitems p hp) (fun s hmem => hs s (mem_itemStrings.2 ⟨p, hp, hmem⟩))
      fun n hmem => hn n (mem_itemNumbers.2 ⟨p, hp, hmem⟩)
  | obj members close ih =>
    have hmembers := isText_members (h.of_cons (by decide))
    rw [value?, Option.isSome_map]
    apply isSome_membersFrom?
    intro m hm
    obtain ⟨hname, hvalue⟩ := hmembers m hm
    exact ⟨StringText.isSome_text? (hs _ (mem_memberStrings.2 ⟨m, hm, .inl rfl⟩)) hname,
      ih m hm hvalue (fun s hmem => hs s (mem_memberStrings.2 ⟨m, hm, .inr hmem⟩))
        fun n hmem => hn n (mem_memberNumbers.2 ⟨m, hm, hmem⟩)⟩

end JsonText

/-- The names and the values of an object in UTF-8 are in UTF-8. -/
theorem ObjectText.isText_members {t : ObjectText} (h : IsText t.octets) :
    ∀ m ∈ t.members, IsText m.1.body.octets ∧ IsText m.2.body.octets := by
  rw [ObjectText.octets, List.append_assoc] at h
  have hafter : BeginsAscii t.after.octets := fun b hb =>
      t.after.isAscii b (List.mem_of_mem_head? hb)
  have hmembers : IsText (JsonText.memberOctets true t.members t.close ++ t.after.octets) :=
    (h.of_append t.before.isAscii).of_cons (by decide)
  exact JsonText.isText_members (hmembers.of_beginsAscii hafter).1

end BalancerClient
