import BalancerClient.Text.Utf8

/-!
# Octets that are no text

A lenient reader takes any octets.  Those of a character that ends too early count as one
replacement character, and so does an octet that begins no character.

## Main definitions

* `Utf8.Pending` - what is known of a character of which some octets are read.
* `Utf8.decodeLenient` - the text that octets stand for.

## Main statements

* `Utf8.decodeLenient_encode` - a text is read back.
* `Utf8.decodeLenient_of_decode?` - so is whatever the strict reader takes.
-/

namespace BalancerClient.Utf8

/-- A character of which some octets are read. -/
structure Pending where
  /-- How many octets are missing behind the next one. -/
  missing : Nat
  /-- The least that the next octet may be. -/
  least : UInt8
  /-- The greatest that the next octet may be. -/
  greatest : UInt8
  /-- The bits of the octets that are read. -/
  bits : Nat
  deriving DecidableEq

/-- The character that stands for octets that are none. -/
def replacement : Char := Char.ofNat 0xfffd

/-- The character that an octet is, or the one that it begins.  The bounds of the next octet
leave out characters that have a shorter form, halves of surrogate pairs and what is beyond
the last character. -/
def begin (b : UInt8) : List Char × Option Pending :=
  if b ≤ 0x7f then ([Char.ofNat b.toNat], none)
  else if 0xc2 ≤ b && b ≤ 0xdf then ([], some ⟨0, 0x80, 0xbf, b.toNat - 0xc0⟩)
  else if 0xe0 ≤ b && b ≤ 0xef then
    ([], some ⟨1, if b = 0xe0 then 0xa0 else 0x80, if b = 0xed then 0x9f else 0xbf,
      b.toNat - 0xe0⟩)
  else if 0xf0 ≤ b && b ≤ 0xf4 then
    ([], some ⟨2, if b = 0xf0 then 0x90 else 0x80, if b = 0xf4 then 0x8f else 0xbf,
      b.toNat - 0xf0⟩)
  else ([replacement], none)

/-- The characters that an octet completes, and the one that is pending behind it. -/
def step : Option Pending → UInt8 → List Char × Option Pending
  | none, b => begin b
  | some p, b =>
    if p.least ≤ b && b ≤ p.greatest then
      let bits := p.bits * 64 + (b.toNat - 0x80)
      match p.missing with
      | 0 => ([Char.ofNat bits], none)
      | missing + 1 => ([], some ⟨missing, 0x80, 0xbf, bits⟩)
    else (replacement :: (begin b).1, (begin b).2)

/-- The characters of octets behind those of a pending character. -/
def lenientChars : Option Pending → Bytes → List Char
  | p, [] => if p.isSome then [replacement] else []
  | p, b :: rest => (step p b).1 ++ lenientChars (step p b).2 rest

/-- The text that octets stand for. -/
def decodeLenient (bytes : Bytes) : String := String.ofList (lenientChars none bytes)

/-! ## Reading what is written -/

section Pending

variable {missing bits n : Nat} {least greatest : UInt8} (rest : Bytes)

theorem step_tail (hleast : least.toNat ≤ n % 64 + 128)
    (hgreatest : n % 64 + 128 ≤ greatest.toNat) :
    step (some ⟨missing, least, greatest, bits⟩) (UInt8.ofNat (n % 64 + 128)) =
      match missing with
      | 0 => ([Char.ofNat (bits * 64 + n % 64)], none)
      | missing + 1 => ([], some ⟨missing, 0x80, 0xbf, bits * 64 + n % 64⟩) := by
  have hvalue : (UInt8.ofNat (n % 64 + 128)).toNat = n % 64 + 128 := by
    simp only [UInt8.toNat_ofNat']
    omega
  have hbounds : (decide (least ≤ UInt8.ofNat (n % 64 + 128)) &&
      decide (UInt8.ofNat (n % 64 + 128) ≤ greatest)) = true := by
    simp only [Bool.and_eq_true, decide_eq_true_eq, UInt8.le_iff_toNat_le, hvalue]
    exact ⟨hleast, hgreatest⟩
  simp only [step, hbounds, if_true, hvalue, Nat.add_sub_cancel]

/-- The last octet of a character completes it. -/
theorem lenientChars_last (hleast : least.toNat ≤ n % 64 + 128)
    (hgreatest : n % 64 + 128 ≤ greatest.toNat) :
    lenientChars (some ⟨0, least, greatest, bits⟩) (UInt8.ofNat (n % 64 + 128) :: rest) =
      Char.ofNat (bits * 64 + n % 64) :: lenientChars none rest := by
  rw [lenientChars, step_tail hleast hgreatest]
  rfl

/-- Any octet of a character before the last adds its bits. -/
theorem lenientChars_next (hleast : least.toNat ≤ n % 64 + 128)
    (hgreatest : n % 64 + 128 ≤ greatest.toNat) :
    lenientChars (some ⟨missing + 1, least, greatest, bits⟩) (UInt8.ofNat (n % 64 + 128) ::
      rest) = lenientChars (some ⟨missing, 0x80, 0xbf, bits * 64 + n % 64⟩) rest := by
  rw [lenientChars, step_tail hleast hgreatest]
  rfl

theorem lenientChars_begin {b : UInt8} {p : Pending} (h : begin b = ([], some p)) :
    lenientChars none (b :: rest) = lenientChars (some p) rest := by
  rw [lenientChars, step, h]
  rfl

end Pending

theorem le_tail (n : Nat) : UInt8.toNat 0x80 ≤ n % 64 + 128 := Nat.le_add_left 128 _

theorem tail_le (n : Nat) : n % 64 + 128 ≤ UInt8.toNat 0xbf := by
  change n % 64 + 128 ≤ 191
  omega

theorem begin_one {n : Nat} (h : n ≤ 0x7f) :
    begin (UInt8.ofNat n) = ([Char.ofNat n], none) := by
  have hall : ∀ n ≤ 0x7f, begin (UInt8.ofNat n) = ([Char.ofNat n], none) := by decide +kernel
  exact hall n h

theorem begin_two {n : Nat} (hleast : 2 ≤ n) (h : n < 32) :
    begin (UInt8.ofNat (n + 192)) = ([], some ⟨0, 0x80, 0xbf, n⟩) := by
  have hall : ∀ n < 32, 2 ≤ n → begin (UInt8.ofNat (n + 192)) =
      ([], some ⟨0, 0x80, 0xbf, n⟩) := by decide
  exact hall n h hleast

theorem begin_three {n : Nat} (h : n < 16) :
    begin (UInt8.ofNat (n + 224)) =
      ([], some ⟨1, if n = 0 then 0xa0 else 0x80, if n = 13 then 0x9f else 0xbf, n⟩) := by
  have hall : ∀ n < 16, begin (UInt8.ofNat (n + 224)) =
      ([], some ⟨1, if n = 0 then 0xa0 else 0x80, if n = 13 then 0x9f else 0xbf, n⟩) :=
        by decide
  exact hall n h

theorem begin_four {n : Nat} (h : n < 5) :
    begin (UInt8.ofNat (n + 240)) =
      ([], some ⟨2, if n = 0 then 0x90 else 0x80, if n = 4 then 0x8f else 0xbf, n⟩) := by
  have hall : ∀ n < 5, begin (UInt8.ofNat (n + 240)) =
      ([], some ⟨2, if n = 0 then 0x90 else 0x80, if n = 4 then 0x8f else 0xbf, n⟩) :=
        by decide
  exact hall n h

/-- A character is read back, with whatever behind it. -/
theorem lenientChars_utf8EncodeChar (c : Char) (rest : Bytes) :
    lenientChars none (String.utf8EncodeChar c ++ rest) = c :: lenientChars none rest := by
  have hvalid : c.toNat < 0xd800 ∨ 0xdfff < c.toNat ∧ c.toNat < 0x110000 := c.valid
  have hchar : Char.ofNat c.toNat = c := Char.ofNat_toNat c
  have hval : c.val.toNat = c.toNat := rfl
  simp only [String.utf8EncodeChar, hval]
  generalize c.toNat = n at hvalid hchar
  split
  · next hone =>
    rw [List.cons_append, List.nil_append, lenientChars, step, begin_one hone, hchar]
    rfl
  · split
    · next htwo =>
      have hlead : n / 64 % 32 = n / 64 := by omega
      have hbits : n / 64 * 64 + n % 64 = n := by omega
      simp only [List.cons_append, List.nil_append, hlead]
      rw [lenientChars_begin _ (begin_two (by omega) (by omega)),
        lenientChars_last rest (le_tail n) (tail_le n),
        hbits, hchar]
    · split
      · next hthree =>
        have hlead : n / 4096 % 16 = n / 4096 := by omega
        have hbits : (n / 4096 * 64 + n / 64 % 64) * 64 + n % 64 = n := by omega
        -- a character of two octets would begin below the bound, half a pair would stand
        -- above it
        have hleast : UInt8.toNat (if n / 4096 = 0 then 0xa0 else 0x80) ≤
            n / 64 % 64 + 128 := by
          split
          · change 160 ≤ n / 64 % 64 + 128
            omega
          · exact le_tail (n / 64)
        have hgreatest : n / 64 % 64 + 128 ≤
            UInt8.toNat (if n / 4096 = 13 then 0x9f else 0xbf) := by
          split
          · change n / 64 % 64 + 128 ≤ 159
            omega
          · exact tail_le (n / 64)
        simp only [List.cons_append, List.nil_append, hlead]
        rw [lenientChars_begin _ (begin_three (by omega)),
          lenientChars_next _ hleast hgreatest,
          lenientChars_last rest (le_tail n) (tail_le n), hbits, hchar]
      · have hlead : n / 262144 % 8 = n / 262144 := by omega
        have hbits : ((n / 262144 * 64 + n / 4096 % 64) * 64 + n / 64 % 64) * 64 + n % 64 =
            n := by omega
        -- a character of three octets would begin below the bound, the last one of all ends
        -- at it
        have hleast : UInt8.toNat (if n / 262144 = 0 then 0x90 else 0x80) ≤
            n / 4096 % 64 + 128 := by
          split
          · change 144 ≤ n / 4096 % 64 + 128
            omega
          · exact le_tail (n / 4096)
        have hgreatest : n / 4096 % 64 + 128 ≤
            UInt8.toNat (if n / 262144 = 4 then 0x8f else 0xbf) := by
          split
          · change n / 4096 % 64 + 128 ≤ 143
            omega
          · exact tail_le (n / 4096)
        simp only [List.cons_append, List.nil_append, hlead]
        rw [lenientChars_begin _ (begin_four (by omega)),
          lenientChars_next _ hleast hgreatest,
          lenientChars_next _ (le_tail (n / 64)) (tail_le (n / 64)),
          lenientChars_last rest (le_tail n) (tail_le n),
          hbits, hchar]

/-- A text is read back. -/
theorem decodeLenient_encode (s : String) : decodeLenient (encode s) = s := by
  have hchars : ∀ cs : List Char, lenientChars none (cs.flatMap String.utf8EncodeChar) =
      cs := by
    intro cs
    induction cs with
    | nil => rfl
    | cons c cs ih => rw [List.flatMap_cons, lenientChars_utf8EncodeChar, ih]
  rw [decodeLenient, ← String.ofList_toList (s := s), encode_ofList, hchars]

/-- What stands for a text is read as that text. -/
theorem decodeLenient_of_decode? {bytes : Bytes} {s : String} (h : decode? bytes = some s) :
    decodeLenient bytes = s := by
  have hbytes : encode s = bytes := by
    rw [decode?, String.fromUTF8?] at h
    split at h
    · cases h
      simp [encode, String.fromUTF8]
    · cases h
  rw [← hbytes, decodeLenient_encode]

end BalancerClient.Utf8
