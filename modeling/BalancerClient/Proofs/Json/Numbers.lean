import BalancerClient.Proofs.Json.Strings

/-!
# Reading the integers that are written

An integer of 64 bits is written in decimal digits and read back as the same integer, provided
that what follows it does not go on as a number.

## Main statements

* `Json.Parse.digits_append`, `Json.Parse.accumulate_digits` - what the two loops of the
  reader do.
* `Json.Parse.number_toDigits` - a natural number that is written is read back.
-/

namespace BalancerClient

/-! ## Decimal digits -/

theorem digitChar_ne_zero {n : Nat} (h : 0 < n) (hn : n < 10) : Nat.digitChar n ≠ '0' := by
  interval_cases n <;> decide

/-- No number but zero is written with a zero in front. -/
theorem head?_toDigits_ne_zero {n : Nat} (h : 0 < n) :
    (Nat.toDigits 10 n).head? ≠ some '0' := by
  induction n using Nat.strong_induction_on with
  | _ n ih =>
    by_cases hn : n < 10
    · rw [Nat.toDigits_of_lt_base hn]
      simpa using digitChar_ne_zero h hn
    · have hfront : (Nat.toDigits 10 (n / 10)).head? ≠ some '0' :=
        ih (n / 10) (by omega) (by omega)
      rw [Nat.toDigits_of_base_le (by decide) (by omega)]
      cases hcs : Nat.toDigits 10 (n / 10) with
      | nil => exact absurd hcs Nat.toDigits_ne_nil
      | cons c cs => simpa [hcs] using hfront

/-- The digits of a number are digits, and there is at least one. -/
theorem exists_toDigits (n : Nat) :
    ∃ c cs, Nat.toDigits 10 n = c :: cs ∧ ∀ d ∈ c :: cs, d.isDigit = true := by
  cases hcs : Nat.toDigits 10 n with
  | nil => exact absurd hcs Nat.toDigits_ne_nil
  | cons c cs =>
    refine ⟨c, cs, rfl, ?_⟩
    intro d hd
    exact Nat.isDigit_of_mem_toDigits (b := 10) (n := n) (by decide) (by decide) (hcs ▸ hd)

/-- Different numbers have different digits. -/
theorem toDigits_injective {m n : Nat} (h : Nat.toDigits 10 m = Nat.toDigits 10 n) :
    m = n := by
  have := congrArg (fun digits => Nat.ofDigitChars 10 digits 0) h
  simpa using this

theorem toNat_lt_of_isDigit {c : Char} (h : c.isDigit = true) : 48 ≤ c.toNat ∧ c.toNat ≤ 57 :=
  Char.isDigit_iff_toNat.1 h

namespace Json.Parse

open Utf8 (octets)

/-- What may stand behind a number: nothing that the number could go on with. -/
def EndsNumber (rest : Bytes) : Prop :=
  ∀ b ∈ rest.head?, isDigit b = false ∧ b ≠ 0x2e ∧ b ≠ 0x65 ∧ b ≠ 0x45

/-- The octet of a digit. -/
theorem octet_of_isDigit {c : Char} (h : c.isDigit = true) :
    String.utf8EncodeChar c = [UInt8.ofNat c.toNat] ∧ isDigit (UInt8.ofNat c.toNat) = true ∧
      digitValue (UInt8.ofNat c.toNat) = c.toNat - '0'.toNat := by
  obtain ⟨hlow, hhigh⟩ := toNat_lt_of_isDigit h
  have hnat : (UInt8.ofNat c.toNat).toNat = c.toNat := by
    simp only [UInt8.toNat_ofNat']
    omega
  refine ⟨Utf8.utf8EncodeChar_of_lt (by omega), ?_, ?_⟩
  · simp only [isDigit, Bool.and_eq_true, decide_eq_true_eq, UInt8.le_iff_toNat_le, hnat]
    exact ⟨hlow, hhigh⟩
  · rw [digitValue, hnat]
    rfl

theorem ne_of_isDigit {b d : UInt8} (hb : isDigit b = true) (hd : isDigit d = false) :
    b ≠ d := by
  intro he
  rw [he, hd] at hb
  cases hb

theorem isBlank_of_isDigit {b : UInt8} (h : isDigit b = true) : isBlank b = false := by
  simp [isBlank, ne_of_isDigit h (d := 0x20) rfl, ne_of_isDigit h (d := 0x0a) rfl,
    ne_of_isDigit h (d := 0x0d) rfl, ne_of_isDigit h (d := 0x09) rfl]

/-- The digits in front are taken, and nothing else. -/
theorem digits_append {ds rest : Bytes} (h : ∀ b ∈ ds, isDigit b = true)
    (hr : ∀ b ∈ rest.head?, isDigit b = false) : digits (ds ++ rest) = (ds, rest) := by
  induction ds with
  | nil =>
    cases rest with
    | nil => rfl
    | cons b rest => simp [digits, hr b rfl]
  | cons d ds ih =>
    have hd : isDigit d = true := h d List.mem_cons_self
    have hds : digits (ds ++ rest) = (ds, rest) := ih fun b hb =>
        h b (List.mem_cons_of_mem d hb)
    simp [digits, hd, hds]

/-- The octets of digits are digits. -/
theorem isDigit_of_mem_octets {cs : List Char} (h : ∀ c ∈ cs, c.isDigit = true) :
    ∀ b ∈ octets cs, isDigit b = true := by
  intro b hb
  obtain ⟨c, hc, hmem⟩ := List.mem_flatMap.1 hb
  obtain ⟨ho, hd, -⟩ := octet_of_isDigit (h c hc)
  rw [ho, List.mem_singleton] at hmem
  rw [hmem, hd]

/-- Digits are added up as long as their number is one of 64 bits. -/
theorem accumulate_digits :
    ∀ {cs : List Char} {start : Nat}, (∀ c ∈ cs, c.isDigit = true) →
      Nat.ofDigitChars 10 cs start ≤ maxSignificand →
      accumulate start (octets cs) = (Nat.ofDigitChars 10 cs start, 0)
  | [], start, _, _ => by simp [accumulate]
  | c :: cs, start, h, hmax => by
    obtain ⟨ho, -, hv⟩ := octet_of_isDigit (h c List.mem_cons_self)
    rw [Nat.ofDigitChars_cons] at hmax ⊢
    have hle : 10 * start + (c.toNat - '0'.toNat) ≤ maxSignificand := by
      rw [Nat.ofDigitChars_eq_ofDigitChars_zero] at hmax
      have hone : 1 ≤ 10 ^ cs.length := Nat.one_le_pow _ _ (by decide)
      have := Nat.le_mul_of_pos_left (10 * start + (c.toNat - '0'.toNat)) hone
      omega
    have ih := accumulate_digits (fun d hd => h d (List.mem_cons_of_mem _ hd)) hmax
    rw [Utf8.octets_cons, ho, List.singleton_append, accumulate]
    simp only [hv]
    rw [Nat.mul_comm start 10, if_pos hle, ih]

/-- A natural number that is written is read up to the sign, whatever follows. -/
theorem number_toDigits (negative : Bool) {n : Nat} (hn : n ≤ maxSignificand) {rest : Bytes}
    (hr : EndsNumber rest) :
    number negative (octets (Nat.toDigits 10 n) ++ rest) =
      (integral negative n 0).map (·, rest) := by
  obtain ⟨c, cs, hcs, hdigit⟩ := exists_toDigits n
  have hdigits := digits_append (isDigit_of_mem_octets hdigit) fun b hb => (hr b hb).1
  have hsum : accumulate 0 (octets (c :: cs)) = (n, 0) := by
    have hvalue : Nat.ofDigitChars 10 (c :: cs) 0 = n := by
      rw [← hcs, Nat.ofDigitChars_ten_toDigits]
    rw [accumulate_digits hdigit (by rwa [hvalue]), hvalue]
  obtain ⟨ho, -, hv⟩ := octet_of_isDigit (hdigit c List.mem_cons_self)
  rw [Utf8.octets_cons, ho, List.singleton_append] at hdigits hsum
  -- a zero in front stands alone
  have hzero : (UInt8.ofNat c.toNat = 0x30 && !(octets cs).isEmpty) = false := by
    rcases Nat.eq_zero_or_pos n with rfl | hpos
    · have : c :: cs = ['0'] := hcs.symm.trans (Nat.toDigits_zero 10)
      simp [(List.cons.inj this).2]
    · have hc : c ≠ '0' := by
        intro hc
        subst hc
        exact head?_toDigits_ne_zero hpos (by rw [hcs]; rfl)
      have hoctet : UInt8.ofNat c.toNat ≠ 0x30 := by
        intro he
        have hrange := toNat_lt_of_isDigit (hdigit c List.mem_cons_self)
        have h48 : '0'.toNat = 48 := rfl
        have hvalue : c.toNat - '0'.toNat = 0 := by
          rw [← hv, he]
          rfl
        exact hc (Char.toNat_inj.1 (by omega))
      simp [hoctet]
  rw [hcs, Utf8.octets_cons, ho, List.singleton_append, number, hdigits]
  simp only [hzero, hsum]
  cases rest with
  | nil => simp
  | cons b after =>
    obtain ⟨-, hpoint, hsmall, hlarge⟩ := hr b rfl
    simp [hpoint, hsmall, hlarge]

end Json.Parse

end BalancerClient
