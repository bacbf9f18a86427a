import BalancerClient.Text.Hex

/-!
# Percent-encoding

An octet that may not stand for itself is written as a percent sign and two digits.  Reading
takes every percent sign that two digits follow as such an octet, and everything else as it
stands.

## Main definitions

* `percentOctet` - an octet in this form.
* `percentDecode` - the octets of a text in which some have this form.
-/

namespace BalancerClient

/-- An octet as a percent sign and two digits. -/
def percentOctet (b : UInt8) : List Char :=
  ['%', Hex.upperDigit (b.toNat / 16), Hex.upperDigit (b.toNat % 16)]

/-- The octets of a text in which some are written in this form. -/
def percentDecode : List Char → Bytes
  | [] => []
  | '%' :: high :: low :: rest =>
    match Hex.octet? high low with
    | some b => b :: percentDecode rest
    | none => 0x25 :: percentDecode (high :: low :: rest)
  | c :: rest => String.utf8EncodeChar c ++ percentDecode rest

theorem percentDecode_cons {c : Char} (h : c ≠ '%') (rest : List Char) :
    percentDecode (c :: rest) = String.utf8EncodeChar c ++ percentDecode rest := by
  conv => lhs; unfold percentDecode
  split
  · simp_all
  · simp_all
  · simp_all

/-- A text without percent signs stands for its own octets. -/
theorem percentDecode_of_forall :
    ∀ {cs : List Char}, (∀ c ∈ cs, c ≠ '%') → percentDecode cs =
      cs.flatMap String.utf8EncodeChar
  | [], _ => rfl
  | c :: rest, h => by
    have hr : percentDecode rest = rest.flatMap String.utf8EncodeChar :=
      percentDecode_of_forall fun d hd => h d (by simp [hd])
    rw [percentDecode_cons (h c (by simp)), hr, List.flatMap_cons]

/-- An octet in this form is read back. -/
theorem percentDecode_percentOctet (b : UInt8) (rest : List Char) :
    percentDecode (percentOctet b ++ rest) = b :: percentDecode rest := by
  have hb := b.toNat_lt
  have ho : Hex.octet? (Hex.upperDigit (b.toNat / 16)) (Hex.upperDigit (b.toNat % 16)) =
      some b :=
    Hex.octet?_eq (Hex.value?_upperDigit (by omega)) (Hex.value?_upperDigit (by omega))
  simp [percentOctet, percentDecode, ho]

end BalancerClient
