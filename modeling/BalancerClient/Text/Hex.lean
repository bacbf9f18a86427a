import BalancerClient.Text.Utf8

/-!
# Hexadecimal text

Octets are written as two hexadecimal digits each.  Reading accepts digits in either case.

## Main definitions

* `Hex.digit`, `Hex.upperDigit`, `Hex.value?` - digits and their values.
* `Hex.encode`, `Hex.decode?` - octets to text and back.
-/

namespace BalancerClient.Hex

/-- The lower-case digit of a value below 16. -/
def digit (n : Nat) : Char := Nat.digitChar n

/-- The upper-case digit of a value below 16. -/
def upperDigit (n : Nat) : Char := (digit n).toUpper

/-- The value of a digit in either case. -/
def value? (c : Char) : Option Nat :=
  if '0' ≤ c ∧ c ≤ '9' then some (c.toNat - 48)
  else if 'a' ≤ c ∧ c ≤ 'f' then some (c.toNat - 87)
  else if 'A' ≤ c ∧ c ≤ 'F' then some (c.toNat - 55)
  else none

/-- An octet as two digits. -/
def octet (b : UInt8) : List Char := [digit (b.toNat / 16), digit (b.toNat % 16)]

/-- The octet of two digits. -/
def octet? (high low : Char) : Option UInt8 := do
  let h ← value? high
  let l ← value? low
  return UInt8.ofNat (h * 16 + l)

/-- Octets as text. -/
def encode (bytes : Bytes) : String := String.ofList (bytes.flatMap octet)

/-- The octets of a list of digits. -/
def decodeChars? : List Char → Option Bytes
  | [] => some []
  | [_] => none
  | high :: low :: rest => do
    let b ← octet? high low
    let bytes ← decodeChars? rest
    return b :: bytes

/-- The octets of a text of digits. -/
def decode? (s : String) : Option Bytes := decodeChars? s.toList

theorem value?_upperDigit {n : Nat} (h : n < 16) : value? (upperDigit n) = some n := by
  have : ∀ k < 16, value? (upperDigit k) = some k := by decide
  exact this n h

/-- The digits of an octet, in whichever case, give it back. -/
theorem octet?_eq {b : UInt8} {high low : Char} (hh : value? high = some (b.toNat / 16))
    (hl : value? low = some (b.toNat % 16)) : octet? high low = some b := by
  have hb : b.toNat / 16 * 16 + b.toNat % 16 = b.toNat := by omega
  simp only [octet?, hh, hl, Option.bind_eq_bind, Option.bind_some, hb, UInt8.ofNat_toNat]
  rfl

end BalancerClient.Hex
