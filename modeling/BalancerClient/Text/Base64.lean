import BalancerClient.Text.Utf8

/-!
# Base64

Three octets are written as four digits of six bits each.  One or two octets that are left at
the end have as many digits as hold their bits, and equals signs in place of the others.

## Main definitions

* `Base64.encode` - octets as text.
-/

namespace BalancerClient.Base64

/-- The digit of a value below 64. -/
def digit (n : Nat) : Char :=
  if n < 26 then Char.ofNat (n + 65)
  else if n < 52 then Char.ofNat (n + 71)
  else if n < 62 then Char.ofNat (n - 4)
  else if n = 62 then '+'
  else '/'

/-- The four digits of three octets. -/
def group (a b c : UInt8) : List Char :=
  let n := a.toNat * 65536 + b.toNat * 256 + c.toNat
  [digit (n / 262144), digit (n / 4096 % 64), digit (n / 64 % 64), digit (n % 64)]

/-- Octets as text. -/
def encode : Bytes → List Char
  | [] => []
  | [a] => (group a 0 0).take 2 ++ ['=', '=']
  | [a, b] => (group a b 0).take 3 ++ ['=']
  | a :: b :: c :: rest => group a b c ++ encode rest

end BalancerClient.Base64
