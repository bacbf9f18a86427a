import BalancerClient.Text.Hex
import BalancerClient.Text.Pieces

/-!
# Addresses in host position

An address of 32 bits is written as one to four numbers between points, each in base 10, 8 or
16; the last one fills the octets that are left.  An address of 128 bits is written as eight
groups between colons, a run of which may be left out once, and the last two groups may have
the form of four decimal octets.

## Main definitions

* `Ipv4.ofChars?`, `Ipv4.isMeant` - reads an address, and whether a text is meant as one.
* `Ipv6.ofChars?` - reads an address of the other kind.
-/

namespace BalancerClient

namespace Ipv4

/-- The value of digits in a base, the first digit first. -/
def valueIn (base : Nat) (cs : List Char) : Option Nat := do
  let digits ← cs.mapM Hex.value?
  if digits.all (· < base) then some (digits.foldl (fun n d => n * base + d) 0) else none

/-- The value of a number: after `0x` in base 16, after a zero in base 8, else in base 10. -/
def number? : List Char → Option Nat
  | [] => none
  | '0' :: 'x' :: digits | '0' :: 'X' :: digits => valueIn 16 digits
  | '0' :: c :: digits => valueIn 8 (c :: digits)
  | digits => valueIn 10 digits

/-- The parts of a text between points; a point at the end is passed over. -/
def parts (cs : List Char) : List (List Char) :=
  let ps := Text.pieces (· == '.') cs
  if ps.getLast? = some [] then ps.dropLast else ps

/-- Whether a text is meant as an address: its last part is a number. -/
def isMeant (cs : List Char) : Bool :=
  match (parts cs).getLast? with
  | none => false
  | some last => (!last.isEmpty && last.all Char.isDigit) || (number? last).isSome

/-- The address that a text stands for. -/
def ofChars? (cs : List Char) : Option Nat := do
  let numbers ← (parts cs).mapM number?
  let last ← numbers.getLast?
  let front := numbers.dropLast
  if front.length < 4 && front.all (· < 256) && last < Nat.pow 256 (4 - front.length) then
    some (front.foldl (fun n d => n * 256 + d) 0 * Nat.pow 256 (4 - front.length) + last)
  else none

end Ipv4

namespace Ipv6

/-- A group: one to four hexadecimal digits. -/
def group? (cs : List Char) : Option Nat :=
  if cs.length ≤ 4 && !cs.isEmpty then Ipv4.valueIn 16 cs else none

/-- A decimal octet without leading zeros. -/
def octet? (cs : List Char) : Option Nat := do
  let n ← if cs.isEmpty then none else Ipv4.valueIn 10 cs
  if n < 256 && (cs.length == 1 || cs.head? != some '0') then some n else none

/-- The two groups of four octets between points. -/
def dotted? (cs : List Char) : Option (List Nat) := do
  match ← (Text.pieces (· == '.') cs).mapM octet? with
  | [a, b, c, d] => some [a * 256 + b, c * 256 + d]
  | _ => none

/-- The groups between colons; the last may have the dotted form if it ends the address. -/
def groups? (atEnd : Bool) : List (List Char) → Option (List Nat)
  | [] => some []
  | [last] =>
    if atEnd && last.contains '.' then dotted? last else (group? last).map ([·])
  | piece :: rest => do
    let g ← group? piece
    let gs ← groups? atEnd rest
    return g :: gs

/-- The groups of a text, which may be empty. -/
def run? (atEnd : Bool) (cs : List Char) : Option (List Nat) :=
  if cs.isEmpty then some [] else groups? atEnd (Text.pieces (· == ':') cs)

/-- The text before the first pair of colons and the text behind it. -/
def cutAtGap : List Char → Option (List Char × List Char)
  | ':' :: ':' :: rest => some ([], rest)
  | c :: rest => (cutAtGap rest).map fun (front, back) => (c :: front, back)
  | [] => none

/-- The groups of the address that a text stands for. -/
def ofChars? (cs : List Char) : Option (List Nat) := do
  match cutAtGap cs with
  | none =>
    let gs ← run? true cs
    if gs.length = 8 then some gs else none
  | some (front, back) =>
    let before ← run? false front
    let behind ← run? true back
    if before.length + behind.length ≤ 7 then
      some (before ++ List.replicate (8 - before.length - behind.length) 0 ++ behind)
    else none

end Ipv6

end BalancerClient
