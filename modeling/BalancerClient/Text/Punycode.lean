/-!
# Punycode

A label of a domain that holds characters beyond ASCII is written in letters, digits and
hyphens: first its ASCII characters, then, after a hyphen, where the others go, as differences
in a mixed base of up to 36 whose digits are letters and digits.

## Main definitions

* `Punycode.decode?` - the characters of such a text.
* `Punycode.encode` - a label in this form.
-/

namespace BalancerClient.Punycode

/-- The value of a digit. -/
def digit? (c : Char) : Option Nat :=
  if 'a' ≤ c ∧ c ≤ 'z' then some (c.toNat - 97)
  else if 'A' ≤ c ∧ c ≤ 'Z' then some (c.toNat - 65)
  else if '0' ≤ c ∧ c ≤ '9' then some (c.toNat - 22)
  else none

/-- The least digit that is not the last of its number, at a place and under a bias. -/
def threshold (place bias : Nat) : Nat :=
  if place ≤ bias then 1 else if bias + 26 ≤ place then 26 else place - bias

/-- The bias for numbers of a given size. -/
def biasOf (delta place : Nat) : Nat :=
  if h : 455 < delta then biasOf (delta / 35) (place + 36)
  else place + 36 * delta / (delta + 38)
termination_by delta
decreasing_by omega

/-- The bias after a number: the first is taken to be much larger than those that follow. -/
def adapt (delta count : Nat) (first : Bool) : Nat :=
  let scaled := if first then delta / 700 else delta / 2
  biasOf (scaled + scaled / count) 0

/-- What has been read: the characters, the last code point, the bias and where the last one
went. -/
structure State where
  chars : List Char
  point : Nat := 128
  bias : Nat := 72
  position : Nat := 0

/-- The state after a number, unless it leads to no character. -/
def State.put? (s : State) (total : Nat) : Option State :=
  let count := s.chars.length + 1
  let point := s.point + total / count
  let position := total % count
  if point.isValidChar then
    some {
      chars := s.chars.take position ++ Char.ofNat point :: s.chars.drop position
      point
      bias := adapt (total - s.position) count (s.position == 0)
      position := position + 1 }
  else none

/-- Reads numbers digit by digit.  `total` is what the digits of the number so far amount to,
`weight` and `place` belong to the next digit. -/
def numbers (s : State) (total weight place : Nat) : List Char → Option (List Char)
  | [] => if place = 36 then some s.chars else none
  | c :: rest =>
    match digit? c with
    | none => none
    | some d =>
      let total := total + d * weight
      let t := threshold place s.bias
      if d < t then
        match s.put? total with
        | none => none
        | some s => numbers s s.position 1 36 rest
      else numbers s total (weight * (36 - t)) (place + 36) rest

/-- The characters that a text stands for. -/
def decode? (cs : List Char) : Option (List Char) :=
  let tail := (cs.reverse.takeWhile (· != '-')).reverse
  let plain := cs.take (cs.length - tail.length - 1)
  let digits := if plain.isEmpty then cs else tail
  if plain.all fun c => c.toNat < 128 then numbers { chars := plain } 0 1 36 digits else none

/-! ## Writing -/

/-- The digit of a value below 36. -/
def digit (n : Nat) : Char := Char.ofNat (if n < 26 then n + 97 else n + 22)

theorem threshold_le (place bias : Nat) : threshold place bias ≤ 26 := by
  rw [threshold]
  split
  · decide
  · split <;> omega

theorem threshold_pos (place bias : Nat) : 0 < threshold place bias := by
  rw [threshold]
  split
  · decide
  · split <;> omega

/-- The digits of a number under a bias, from the given place on. -/
def digits (bias n place : Nat) : List Char :=
  let t := threshold place bias
  if h : n < t then [digit n]
  else digit (t + (n - t) % (36 - t)) :: digits bias ((n - t) / (36 - t)) (place + 36)
termination_by n
decreasing_by
  have hpos := threshold_pos place bias
  have hle := threshold_le place bias
  have hdiv := Nat.div_le_self (n - threshold place bias) (36 - threshold place bias)
  omega

/-- What has been written: the digits, how many characters they and the ASCII characters stand
for, the distance from the last of them, and the bias. -/
structure Writer where
  written : List Char
  count : Nat
  delta : Nat := 0
  bias : Nat := 72

/-- Goes past a character on the way to those of a code point; `ascii` characters are never
written. -/
def Writer.pass (ascii point : Nat) (w : Writer) (c : Char) : Writer :=
  if c.toNat < point then { w with delta := w.delta + 1 }
  else if c.toNat = point then {
    written := w.written ++ digits w.bias w.delta 36
    count := w.count + 1
    delta := 0
    bias := adapt w.delta (w.count + 1) (w.count == ascii) }
  else w

/-- Writes the characters of a label from one code point to the next; `last` is the one
before. -/
def numerals (label : List Char) (ascii : Nat) (w : Writer) (last : Nat) :
    List Nat → List Char
  | [] => w.written
  | point :: rest =>
    let reached := { w with delta := w.delta + (point - last) * (w.count + 1) }
    let passed := label.foldl (Writer.pass ascii point) reached
    numerals label ascii { passed with delta := passed.delta + 1 } (point + 1) rest

/-- A label in this form. -/
def encode (label : List Char) : List Char :=
  let plain := label.filter fun c => c.toNat < 128
  let points := ((label.map Char.toNat).filter (128 ≤ ·)).mergeSort.eraseDups
  let front := if plain.isEmpty then [] else plain ++ ['-']
  front ++ numerals label plain.length { written := [], count := plain.length } 128 points

end BalancerClient.Punycode
