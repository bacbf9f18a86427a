import BalancerClient.Number.Binary64

/-!
# The shortest decimal that reads back

A number is written with the fewest significant digits that no other number is nearer to; of
several such decimals the one nearest to the number is taken, and an exact tie goes to the
even digit.

## Main definitions

* `Decimal` - significant digits and the power of ten of the first one.
* `Binary64.shortest` - the shortest decimal of a number.
* `Binary64.text` - its text, positional or with an exponent.
-/

namespace BalancerClient

/-- A positive decimal `d.ddd · 10 ^ exponent`, by its significant digits. -/
structure Decimal where
  digits : List Char
  exponent : Int
  deriving DecidableEq, Repr

namespace Binary64

/-- The reals that round to a number are those between these bounds.  All of them are integers
in a common unit, a quarter of the last place: the lower bound, the number and the upper
bound. -/
structure Neighbourhood where
  lower : Nat
  centre : Nat
  upper : Nat
  closed : Bool

/-- The neighbourhood of a number in quarters of its last place.  Below a power of two the
numbers are twice as dense, and the bounds belong to it when its significand is even. -/
def neighbourhood (x : Binary64) : Neighbourhood :=
  let m := x.significand
  let below := if m = 1 <<< 52 ∧ minExponent < x.exponent then 1 else 2
  ⟨4 * m - below, 4 * m, 4 * m + 2, m % 2 == 0⟩

/-- Whether the integer `d` times the unit `num / den` lies in the neighbourhood. -/
def Neighbourhood.holds (v : Neighbourhood) (num den d : Nat) : Bool :=
  let p := d * num
  if v.closed then v.lower * den ≤ p && p ≤ v.upper * den
  else v.lower * den < p && p < v.upper * den

/-- The grid point in the neighbourhood, if the grid of multiples of `num / den` has one: the
nearer of the two next to the centre, an exact tie going to the even multiple. -/
def Neighbourhood.gridPoint? (v : Neighbourhood) (num den : Nat) : Option Nat :=
  let down := v.centre * den / num
  let gapDown := v.centre * den - down * num
  let gapUp := (down + 1) * num - v.centre * den
  match v.holds num den down && down != 0, v.holds num den (down + 1) with
  | true, true =>
    if gapDown < gapUp ∨ (gapDown = gapUp ∧ down % 2 = 0) then some down else some (down + 1)
  | true, false => some down
  | false, true => some (down + 1)
  | false, false => none

/-- The exponent `k` with `10 ^ k ≤ num / den < 10 ^ (k + 1)`, searched upwards from a
guess. -/
def log10From (num den : Nat) : Nat → Int → Int
  | 0, k => k
  | steps + 1, k =>
    let next := k + 1
    let reached :=
      if 0 ≤ next then den * Nat.pow 10 next.toNat ≤ num
      else den ≤ num * Nat.pow 10 (-next).toNat
    if reached then log10From num den steps next else k

/-- The power of ten of the first digit of a positive number. -/
def log10 (x : Binary64) : Int :=
  let (num, den) := x.ratio
  let two := log2Ratio num den
  log10From num den 3 (two * 30103 / 100000 - 2)

/-- The grid with `n` significant digits, as a multiple of a quarter of the last place: the
power of ten of its step over `2 ^ (exponent - 2)`. -/
def gridStep (x : Binary64) (step : Int) : Nat × Nat :=
  let (tenUp, tenDown) := if 0 ≤ step then (Nat.pow 10 step.toNat, 1) else (1,
      Nat.pow 10 (-step).toNat)
  let e := x.exponent - 2
  if 0 ≤ e then (tenUp, tenDown <<< e.toNat) else (tenUp <<< (-e).toNat, tenDown)

/-- The point of the coarsest grid that has one, from `n` significant digits on, with its
step. -/
def coarsest (x : Binary64) (first : Int) : (tries : Nat) → (n : Nat) → Nat × Int
  | 0, n => (0, first - n + 1)
  | tries + 1, n =>
    let step := first - n + 1
    let (num, den) := x.gridStep step
    match x.neighbourhood.gridPoint? num den with
    | some d => (d, step)
    | none => coarsest x first tries (n + 1)

/-- The shortest decimal of a positive number. -/
def shortest (x : Binary64) : Decimal :=
  let (d, step) := coarsest x x.log10 17 1
  let all := Nat.toDigits 10 d
  let kept := (all.reverse.dropWhile (· == '0')).reverse
  ⟨kept, step + (all.length - 1 : Nat)⟩

/-- The decimal exponents whose numbers are written without an exponent. -/
def isPositional (exponent : Int) : Bool := -5 ≤ exponent && exponent ≤ 15

/-- A decimal as text: positional with at least one digit on either side of the point, or one
digit before the point and a signed exponent. -/
def decimalText (d : Decimal) : List Char :=
  if isPositional d.exponent then
    if d.exponent < 0 then
      '0' :: '.' :: List.replicate (-d.exponent - 1).toNat '0' ++ d.digits
    else
      let whole := d.exponent.toNat + 1
      if d.digits.length ≤ whole then
        d.digits ++ List.replicate (whole - d.digits.length) '0' ++ ['.', '0']
      else
        d.digits.take whole ++ '.' :: d.digits.drop whole
  else
    let sign := if d.exponent < 0 then '-' else '+'
    let tail := 'e' :: sign :: Nat.toDigits 10 d.exponent.natAbs
    match d.digits with
    | [] => tail
    | [c] => c :: tail
    | c :: rest => c :: '.' :: rest ++ tail

/-- The text of a number. -/
def text (x : Binary64) : List Char :=
  let body := if x.isZero then ['0', '.', '0'] else decimalText x.shortest
  if x.negative then '-' :: body else body

end Binary64

end BalancerClient
