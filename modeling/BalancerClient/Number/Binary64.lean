/-!
# Finite binary floating point numbers of 64 bits

A number is a sign, a significand below `2 ^ 53` and a power of two.  Arithmetic goes through
exact ratios of natural numbers and one rounding step, to the nearest representable number
with ties to the even significand, so nothing here depends on the machine's floating point
unit.

## Main definitions

* `Binary64` - a finite number; `Binary64.zero` has either sign.
* `Binary64.ofRatio?` - the number nearest to a ratio, `none` when it is too large.
* `Binary64.mul?`, `Binary64.div?` - correctly rounded product and quotient.
* `Binary64.ofDecimal?` - the number read for a significand and a power of ten.
-/

namespace BalancerClient

/-- A finite number `± significand · 2 ^ exponent`, with the significand below `2 ^ 53` and
the exponent at least `-1074`, as large a significand as the exponent allows. -/
structure Binary64 where
  negative : Bool
  significand : Nat
  exponent : Int
  deriving DecidableEq, Repr

namespace Binary64

/-- The least exponent of a number. -/
def minExponent : Int := -1074

/-- The greatest exponent of a number. -/
def maxExponent : Int := 971

/-- Zero, of either sign. -/
def zero (negative : Bool) : Binary64 := ⟨negative, 0, minExponent⟩

/-- Whether a number is zero, of either sign. -/
def isZero (x : Binary64) : Bool := x.significand == 0

/-- The number with the sign chosen. -/
def withSign (negative : Bool) (x : Binary64) : Binary64 := { x with negative }

/-- The ratio `num / den` divided by `2 ^ e`, again as a ratio. -/
def scale (num den : Nat) (e : Int) : Nat × Nat :=
  if 0 ≤ e then (num, den <<< e.toNat) else (num <<< (-e).toNat, den)

/-- The exponent `k` with `2 ^ k ≤ num / den < 2 ^ (k + 1)`, for a positive ratio. -/
def log2Ratio (num den : Nat) : Int :=
  let k : Int := (Nat.log2 num : Int) - Nat.log2 den
  let (n, d) := scale num den k
  if d ≤ n then k else k - 1

/-- The integer nearest to `num / den`, the even one of two. -/
def roundEven (num den : Nat) : Nat :=
  let q := num / den
  let r := num % den
  if 2 * r > den ∨ (2 * r = den ∧ q % 2 = 1) then q + 1 else q

/-- The number nearest to `num / den`, ties going to the even significand; `none` when the
ratio is beyond the largest number by half a unit or more. -/
def ofRatio? (negative : Bool) (num den : Nat) : Option Binary64 :=
  if num = 0 ∨ den = 0 then some (zero negative)
  else
    let e := max minExponent (log2Ratio num den - 52)
    let (n, d) := scale num den e
    let m := roundEven n d
    let (m, e) := if m = 1 <<< 53 then (1 <<< 52, e + 1) else (m, e)
    if maxExponent < e then none else some ⟨negative, m, e⟩

/-- The magnitude as a ratio of natural numbers. -/
def ratio (x : Binary64) : Nat × Nat :=
  if 0 ≤ x.exponent then (x.significand <<< x.exponent.toNat, 1)
  else (x.significand, 1 <<< (-x.exponent).toNat)

/-- The rounded product, `none` on overflow. -/
def mul? (x y : Binary64) : Option Binary64 :=
  let (a, b) := x.ratio
  let (c, d) := y.ratio
  ofRatio? (x.negative != y.negative) (a * c) (b * d)

/-- The rounded quotient, `none` on overflow. -/
def div? (x y : Binary64) : Option Binary64 :=
  let (a, b) := x.ratio
  let (c, d) := y.ratio
  ofRatio? (x.negative != y.negative) (a * d) (b * c)

/-- The number nearest to an integer, `none` when it is too large. -/
def ofInt? (n : Int) : Option Binary64 := ofRatio? (n < 0) n.natAbs 1

/-- The greatest power of ten that is a number. -/
def maxPower : Nat := 308

/-- The number nearest to `10 ^ k`. -/
def powerOfTen (k : Nat) : Binary64 := (ofRatio? false (Nat.pow 10 k) 1).getD (zero false)

/-- The number divided `steps` times by the greatest power of ten, or zero as soon as it is
zero. -/
def shrinkBy : (steps : Nat) → Binary64 → Option Binary64
  | 0, x => some x
  | steps + 1, x =>
    if x.isZero then some x else (x.div? (powerOfTen maxPower)).bind (shrinkBy steps)

/-- Multiplies by a power of ten in as few rounded steps as the powers of ten up to `10 ^ 308`
allow: one product or quotient, and before it, for very small results, quotients by
`10 ^ 308`. -/
def scaleTen? (x : Binary64) (exponent : Int) : Option Binary64 :=
  if 0 ≤ exponent then
    if exponent.toNat ≤ maxPower then x.mul? (powerOfTen exponent.toNat)
    else if x.isZero then some x
    else none
  else
    let places := (-exponent).toNat
    let steps := (places - 1) / maxPower
    (shrinkBy steps x).bind fun y =>
      if y.isZero then some y else y.div? (powerOfTen (places - steps * maxPower))

/-- The number read for `± significand · 10 ^ exponent`: the significand is rounded first and
the result is then scaled, so the last bit can differ from the nearest number. -/
def ofDecimal? (negative : Bool) (significand : Nat) (exponent : Int) : Option Binary64 :=
  (ofRatio? false significand 1).bind fun x => (x.scaleTen? exponent).map (withSign negative)

@[simp] theorem isZero_zero (negative : Bool) : (zero negative).isZero = true := rfl

@[simp] theorem negative_withSign (negative : Bool) (x : Binary64) :
    (x.withSign negative).negative = negative := rfl

end Binary64

end BalancerClient
