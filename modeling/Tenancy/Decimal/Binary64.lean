/-
Finite numbers of the 64-bit binary format, as sign, significand and exponent, with the three
operations that reading a decimal needs: rounding a ratio, multiplying and dividing, each correct
to the nearest number, ties to an even significand.
-/
namespace Tenancy

/-- The number `± significand · 2 ^ exponent`. In canonical form the significand is below
`2 ^ 53`, the exponent lies in `-1074 … 971`, and the significand is at least `2 ^ 52` unless the
exponent is the least one. Zero has a sign. -/
structure Binary64 where
  negative : Bool
  significand : Nat
  exponent : Int
  deriving DecidableEq, Repr

namespace Binary64

def leastExponent : Int := -1074

def greatestExponent : Int := 971

def zero (negative : Bool) : Binary64 := ⟨negative, 0, leastExponent⟩

def isZero (x : Binary64) : Bool := x.significand = 0

def neg (x : Binary64) : Binary64 := { x with negative := !x.negative }

/-- The quotient to the nearest whole number, a half to the even neighbour. -/
def roundDiv (num den : Nat) : Nat :=
  let q := num / den
  let r := num % den
  if 2 * r < den then q else if den < 2 * r then q + 1 else q + q % 2

/-- Numerator and denominator of `num / den / 2 ^ e`. -/
def scale (num den : Nat) (e : Int) : Nat × Nat :=
  (num * Nat.pow 2 (-e).toNat, den * Nat.pow 2 e.toNat)

/-- The number nearest to `± num / den`, or `none` if that lies beyond the greatest one. -/
def ofRatio (negative : Bool) (num den : Nat) : Option Binary64 :=
  if num = 0 then some (zero negative) else
    let low := max ((num.log2 : Int) - den.log2 - 53) leastExponent
    let trial := scale num den low
    let e := if Nat.pow 2 53 ≤ trial.1 / trial.2 then low + 1 else low
    let ratio := scale num den e
    let m := roundDiv ratio.1 ratio.2
    let x : Binary64 := if m = Nat.pow 2 53 then ⟨negative, Nat.pow 2 52, e + 1⟩ else ⟨negative, m, e⟩
    if greatestExponent < x.exponent then none else some x

/-- The number nearest to a whole number. -/
def ofNat (n : Nat) : Option Binary64 := ofRatio false n 1

def mul (x y : Binary64) : Option Binary64 :=
  let e := x.exponent + y.exponent
  ofRatio (x.negative != y.negative) (x.significand * y.significand * Nat.pow 2 e.toNat)
    (Nat.pow 2 (-e).toNat)

/-- The quotient of `x` by a number other than zero. -/
def div (x y : Binary64) : Option Binary64 :=
  let e := x.exponent - y.exponent
  ofRatio (x.negative != y.negative) (x.significand * Nat.pow 2 e.toNat)
    (y.significand * Nat.pow 2 (-e).toNat)

/-! ## Reading a decimal -/

/-- The greatest power of ten by which one step of scaling multiplies or divides. -/
def greatestPower : Nat := 308

/-- Divides by powers of ten until the exponent is used up or nothing is left of the value. -/
def scaleDown (x : Binary64) (places : Nat) : Option Binary64 :=
  if _h : places ≤ greatestPower then do x.div (← ofNat (Nat.pow 10 places))
  else if x.isZero then some x
  else do
    let next ← x.div (← ofNat (Nat.pow 10 greatestPower))
    scaleDown next (places - greatestPower)
termination_by places
decreasing_by simp [greatestPower] at *; omega

/-- The value read for `significand · 10 ^ e`: the significand is rounded first and then scaled by
a rounded power of ten, so the last bit may differ from that of the nearest number. -/
def ofScaled (significand : Nat) (e : Int) : Option Binary64 := do
  let x ← ofNat significand
  if 0 ≤ e then
    if e.toNat ≤ greatestPower then x.mul (← ofNat (Nat.pow 10 e.toNat))
    else if x.isZero then some x else none
  else scaleDown x (-e).toNat

end Binary64
end Tenancy
