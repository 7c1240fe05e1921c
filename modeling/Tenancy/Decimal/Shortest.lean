/-
The shortest decimal that identifies a number of the 64-bit binary format: the fewest digits that
lie in the interval of reals rounding to it, and of those the nearest to it.
-/
import Tenancy.Decimal.Binary64

namespace Tenancy.Decimal

/-- The decimal `digits · 10 ^ exponent`. -/
structure Digits where
  digits : Nat
  exponent : Int
  deriving DecidableEq, Repr

/-- Whether `a · 10 ^ p` lies below `b · 2 ^ q`. -/
def below (a : Nat) (p : Int) (b : Nat) (q : Int) : Bool :=
  decide (a * Nat.pow 10 p.toNat * Nat.pow 2 (-q).toNat < b * Nat.pow 2 q.toNat * Nat.pow 10 (-p).toNat)

/-- Whether `a · 10 ^ p` is `b · 2 ^ q`. -/
def same (a : Nat) (p : Int) (b : Nat) (q : Int) : Bool :=
  decide (a * Nat.pow 10 p.toNat * Nat.pow 2 (-q).toNat = b * Nat.pow 2 q.toNat * Nat.pow 10 (-p).toNat)

/-- Ends of the interval that rounds to `x`, in units of a quarter of its last place. -/
def interval (x : Binary64) : Nat × Nat :=
  let m := x.significand
  let low := if m = Nat.pow 2 52 ∧ Binary64.leastExponent < x.exponent then 4 * m - 1 else 4 * m - 2
  (low, 4 * m + 2)

/-- Whether `a · 10 ^ p` reads back as `x`; the ends of the interval do if the significand is
even. -/
def identifies (x : Binary64) (a : Nat) (p : Int) : Bool :=
  let ends := interval x
  let q := x.exponent - 2
  let closed := x.significand % 2 = 0
  (below a p ends.2 q || (closed && same a p ends.2 q)) &&
    (!(below a p ends.1 q || same a p ends.1 q) || (closed && same a p ends.1 q))

/-- The whole part of `m · 2 ^ q / 10 ^ p`. -/
def floorAt (m : Nat) (q p : Int) : Nat :=
  (m * Nat.pow 2 q.toNat * Nat.pow 10 (-p).toNat) / (Nat.pow 2 (-q).toNat * Nat.pow 10 p.toNat)

/-- Whether the middle between `a` and `a + 1` on the grid lies below the value, or on it with `a`
odd, so that the upper neighbour is the one to take. -/
def upperNearer (x : Binary64) (a : Nat) (p : Int) : Bool :=
  let twice := 4 * x.significand
  let q := x.exponent - 1
  below (2 * a + 1) p twice (q) && !same (2 * a + 1) p twice q ||
    same (2 * a + 1) p twice q && decide (a % 2 = 1)

/-- The point of the grid of step `10 ^ p` that reads back as `x`, the nearer of two. -/
def onGrid (x : Binary64) (p : Int) : Option Nat :=
  let a := floorAt x.significand x.exponent p
  match identifies x a p && decide (0 < a), identifies x (a + 1) p with
  | true, true => some (if upperNearer x a p then a + 1 else a)
  | true, false => some a
  | false, true => some (a + 1)
  | false, false => none

/-- Tries the grids from `p` downwards, `count` of them. -/
def search (x : Binary64) (p : Int) : Nat → Digits
  | 0 => ⟨floorAt x.significand x.exponent p, p⟩
  | count + 1 =>
    match onGrid x p with
    | some a => ⟨a, p⟩
    | none => search x (p - 1) count

/-- Takes trailing zeros out of the digits; `count` bounds their number. -/
def trim (d : Digits) : Nat → Digits
  | 0 => d
  | count + 1 =>
    if d.digits % 10 = 0 ∧ d.digits ≠ 0 then trim ⟨d.digits / 10, d.exponent + 1⟩ count else d

/-- The greatest `p` with `10 ^ p` at most `m · 2 ^ q`, searched downwards from `p`. -/
def magnitude (m : Nat) (q p : Int) : Nat → Int
  | 0 => p
  | fuel + 1 => if floorAt m q p = 0 then magnitude m q (p - 1) fuel else p

/-- The fewest digits that read back as the size of `x`. -/
def shortest (x : Binary64) : Digits :=
  let bits : Int := x.significand.log2 + x.exponent
  let top := magnitude x.significand x.exponent (bits * 30103 / 100000 + 2) 6
  trim (search x top 17) 20

end Tenancy.Decimal
