/-
Whole numbers as decimal text, the way settings are written: ASCII digits only, an optional plus
sign, any number of leading zeros, and nothing else.
-/
namespace Tenancy.Numeral

/-- The value of an ASCII decimal digit. -/
def digit? (c : Char) : Option Nat :=
  if '0' ≤ c ∧ c ≤ '9' then some (c.toNat - '0'.toNat) else none

/-- Extends the value read so far by the digits that follow. -/
def extend : Nat → List Char → Option Nat
  | n, [] => some n
  | n, c :: rest => do extend (n * 10 + (← digit? c)) rest

/-- The value of a non-empty run of digits. -/
def digits? : List Char → Option Nat
  | [] => none
  | c :: rest => extend 0 (c :: rest)

/-- The value of an unsigned numeral of at most `max`. -/
def unsigned? (max : Nat) (s : String) : Option Nat := do
  let n ← match s.toList with
    | '+' :: rest => digits? rest
    | cs => digits? cs
  if n ≤ max then some n else none

/-- The decimal digits of `n`, padded with zeros to at least `width` places. -/
def padded (width n : Nat) : String :=
  let ds := Nat.toDigits 10 n
  String.ofList (List.replicate (width - ds.length) '0' ++ ds)

end Tenancy.Numeral
