/-
Spans of time in nanoseconds, and their text: the largest of the units s, ms, µs and ns that does
not exceed the span, with a decimal fraction that has no trailing zeros.
-/
import Tenancy.Text.Numeral

namespace Tenancy

/-- A span of time. -/
structure Duration where
  nanos : Nat
  deriving DecidableEq, Repr

namespace Duration

def zero : Duration := ⟨0⟩

def ofSeconds (s : Nat) : Duration := ⟨s * 1000000000⟩

def ofMillis (ms : Nat) : Duration := ⟨ms * 1000000⟩

/-- A span of `s` seconds and `n` nanoseconds. -/
def ofParts (s n : Nat) : Duration := ⟨s * 1000000000 + n⟩

/-- A fraction of `places` decimal places, without its trailing zeros; empty if it is zero. -/
def fraction (places n : Nat) : String :=
  if n = 0 then "" else
    let kept := ((Numeral.padded places n).toList.reverse.dropWhile (· = '0')).reverse
    "." ++ String.ofList kept

/-- A count of units of which each has `10 ^ places` parts. -/
def inUnits (places n : Nat) (unit : String) : String :=
  toString (n / Nat.pow 10 places) ++ fraction places (n % Nat.pow 10 places) ++ unit

def text (d : Duration) : String :=
  if 1000000000 ≤ d.nanos then inUnits 9 d.nanos "s"
  else if 1000000 ≤ d.nanos then inUnits 6 d.nanos "ms"
  else if 1000 ≤ d.nanos then inUnits 3 d.nanos "µs"
  else inUnits 0 d.nanos "ns"

end Duration
end Tenancy
