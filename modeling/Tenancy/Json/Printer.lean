/-
The compact text of a JSON value: no blanks, fields in key order, controls and quotes escaped, and
numbers in the shortest form that reads back.
-/
import Tenancy.Json.Basic
import Tenancy.Decimal.Shortest

namespace Tenancy

/-! ## Numbers -/

/-- The decimal point after `places` digits; both sides get at least a zero. -/
def Decimal.Digits.positional (ds : List Char) (places : Int) : String :=
  if places ≤ 0 then "0." ++ String.ofList (List.replicate (-places).toNat '0' ++ ds)
  else
    let n := places.toNat
    let whole := ds.take n ++ List.replicate (n - ds.length) '0'
    let rest := ds.drop n
    String.ofList whole ++ "." ++ (if rest.isEmpty then "0" else String.ofList rest)

/-- One digit before the point, the rest behind it, and an exponent that always has a sign. -/
def Decimal.Digits.scientific (ds : List Char) (e : Int) : String :=
  String.ofList (ds.take 1) ++ (if ds.length ≤ 1 then "" else "." ++ String.ofList (ds.drop 1)) ++
    "e" ++ (if e < 0 then "-" else "+") ++ toString e.natAbs

/-- The text of a binary number: positional from `1e-5` up to `1e16`, scientific elsewhere. -/
def Binary64.text (x : Binary64) : String :=
  let size := if x.isZero then "0.0" else
    let d := Decimal.shortest x
    let ds := Nat.toDigits 10 d.digits
    let places : Int := ds.length + d.exponent
    if -5 < places ∧ places ≤ 16 then Decimal.Digits.positional ds places
    else Decimal.Digits.scientific ds (places - 1)
  if x.negative then "-" ++ size else size

def Number.text : Number → String
  | .int i => toString i
  | .real x => x.text

namespace Json

/-! ## Texts -/

def hexDigit (n : Nat) : Char := Nat.digitChar n

/-- The spelling of one character inside a JSON text. -/
def escapedChar (c : Char) : List Char :=
  if c = '"' then ['\\', '"']
  else if c = '\\' then ['\\', '\\']
  else if c = '\n' then ['\\', 'n']
  else if c = '\r' then ['\\', 'r']
  else if c = '\t' then ['\\', 't']
  else if c = '\x08' then ['\\', 'b']
  else if c = '\x0c' then ['\\', 'f']
  else if c.toNat < 0x20 then ['\\', 'u', '0', '0', hexDigit (c.toNat / 16), hexDigit (c.toNat % 16)]
  else [c]

def quotedText (s : String) : String :=
  "\"" ++ String.ofList (s.toList.flatMap escapedChar) ++ "\""

/-! ## Values -/

mutual

/-- The compact text of a value. -/
def text : Json → String
  | .null => "null"
  | .bool b => if b then "true" else "false"
  | .num n => n.text
  | .str s => quotedText s
  | .arr items => "[" ++ String.intercalate "," (itemTexts items) ++ "]"
  | .obj fields => "\x7b" ++ String.intercalate "," (fieldTexts fields) ++ "\x7d"

def itemTexts : List Json → List String
  | [] => []
  | j :: rest => text j :: itemTexts rest

def fieldTexts : List (String × Json) → List String
  | [] => []
  | (key, j) :: rest => (quotedText key ++ ":" ++ text j) :: fieldTexts rest

end

end Json
end Tenancy
