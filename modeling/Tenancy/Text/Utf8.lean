/-
UTF-8 over lists of bytes: writing a text, and reading one back either strictly or with every
ill-formed part replaced. One function reads the symbols of a byte string, and both readers are
views of its answer, so they agree wherever both succeed.
-/
namespace Tenancy

/-- A byte string. -/
abbrev Bytes := List UInt8

namespace Utf8

/-! ## Reading -/

/-- What the first byte of a symbol promises: how many bytes follow, the range of the first of
them, and the bits that the first byte itself carries. -/
structure Lead where
  following : Nat
  low : UInt8
  high : UInt8
  bits : Nat

/-- The first bytes that may start a symbol; the ranges shut out overlong forms, surrogates and
values above the last scalar value. -/
def lead (b : UInt8) : Option Lead :=
  let n := b.toNat
  if n < 0x80 then some ⟨0, 0x80, 0xBF, n⟩
  else if n < 0xC2 then none
  else if n < 0xE0 then some ⟨1, 0x80, 0xBF, n - 0xC0⟩
  else if n = 0xE0 then some ⟨2, 0xA0, 0xBF, 0⟩
  else if n = 0xED then some ⟨2, 0x80, 0x9F, 13⟩
  else if n < 0xF0 then some ⟨2, 0x80, 0xBF, n - 0xE0⟩
  else if n = 0xF0 then some ⟨3, 0x90, 0xBF, 0⟩
  else if n < 0xF4 then some ⟨3, 0x80, 0xBF, n - 0xF0⟩
  else if n = 0xF4 then some ⟨3, 0x80, 0x8F, 4⟩
  else none

/-- Reads the following bytes of a symbol. The value is missing if the bytes break off, and the
rest then starts at the byte that does not fit. -/
def continuation : Nat → UInt8 → UInt8 → Nat → Bytes → Option Nat × Bytes
  | 0, _, _, value, rest => (some value, rest)
  | _ + 1, _, _, _, [] => (none, [])
  | n + 1, low, high, value, b :: rest =>
    if low ≤ b ∧ b ≤ high then continuation n 0x80 0xBF (value * 64 + b.toNat % 64) rest
    else (none, b :: rest)

theorem length_continuation_le (n : Nat) (low high : UInt8) (value : Nat) (bs : Bytes) :
    (continuation n low high value bs).2.length ≤ bs.length := by
  induction bs generalizing n low high value with
  | nil => cases n <;> simp [continuation]
  | cons b rest ih =>
    cases n with
    | zero => simp [continuation]
    | succ n =>
      simp only [continuation]
      split
      · exact Nat.le_succ_of_le (ih ..)
      · exact Nat.le_refl _

/-- The symbols of a byte string in order, a missing one for each ill-formed part. An ill-formed
part is as long as the longest beginning of a symbol found there, and at least one byte. -/
def symbols : Bytes → List (Option Char)
  | [] => []
  | b :: rest =>
    match lead b with
    | none => none :: symbols rest
    | some l =>
      (continuation l.following l.low l.high l.bits rest).1.map Char.ofNat ::
        symbols (continuation l.following l.low l.high l.bits rest).2
termination_by bs => bs.length
decreasing_by
  · simp
  · have := length_continuation_le l.following l.low l.high l.bits rest
    simp only [List.length_cons]; omega

/-- The characters of a list of symbols, if none is missing. -/
def allPresent : List (Option Char) → Option (List Char)
  | [] => some []
  | none :: _ => none
  | some c :: rest => (allPresent rest).map (c :: ·)

/-- The text that a byte string encodes, or `none` if any part of it is ill-formed. -/
def decode? (bs : Bytes) : Option String :=
  (allPresent (symbols bs)).map String.ofList

/-- The text of a byte string with U+FFFD in place of each ill-formed part. -/
def decodeLossy (bs : Bytes) : String :=
  String.ofList ((symbols bs).map (·.getD '\uFFFD'))

/-- The first ill-formed part of a byte string: where it starts, and how long it is unless the bytes
break off in it. -/
structure Defect where
  index : Nat
  length : Option Nat
  deriving DecidableEq, Repr

/-- Looks for the first ill-formed part of bytes that start at `index`. -/
def defect? (index : Nat) : Bytes → Option Defect
  | [] => none
  | b :: rest =>
    match lead b with
    | none => some ⟨index, some 1⟩
    | some l =>
      let left := (continuation l.following l.low l.high l.bits rest).2
      if (continuation l.following l.low l.high l.bits rest).1.isSome then
        defect? (index + 1 + l.following) left
      else if left.isEmpty then some ⟨index, none⟩
      else some ⟨index, some (1 + (rest.length - left.length))⟩
termination_by bs => bs.length
decreasing_by
  have := length_continuation_le l.following l.low l.high l.bits rest
  simp only [List.length_cons]; omega

def Defect.message (d : Defect) : String :=
  match d.length with
  | some n =>
    "invalid utf-8 sequence of " ++ toString n ++ " bytes from index " ++ toString d.index
  | none => "incomplete utf-8 byte sequence from index " ++ toString d.index

/-- A byte string encodes a text or has a first ill-formed part, and never both. -/
theorem defect?_eq_none_iff (index : Nat) (bs : Bytes) :
    defect? index bs = none ↔ (decode? bs).isSome := by
  rw [decode?, Option.isSome_map]
  fun_induction defect? index bs with
  | case1 => simp [symbols, allPresent]
  | case2 index b rest h => simp [symbols, h, allPresent]
  | case3 index b rest l h left hs ih =>
    obtain ⟨v, hv⟩ := Option.isSome_iff_exists.1 hs
    rw [symbols]
    simp only [h, hv, Option.map_some, allPresent, Option.isSome_map]
    exact ih
  | case4 index b rest l h left hs _ =>
    rw [Option.not_isSome_iff_eq_none] at hs
    rw [symbols]
    simp [h, hs, allPresent]
  | case5 index b rest l h left hs _ =>
    rw [Option.not_isSome_iff_eq_none] at hs
    rw [symbols]
    simp [h, hs, allPresent]

/-! ## Writing -/

/-- The bytes of a text. -/
def encode (s : String) : Bytes :=
  s.toList.flatMap String.utf8EncodeChar

end Utf8
end Tenancy
