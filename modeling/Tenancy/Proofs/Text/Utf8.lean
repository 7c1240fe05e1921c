/-
What is written in UTF-8 reads back: the bytes of a text are well-formed and encode that text.
-/
import Tenancy.Text.Utf8
import Mathlib.Tactic

namespace Tenancy.Utf8

/-! ## First bytes -/

theorem toNat_ofNat_of_lt {n : Nat} (h : n < 256) : (UInt8.ofNat n).toNat = n := by
  rw [UInt8.toNat_ofNat']
  exact Nat.mod_eq_of_lt h

theorem lead_one {n : Nat} (h : n < 0x80) : lead (UInt8.ofNat n) = some ⟨0, 0x80, 0xBF, n⟩ := by
  unfold lead
  rw [toNat_ofNat_of_lt (by omega), if_pos h]

theorem lead_two {n : Nat} (h : 0xC2 ≤ n) (h' : n < 0xE0) :
    lead (UInt8.ofNat n) = some ⟨1, 0x80, 0xBF, n - 0xC0⟩ := by
  unfold lead
  rw [toNat_ofNat_of_lt (by omega), if_neg (by omega), if_neg (by omega), if_pos h']

theorem lead_three {n : Nat} (h : 0xE0 ≤ n) (h' : n < 0xF0) : lead (UInt8.ofNat n) =
    some ⟨2, if n = 0xE0 then 0xA0 else 0x80, if n = 0xED then 0x9F else 0xBF, n - 0xE0⟩ := by
  unfold lead
  rw [toNat_ofNat_of_lt (by omega), if_neg (by omega), if_neg (by omega), if_neg (by omega)]
  by_cases hl : n = 0xE0
  · subst hl
    rfl
  · by_cases hh : n = 0xED
    · subst hh
      rfl
    · simp only [if_neg hl, if_neg hh, if_pos h']

theorem lead_four {n : Nat} (h : 0xF0 ≤ n) (h' : n ≤ 0xF4) : lead (UInt8.ofNat n) =
    some ⟨3, if n = 0xF0 then 0x90 else 0x80, if n = 0xF4 then 0x8F else 0xBF, n - 0xF0⟩ := by
  unfold lead
  rw [toNat_ofNat_of_lt (by omega), if_neg (by omega), if_neg (by omega), if_neg (by omega), if_neg (by omega),
    if_neg (by omega), if_neg (by omega)]
  by_cases hl : n = 0xF0
  · subst hl
    rfl
  · by_cases hh : n = 0xF4
    · subst hh
      rfl
    · simp only [if_neg hl, if_neg hh, if_pos (show n < 0xF4 by omega)]

/-! ## Symbols -/

/-- A following byte that is in range is taken, with its six bits. -/
theorem continuation_tail {n x value : Nat} {low high : UInt8} (rest : Bytes) (hx : x < 64)
    (hlow : low.toNat ≤ x + 128) (hhigh : x + 128 ≤ high.toNat) :
    continuation (n + 1) low high value (UInt8.ofNat (x + 128) :: rest) =
      continuation n 0x80 0xBF (value * 64 + x) rest := by
  have hb : (UInt8.ofNat (x + 128)).toNat = x + 128 := toNat_ofNat_of_lt (by omega)
  have hrange : low ≤ UInt8.ofNat (x + 128) ∧ UInt8.ofNat (x + 128) ≤ high := by
    rw [UInt8.le_iff_toNat_le, UInt8.le_iff_toNat_le, hb]
    exact ⟨hlow, hhigh⟩
  have hbits : (x + 128) % 64 = x := by omega
  rw [continuation, if_pos hrange, hb, hbits]

/-- The first byte and those that it promises make a symbol. -/
theorem symbols_cons {b : UInt8} {l : Lead} {v : Nat} {rest left : Bytes} (hl : lead b = some l)
    (hc : continuation l.following l.low l.high l.bits rest = (some v, left)) :
    symbols (b :: rest) = some (Char.ofNat v) :: symbols left := by
  rw [symbols]
  simp only [hl, hc, Option.map_some]

section

variable {v : Nat} (rest : Bytes)

theorem symbols_one (h : v < 0x80) : symbols (UInt8.ofNat v :: rest) = some (Char.ofNat v) :: symbols rest :=
  symbols_cons (lead_one h) rfl

theorem symbols_two (h : 0x80 ≤ v) (h' : v < 0x800) :
    symbols (UInt8.ofNat (v / 64 % 32 + 192) :: UInt8.ofNat (v % 64 + 128) :: rest) =
      some (Char.ofNat v) :: symbols rest := by
  have hv : (v / 64 % 32 + 192 - 0xC0) * 64 + v % 64 = v := by omega
  refine symbols_cons (lead_two (by omega) (by omega)) ?_
  rw [continuation_tail rest (by omega) (by simp) (by simp; omega), hv]
  rfl

theorem symbols_three (h : 0x800 ≤ v) (h' : v < 0x10000) (hs : v < 0xD800 ∨ 0xDFFF < v) :
    symbols (UInt8.ofNat (v / 4096 % 16 + 224) :: UInt8.ofNat (v / 64 % 64 + 128) :: UInt8.ofNat (v % 64 + 128) :: rest) =
      some (Char.ofNat v) :: symbols rest := by
  have hv : ((v / 4096 % 16 + 224 - 0xE0) * 64 + v / 64 % 64) * 64 + v % 64 = v := by omega
  -- overlong forms and surrogates are shut out by the range of the second byte
  have hlow : (if v / 4096 % 16 + 224 = 0xE0 then 0xA0 else 0x80 : UInt8).toNat ≤ v / 64 % 64 + 128 := by
    split_ifs <;> simp only [UInt8.reduceToNat] <;> omega
  have hhigh : v / 64 % 64 + 128 ≤ (if v / 4096 % 16 + 224 = 0xED then 0x9F else 0xBF : UInt8).toNat := by
    split_ifs <;> simp only [UInt8.reduceToNat] <;> omega
  refine symbols_cons (lead_three (by omega) (by omega)) ?_
  rw [continuation_tail _ (by omega) hlow hhigh,
    continuation_tail rest (by omega) (by simp) (by simp; omega), hv]
  rfl

theorem symbols_four (h : 0x10000 ≤ v) (h' : v < 0x110000) :
    symbols (UInt8.ofNat (v / 262144 % 8 + 240) :: UInt8.ofNat (v / 4096 % 64 + 128) :: UInt8.ofNat (v / 64 % 64 + 128) ::
      UInt8.ofNat (v % 64 + 128) :: rest) = some (Char.ofNat v) :: symbols rest := by
  have hv : (((v / 262144 % 8 + 240 - 0xF0) * 64 + v / 4096 % 64) * 64 + v / 64 % 64) * 64 + v % 64 = v := by omega
  have hlow : (if v / 262144 % 8 + 240 = 0xF0 then 0x90 else 0x80 : UInt8).toNat ≤ v / 4096 % 64 + 128 := by
    split_ifs <;> simp only [UInt8.reduceToNat] <;> omega
  have hhigh : v / 4096 % 64 + 128 ≤ (if v / 262144 % 8 + 240 = 0xF4 then 0x8F else 0xBF : UInt8).toNat := by
    split_ifs <;> simp only [UInt8.reduceToNat] <;> omega
  refine symbols_cons (lead_four (by omega) (by omega)) ?_
  rw [continuation_tail _ (by omega) hlow hhigh,
    continuation_tail _ (by omega) (by simp) (by simp; omega),
    continuation_tail rest (by omega) (by simp) (by simp; omega), hv]
  rfl

end

/-- The bytes of a character read as that character. -/
theorem symbols_encodeChar (c : Char) (rest : Bytes) :
    symbols (String.utf8EncodeChar c ++ rest) = some c :: symbols rest := by
  have valid : c.val.toNat < 0xD800 ∨ 0xDFFF < c.val.toNat ∧ c.val.toNat < 0x110000 := c.valid
  have hchar : Char.ofNat c.val.toNat = c := Char.ofNat_toNat c
  suffices h : symbols (String.utf8EncodeChar c ++ rest) = some (Char.ofNat c.val.toNat) :: symbols rest by
    rwa [hchar] at h
  rw [String.utf8EncodeChar]
  generalize c.val.toNat = v at valid
  split_ifs with h1 h2 h3
  · exact symbols_one (v := v) rest (by omega)
  · exact symbols_two (v := v) rest (by omega) (by omega)
  · exact symbols_three (v := v) rest (by omega) (by omega) (by omega)
  · exact symbols_four (v := v) rest (by omega) (by omega)

/-! ## Texts -/

theorem encode_append (s s' : String) : encode (s ++ s') = encode s ++ encode s' := by
  rw [encode, String.toList_append, List.flatMap_append]
  rfl

theorem symbols_encode (s : String) : symbols (encode s) = s.toList.map some := by
  unfold encode
  induction s.toList with
  | nil => simp [symbols]
  | cons c cs ih => rw [List.flatMap_cons, symbols_encodeChar, ih, List.map_cons]

theorem allPresent_map_some (cs : List Char) : allPresent (cs.map some) = some cs := by
  induction cs with
  | nil => rfl
  | cons c cs ih => rw [List.map_cons, allPresent, ih, Option.map_some]

/-- What a text is written as reads as that text. -/
theorem decode?_encode (s : String) : decode? (encode s) = some s := by
  rw [decode?, symbols_encode, allPresent_map_some, Option.map_some, String.ofList_toList]

/-- The bytes of a text have no ill-formed part. -/
theorem defect?_encode (index : Nat) (s : String) : defect? index (encode s) = none := by
  rw [defect?_eq_none_iff, decode?_encode]
  rfl

end Tenancy.Utf8
