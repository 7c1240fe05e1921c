/-
What is printed reads back. Byte by byte the reader goes through the text of a value and comes to the value as it
is written (`read?_text`), provided that its numbers are whole ones of 64 bits and that it does not nest too deep.
-/
import Tenancy.Json.Printer
import Tenancy.Json.Reader
import Tenancy.Proofs.Text.Utf8

namespace Tenancy

/-- Whether a number is a whole one of 64 bits. -/
def Number.fits : Number → Bool
  | .int (.ofNat n) => decide (n < 2 ^ 64)
  | .int (.negSucc n) => decide (n < 2 ^ 63)
  | .real _ => false

namespace Json

open Reader (finish close afterValue)

/-! ## Runs of the machine -/

/-- Takes bytes one after the other. -/
def Reader.run (r : Reader) (bs : Bytes) : Option Reader := bs.foldlM Reader.step r

theorem run_cons (r : Reader) (b : UInt8) (bs : Bytes) : r.run (b :: bs) = (r.step b).bind (·.run bs) := rfl

theorem run_singleton (r : Reader) (b : UInt8) : r.run [b] = r.step b := by
  rw [run_cons]
  cases r.step b <;> rfl

theorem run_append (r : Reader) (bs bs' : Bytes) : r.run (bs ++ bs') = (r.run bs).bind (·.run bs') :=
  List.foldlM_append ..

theorem run_trans {r r' : Reader} {bs bs' : Bytes} {x : Option Reader} (h : r.run bs = some r') (h' : r'.run bs' = x) :
    r.run (bs ++ bs') = x := by
  rw [run_append, h, ← h']
  rfl

/-! ## Texts -/

/-- The bytes of some characters. -/
def bytes (cs : List Char) : Bytes := cs.flatMap String.utf8EncodeChar

theorem bytes_append (cs cs' : List Char) : bytes (cs ++ cs') = bytes cs ++ bytes cs' := List.flatMap_append

theorem encode_eq_bytes (s : String) : Utf8.encode s = bytes s.toList := rfl

/-- Inside a text the reader takes some characters for pieces that stand for the given bytes. -/
def Spells (cs : List Char) (bs : Bytes) : Prop :=
  ∃ ps, (∀ role pieces around, Reader.run ⟨.text role pieces, around⟩ (bytes cs) =
      some ⟨.text role (ps.reverse ++ pieces), around⟩) ∧
    ∀ rest, pieceBytes (ps ++ rest) = (pieceBytes rest).map (bs ++ ·)

theorem spells_nil : Spells [] [] :=
  ⟨[], fun _ _ _ => rfl, fun rest => by simp⟩

theorem Spells.append {cs cs' : List Char} {bs bs' : Bytes} (h : Spells cs bs) (h' : Spells cs' bs') :
    Spells (cs ++ cs') (bs ++ bs') := by
  obtain ⟨ps, hrun, hps⟩ := h
  obtain ⟨ps', hrun', hps'⟩ := h'
  refine ⟨ps ++ ps', fun role pieces around => ?_, fun rest => ?_⟩
  · rw [bytes_append, run_trans (hrun role pieces around) (hrun' role _ around), List.reverse_append, List.append_assoc]
  · rw [List.append_assoc, hps, hps', Option.map_map]
    simp only [Function.comp_def, List.append_assoc]

/-! ### Characters that stand for themselves -/

/-- A byte that stands for itself in a text. -/
def PlainByte (b : UInt8) : Prop := b ≠ 0x22 ∧ b ≠ 0x5C ∧ ¬b < 0x20

theorem run_plain {bs : Bytes} (h : ∀ b ∈ bs, PlainByte b) (role : Role) (pieces : List Piece) (around : List Open) :
    Reader.run ⟨.text role pieces, around⟩ bs = some ⟨.text role ((bs.map Piece.byte).reverse ++ pieces), around⟩ := by
  induction bs generalizing pieces with
  | nil => rfl
  | cons b bs ih =>
    obtain ⟨⟨h1, h2, h3⟩, hbs⟩ := List.forall_mem_cons.1 h
    rw [run_cons, Reader.step]
    simp only [if_neg h1, if_neg h2, if_neg h3, Option.bind_some, ih hbs, List.map_cons, List.reverse_cons,
      List.append_assoc, List.singleton_append]

theorem pieceBytes_plain (bs : Bytes) (rest : List Piece) :
    pieceBytes (bs.map Piece.byte ++ rest) = (pieceBytes rest).map (bs ++ ·) := by
  induction bs with
  | nil => simp
  | cons b bs ih =>
    rw [List.map_cons, List.cons_append, pieceBytes, ih, Option.map_map]
    rfl

theorem plainByte_ofNat {n : Nat} (h : n < 256) (h1 : n ≠ 0x22) (h2 : n ≠ 0x5C) (h3 : 0x20 ≤ n) :
    PlainByte (UInt8.ofNat n) := by
  have hn := Utf8.toNat_ofNat_of_lt h
  refine ⟨?_, ?_, ?_⟩
  · rintro he
    rw [he] at hn
    exact h1 hn.symm
  · rintro he
    rw [he] at hn
    exact h2 hn.symm
  · rw [UInt8.lt_iff_toNat_lt, hn]
    exact Nat.not_lt.2 h3

/-- The bytes of a character that is not escaped stand for themselves. -/
theorem plainByte_encodeChar {c : Char} (h1 : c ≠ '"') (h2 : c ≠ '\\') (h3 : ¬c.toNat < 0x20) :
    ∀ b ∈ String.utf8EncodeChar c, PlainByte b := by
  have hquote : c.val.toNat ≠ 0x22 := fun h => h1 (Char.ext (UInt32.toNat_inj.1 h))
  have hslash : c.val.toNat ≠ 0x5C := fun h => h2 (Char.ext (UInt32.toNat_inj.1 h))
  have hcontrol : ¬c.val.toNat < 0x20 := h3
  -- every byte of a longer character is at least 128
  have high : ∀ {n}, n < 256 → 0x80 ≤ n → PlainByte (UInt8.ofNat n) := fun hn hlow =>
    plainByte_ofNat hn (by omega) (by omega) (by omega)
  rw [String.utf8EncodeChar]
  generalize c.val.toNat = v at hquote hslash hcontrol
  split_ifs <;> simp only [List.forall_mem_cons, List.not_mem_nil, false_implies, implies_true, and_true]
  · exact plainByte_ofNat (by omega) hquote hslash (by omega)
  · exact ⟨high (by omega) (by omega), high (by omega) (by omega)⟩
  · exact ⟨high (by omega) (by omega), high (by omega) (by omega), high (by omega) (by omega)⟩
  · exact ⟨high (by omega) (by omega), high (by omega) (by omega), high (by omega) (by omega),
      high (by omega) (by omega)⟩

theorem spells_plain {c : Char} (h1 : c ≠ '"') (h2 : c ≠ '\\') (h3 : ¬c.toNat < 0x20) :
    Spells [c] (String.utf8EncodeChar c) := by
  refine ⟨(String.utf8EncodeChar c).map .byte, fun role pieces around => ?_, pieceBytes_plain _⟩
  rw [bytes, List.flatMap_singleton]
  exact run_plain (plainByte_encodeChar h1 h2 h3) role pieces around

/-! ### Escaped characters -/

/-- A character of one byte that is escaped by a letter. -/
theorem spells_letter {cs : List Char} {b : UInt8} (h : ∀ role pieces around,
    Reader.run ⟨.text role pieces, around⟩ (bytes cs) = some ⟨.text role (.byte b :: pieces), around⟩) :
    Spells cs [b] :=
  ⟨[.byte b], h, fun _ => rfl⟩

/-- The digit of a number below sixteen is read as that number. -/
theorem hexDigit_bytes : ∀ d < 16, ∃ b, bytes [hexDigit d] = [b] ∧ hexValue? b = some d := by
  intro d hd
  interval_cases d <;> exact ⟨_, rfl, rfl⟩

theorem step_hex {b : UInt8} {v : Nat} (hv : hexValue? b = some v) (role : Role) (pieces : List Piece)
    (around : List Open) (digits value : Nat) : Reader.step ⟨.hex role pieces digits value, around⟩ b =
      some ⟨if digits = 3 then .text role (.unit (value * 16 + v) :: pieces)
        else .hex role pieces (digits + 1) (value * 16 + v), around⟩ := by
  rw [Reader.step]
  simp only [hv]
  rfl

/-- A control is given by its number. -/
theorem spells_control {c : Char} (h : c.toNat < 0x20) :
    Spells ['\\', 'u', '0', '0', hexDigit (c.toNat / 16), hexDigit (c.toNat % 16)] (String.utf8EncodeChar c) := by
  obtain ⟨b, hb, hv⟩ := hexDigit_bytes (c.toNat / 16) (by omega)
  obtain ⟨b', hb', hv'⟩ := hexDigit_bytes (c.toNat % 16) (by omega)
  have hvalue : c.toNat / 16 * 16 + c.toNat % 16 = c.toNat := by omega
  have hspelt : bytes ['\\', 'u', '0', '0', hexDigit (c.toNat / 16), hexDigit (c.toNat % 16)] =
      [0x5C, 0x75, 0x30, 0x30, b, b'] := by
    show bytes (['\\', 'u', '0', '0'] ++ ([hexDigit (c.toNat / 16)] ++ [hexDigit (c.toNat % 16)])) = _
    rw [bytes_append, bytes_append, hb, hb']
    rfl
  refine ⟨[.unit c.toNat], fun role pieces around => ?_, fun rest => ?_⟩
  · rw [hspelt]
    show (Reader.step ⟨.hex role pieces 2 0, around⟩ b).bind (·.run [b']) = _
    rw [step_hex hv]
    show (Reader.step ⟨.hex role pieces 3 (0 * 16 + c.toNat / 16), around⟩ b').bind (·.run []) = _
    rw [step_hex hv', Nat.zero_mul, Nat.zero_add, hvalue]
    rfl
  · have hscalar : c.toNat < 0xD800 ∨ 0xDFFF < c.toNat := .inl (by omega)
    show pieceBytes (.unit c.toNat :: rest) = _
    rw [pieceBytes.eq_def]
    simp only [if_pos hscalar, scalarBytes, Char.ofNat_toNat]

theorem spells_escapedChar (c : Char) : Spells (escapedChar c) (String.utf8EncodeChar c) := by
  by_cases hs : c ∈ ['"', '\\', '\n', '\r', '\t', '\x08', '\x0c']
  · simp only [List.mem_cons, List.not_mem_nil, or_false] at hs
    rcases hs with rfl | rfl | rfl | rfl | rfl | rfl | rfl <;> exact spells_letter fun _ _ _ => rfl
  · simp only [List.mem_cons, List.not_mem_nil, or_false, not_or] at hs
    obtain ⟨h1, h2, h3, h4, h5, h6, h7⟩ := hs
    rw [escapedChar, if_neg h1, if_neg h2, if_neg h3, if_neg h4, if_neg h5, if_neg h6, if_neg h7]
    split_ifs with h8
    · exact spells_control h8
    · exact spells_plain h1 h2 h8

theorem spells_escaped (cs : List Char) : Spells (cs.flatMap escapedChar) (bytes cs) := by
  induction cs with
  | nil => exact spells_nil
  | cons c cs ih => exact (spells_escapedChar c).append ih

/-! ### Quoted texts -/

/-- Behind the opening quote, the text is read up to the closing one. -/
theorem run_quoted (role : Role) (around : List Open) (s : String) :
    ∃ pieces, pieceText? pieces.reverse = some s ∧
      Reader.run ⟨.text role [], around⟩ (bytes (s.toList.flatMap escapedChar) ++ [0x22]) =
        Reader.closeText around role pieces := by
  obtain ⟨ps, hrun, hps⟩ := spells_escaped s.toList
  refine ⟨ps.reverse, ?_, ?_⟩
  · have hb := hps []
    rw [List.append_nil] at hb
    rw [List.reverse_reverse, pieceText?, hb, pieceBytes, Option.map_some, List.append_nil, ← encode_eq_bytes]
    exact Utf8.decode?_encode s
  · rw [run_append, hrun, Option.bind_some, run_singleton, List.append_nil]
    rfl

theorem encode_quotedText (s : String) :
    Utf8.encode (quotedText s) = 0x22 :: (bytes (s.toList.flatMap escapedChar) ++ [0x22]) := by
  rw [quotedText, Utf8.encode_append, Utf8.encode_append, encode_eq_bytes (String.ofList (s.toList.flatMap escapedChar)),
    String.toList_ofList]
  rfl

theorem run_str (first : Bool) (around : List Open) (s : String) :
    Reader.run ⟨.value first, around⟩ (Utf8.encode (quotedText s)) = some (finish around (.str (some s))) := by
  obtain ⟨pieces, htext, hrun⟩ := run_quoted .value around s
  have hstep : Reader.step ⟨.value first, around⟩ 0x22 = some ⟨.text .value [], around⟩ := by cases first <;> rfl
  rw [encode_quotedText, run_cons, hstep, Option.bind_some, hrun, ← htext]
  rfl

theorem run_key (first : Bool) (around : List Open) (fields : List (Option String × Written)) (k : Option String)
    (s : String) : Reader.run ⟨.key first, .obj fields k :: around⟩ (Utf8.encode (quotedText s)) =
      some ⟨.colon, .obj fields (some s) :: around⟩ := by
  obtain ⟨pieces, htext, hrun⟩ := run_quoted .key (.obj fields k :: around) s
  rw [encode_quotedText, run_cons]
  show (some (Reader.mk (.text .key []) (.obj fields k :: around))).bind _ = _
  rw [Option.bind_some, hrun, ← htext]
  rfl

/-! ## Numbers -/

/-- The byte of a decimal digit. -/
def digit (d : Nat) : UInt8 := UInt8.ofNat (0x30 + d)

theorem bytes_digitChar : ∀ d < 10, bytes [Nat.digitChar d] = [digit d] := by decide

theorem digitValue?_digit : ∀ d < 10, digitValue? (digit d) = some d := by decide

theorem step_digit (first : Bool) (around : List Open) {d : Nat} (hd : d < 10) (hpos : 0 < d) :
    Reader.step ⟨.value first, around⟩ (digit d) =
      some ⟨.number .whole { negative := false, significand := d }, around⟩ := by
  interval_cases d <;> cases first <;> rfl

theorem whole_fits {x : Numeral} {d : Nat} (hf : x.full = false) (h : x.significand * 10 + d < Nat.pow 2 64) :
    x.whole d = { x with significand := x.significand * 10 + d } := by
  rw [Numeral.whole, if_pos]
  rw [Numeral.fits, hf, decide_eq_true h]
  rfl

/-- From a state that takes a first digit, the digits of a number are read as that number. -/
theorem run_digits {r : Reader} {x : Numeral} {around : List Open} (hx : x.full = false)
    (hfirst : ∀ d < 10, 0 < d → r.step (digit d) = some ⟨.number .whole { x with significand := d }, around⟩) :
    ∀ n, 0 < n → n < Nat.pow 2 64 → r.run (bytes (Nat.toDigits 10 n)) =
      some ⟨.number .whole { x with significand := n }, around⟩ := by
  intro n
  induction n using Nat.strong_induction_on with
  | _ n ih =>
    intro hpos hlt
    rw [Nat.toDigits_eq_if (by decide)]
    split
    next hsmall => rw [bytes_digitChar n hsmall, run_singleton, hfirst n hsmall hpos]
    next hlarge =>
      have hlast : n % 10 < 10 := Nat.mod_lt _ (by decide)
      have hn : n / 10 * 10 + n % 10 = n := Nat.div_add_mod' n 10
      have hless : n / 10 < n := Nat.div_lt_self hpos (by decide)
      have htens : 0 < n / 10 := Nat.div_pos (Nat.not_lt.1 hlarge) (by decide)
      rw [bytes_append, bytes_digitChar _ hlast]
      refine run_trans (ih (n / 10) hless htens (Nat.lt_trans hless hlt)) ?_
      rw [run_singleton, Reader.step]
      simp only [Reader.extend, digitValue?_digit _ hlast, Option.map_some]
      rw [whole_fits (x := { x with significand := n / 10 }) hx (by rw [hn]; exact hlt)]
      simp only [hn]
      rfl

theorem encode_toString (n : Nat) : Utf8.encode (toString n) = bytes (Nat.toDigits 10 n) := by
  rw [encode_eq_bytes, Nat.toString_eq_ofList_toDigits, String.toList_ofList]

/-- Having read the text of a value, the machine has the value, or a number that may still go on. -/
inductive Settles (around : List Open) (w : Written) : Reader → Prop
  | finished : Settles around w (finish around w)
  | number {place : Place} {x : Numeral} : place = .zero ∨ place = .whole → w = .num x.value? →
      Settles around w ⟨.number place x, around⟩

theorem run_natural (first : Bool) (around : List Open) {n : Nat} (h : n < Nat.pow 2 64) :
    ∃ r, Reader.run ⟨.value first, around⟩ (Utf8.encode (toString n)) = some r ∧
      Settles around (.num (some (.int n))) r := by
  rw [encode_toString]
  cases Nat.eq_zero_or_pos n with
  | inl hz =>
    -- zero is a number of its own
    subst hz
    exact ⟨⟨.number .zero { negative := false }, around⟩, by cases first <;> rfl, .number (.inl rfl) rfl⟩
  | inr hpos =>
    refine ⟨_, run_digits (x := { negative := false }) rfl ?_ n hpos h, .number (.inr rfl) rfl⟩
    exact fun d hd hd' => step_digit first around hd hd'

theorem run_negative (first : Bool) (around : List Open) {n : Nat} (h : n < Nat.pow 2 63) :
    ∃ r, Reader.run ⟨.value first, around⟩ (Utf8.encode ("-" ++ toString (n + 1))) = some r ∧
      Settles around (.num (some (.int (.negSucc n)))) r := by
  have hsign : Reader.step ⟨.value first, around⟩ 0x2D = some ⟨.number .sign { negative := true }, around⟩ := by
    cases first <;> rfl
  have hlt : n + 1 < Nat.pow 2 64 := Nat.lt_of_le_of_lt h (by decide)
  refine ⟨⟨.number .whole { negative := true, significand := n + 1 }, around⟩, ?_, .number (.inr rfl) ?_⟩
  · rw [Utf8.encode_append, encode_toString]
    show (Reader.step ⟨.value first, around⟩ 0x2D).bind (·.run (bytes (Nat.toDigits 10 (n + 1)))) = _
    rw [hsign, Option.bind_some]
    refine run_digits (x := { negative := true }) rfl (fun d hd hpos => ?_) (n + 1) (Nat.succ_pos n) hlt
    interval_cases d <;> rfl
  · have hbound : 0 < n + 1 ∧ n + 1 ≤ Nat.pow 2 63 := ⟨Nat.succ_pos n, h⟩
    simp only [Numeral.value?, Bool.false_eq_true, if_false, if_true, if_pos hbound]
    rfl

theorem run_number (first : Bool) (around : List Open) {n : Number} (h : n.fits = true) :
    ∃ r, Reader.run ⟨.value first, around⟩ (Utf8.encode n.text) = some r ∧ Settles around (.num (some n)) r := by
  match n, h with
  | .int (.ofNat n), h => exact run_natural first around (of_decide_eq_true h)
  | .int (.negSucc n), h => exact run_negative first around (of_decide_eq_true h)

/-! ## Ends of values -/

/-- A byte that ends an item of an array or an object. -/
def EndsItem (b : UInt8) : Prop := b = 0x2C ∨ b = 0x5D ∨ b = 0x7D

section

variable {around : List Open} {w : Written} {r : Reader}

/-- Behind the text of a value the machine goes on as behind the value. -/
theorem Settles.step (h : Settles around w r) {b : UInt8} (hb : EndsItem b) :
    r.step b = afterValue (finish around w) b := by
  cases h with
  | finished => rcases around with _ | ⟨_ | _, _⟩ <;> rfl
  | number hplace hw =>
    subst hw
    rcases hplace with rfl | rfl <;> rcases hb with rfl | rfl | rfl <;> rfl

theorem Settles.result (h : Settles [] w r) : r.result? = some w := by
  cases h with
  | finished => rfl
  | number hplace hw =>
    subst hw
    rcases hplace with rfl | rfl <;> rfl

theorem Settles.end_item {items : List Written} (h : Settles (.arr items :: around) w r) :
    r.step 0x2C = some ⟨.value false, .arr (w :: items) :: around⟩ :=
  h.step (.inl rfl)

theorem Settles.end_field {fields : List (Option String × Written)} {key : Option String}
    (h : Settles (.obj fields key :: around) w r) :
    r.step 0x2C = some ⟨.key false, .obj ((key, w) :: fields) none :: around⟩ :=
  h.step (.inl rfl)

theorem buries_eq_false (h : around.length < 127) : Reader.buries around = false := by
  have hdrop : around.drop (Reader.nestingLimit - 1) = [] := List.drop_eq_nil_of_le (Nat.le_of_lt_succ h)
  rw [Reader.buries, hdrop]
  rfl

theorem close_arr (items : List Written) (hroom : around.length < 127) :
    close (.arr items :: around) 0x5D = some (finish around (.arr items.reverse)) := by
  simp only [close, buries_eq_false hroom, Bool.false_eq_true, if_false, if_true]

theorem close_obj (fields : List (Option String × Written)) (key : Option String) (hroom : around.length < 127) :
    close (.obj fields key :: around) 0x7D = some (finish around (.obj fields.reverse)) := by
  simp only [close, buries_eq_false hroom, Bool.false_eq_true, if_false, if_true]

theorem Settles.close_arr {items : List Written} (h : Settles (.arr items :: around) w r) (hroom : around.length < 127) :
    r.step 0x5D = some (finish around (.arr (w :: items).reverse)) :=
  (h.step (.inr (.inl rfl))).trans (Json.close_arr _ hroom)

theorem Settles.close_obj {fields : List (Option String × Written)} {key : Option String}
    (h : Settles (.obj fields key :: around) w r) (hroom : around.length < 127) :
    r.step 0x7D = some (finish around (.obj ((key, w) :: fields).reverse)) :=
  (h.step (.inr (.inr rfl))).trans (Json.close_obj _ none hroom)

end

/-! ## Values -/

theorem intercalate_cons {sep s : String} {ss : List String} (h : ss ≠ []) :
    sep.intercalate (s :: ss) = s ++ sep ++ sep.intercalate ss := by
  cases ss with
  | nil => exact absurd rfl h
  | cons s' ss => exact String.intercalate_cons_cons

theorem itemTexts_ne {js : List Json} (h : js ≠ []) : itemTexts js ≠ [] := by
  cases js with
  | nil => exact absurd rfl h
  | cons j js => exact List.cons_ne_nil _ _

theorem fieldTexts_ne {fs : List (String × Json)} (h : fs ≠ []) : fieldTexts fs ≠ [] := by
  cases fs with
  | nil => exact absurd rfl h
  | cons f fs => exact List.cons_ne_nil _ _

mutual

/-- Whether every number of a value is a whole one of 64 bits, and it nests no deeper than `room`. -/
def fits : Json → Nat → Bool
  | .num n, _ => n.fits
  | .arr items, room => decide (0 < room) && itemsFit items (room - 1)
  | .obj fields, room => decide (0 < room) && fieldsFit fields (room - 1)
  | _, _ => true

def itemsFit : List Json → Nat → Bool
  | [], _ => true
  | j :: rest, room => fits j room && itemsFit rest room

def fieldsFit : List (String × Json) → Nat → Bool
  | [], _ => true
  | (_, j) :: rest, room => fits j room && fieldsFit rest room

end

mutual

/-- The text of a value is read as the value. -/
theorem run_text (j : Json) (first : Bool) (around : List Open) (h : j.fits (127 - around.length) = true) :
    ∃ r, Reader.run ⟨.value first, around⟩ (Utf8.encode j.text) = some r ∧ Settles around (.ofJson j) r := by
  match j, h with
  | .null, _ => exact ⟨_, by cases first <;> rfl, .finished⟩
  | .bool true, _ => exact ⟨_, by cases first <;> rfl, .finished⟩
  | .bool false, _ => exact ⟨_, by cases first <;> rfl, .finished⟩
  | .num n, h => exact run_number first around h
  | .str s, _ => exact ⟨_, run_str first around s, .finished⟩
  | .arr items, h =>
    rw [fits, Bool.and_eq_true, decide_eq_true_eq, Nat.sub_right_comm] at h
    have hroom : around.length < 127 := Nat.lt_of_sub_pos h.1
    have hopen : Reader.step ⟨.value first, around⟩ 0x5B = some ⟨.value true, .arr [] :: around⟩ := by
      cases first <;> rfl
    refine ⟨finish around (.ofJson (.arr items)), ?_, .finished⟩
    rw [text, Utf8.encode_append, Utf8.encode_append]
    show (Reader.step ⟨.value first, around⟩ 0x5B).bind (·.run (_ ++ [0x5D])) = _
    rw [hopen, Option.bind_some]
    by_cases hi : items = []
    · subst hi
      exact close_arr [] hroom
    · obtain ⟨r, w, items', hrun, hr, hread⟩ := run_items items hi true [] around h.2
      refine run_trans hrun ?_
      rw [run_singleton, hr.close_arr hroom, hread]
      rfl
  | .obj fields, h =>
    rw [fits, Bool.and_eq_true, decide_eq_true_eq, Nat.sub_right_comm] at h
    have hroom : around.length < 127 := Nat.lt_of_sub_pos h.1
    have hopen : Reader.step ⟨.value first, around⟩ 0x7B = some ⟨.key true, .obj [] none :: around⟩ := by
      cases first <;> rfl
    refine ⟨finish around (.ofJson (.obj fields)), ?_, .finished⟩
    rw [text, Utf8.encode_append, Utf8.encode_append]
    show (Reader.step ⟨.value first, around⟩ 0x7B).bind (·.run (_ ++ [0x7D])) = _
    rw [hopen, Option.bind_some]
    by_cases hf : fields = []
    · subst hf
      exact close_obj [] none hroom
    · obtain ⟨r, k, w, fields', hrun, hr, hread⟩ := run_fields fields hf true [] around h.2
      refine run_trans hrun ?_
      rw [run_singleton, hr.close_obj hroom, hread]
      rfl

/-- The texts of items are read one after the other, up to the end of the last. -/
theorem run_items (js : List Json) (hjs : js ≠ []) (first : Bool) (items : List Written) (around : List Open)
    (h : itemsFit js (126 - around.length) = true) :
    ∃ r w items', Reader.run ⟨.value first, .arr items :: around⟩
        (Utf8.encode (String.intercalate "," (itemTexts js))) = some r ∧
      Settles (.arr items' :: around) w r ∧ (w :: items').reverse = items.reverse ++ Written.ofItems js := by
  match js, hjs, h with
  | j :: rest, _, h =>
    rw [itemsFit, Bool.and_eq_true] at h
    obtain ⟨r, hrun, hr⟩ := run_text j first (.arr items :: around)
      (by rw [List.length_cons, Nat.add_comm, Nat.sub_add_eq]; exact h.1)
    by_cases hrest : rest = []
    · subst hrest
      refine ⟨r, .ofJson j, items, ?_, hr, List.reverse_cons⟩
      rw [itemTexts, itemTexts, String.intercalate_singleton, hrun]
    · obtain ⟨r', w, items', hrun', hr', hread⟩ := run_items rest hrest false (.ofJson j :: items) around h.2
      refine ⟨r', w, items', ?_, hr', ?_⟩
      · rw [itemTexts, intercalate_cons (itemTexts_ne hrest), Utf8.encode_append, Utf8.encode_append, List.append_assoc]
        refine run_trans hrun ?_
        show (r.step 0x2C).bind (·.run (Utf8.encode (String.intercalate "," (itemTexts rest)))) = _
        rw [hr.end_item, Option.bind_some, hrun']
      · rw [hread, List.reverse_cons, List.append_assoc]
        rfl

/-- The texts of fields are read one after the other, up to the end of the last. -/
theorem run_fields (fs : List (String × Json)) (hfs : fs ≠ []) (first : Bool)
    (fields : List (Option String × Written)) (around : List Open) (h : fieldsFit fs (126 - around.length) = true) :
    ∃ r k w fields', Reader.run ⟨.key first, .obj fields none :: around⟩
        (Utf8.encode (String.intercalate "," (fieldTexts fs))) = some r ∧
      Settles (.obj fields' k :: around) w r ∧
      ((k, w) :: fields').reverse = fields.reverse ++ Written.ofFields fs := by
  match fs, hfs, h with
  | (key, j) :: rest, _, h =>
    rw [fieldsFit, Bool.and_eq_true] at h
    obtain ⟨r, hrun, hr⟩ := run_text j false (.obj fields (some key) :: around)
      (by rw [List.length_cons, Nat.add_comm, Nat.sub_add_eq]; exact h.1)
    have hfield : Reader.run ⟨.key first, .obj fields none :: around⟩ (Utf8.encode (quotedText key ++ ":" ++ j.text)) =
        some r := by
      rw [Utf8.encode_append, Utf8.encode_append, List.append_assoc]
      exact run_trans (run_key first around fields none key) hrun
    by_cases hrest : rest = []
    · subst hrest
      refine ⟨r, some key, .ofJson j, fields, ?_, hr, List.reverse_cons⟩
      rw [fieldTexts, fieldTexts, String.intercalate_singleton, hfield]
    · obtain ⟨r', k, w, fields', hrun', hr', hread⟩ :=
        run_fields rest hrest false ((some key, .ofJson j) :: fields) around h.2
      refine ⟨r', k, w, fields', ?_, hr', ?_⟩
      · rw [fieldTexts, intercalate_cons (fieldTexts_ne hrest), Utf8.encode_append _ (String.intercalate "," _),
          Utf8.encode_append _ ",", List.append_assoc]
        refine run_trans hfield ?_
        show (r.step 0x2C).bind (·.run (Utf8.encode (String.intercalate "," (fieldTexts rest)))) = _
        rw [hr.end_field, Option.bind_some, hrun']
      · rw [hread, List.reverse_cons, List.append_assoc]
        rfl

end

/-- What is printed reads back. -/
theorem read?_text {j : Json} (h : j.fits 127 = true) : read? (Utf8.encode j.text) = some (.ofJson j) := by
  obtain ⟨r, hrun, hr⟩ := run_text j false [] h
  show (Reader.run Reader.start (Utf8.encode j.text)).bind Reader.result? = _
  rw [Reader.start, hrun, Option.bind_some, hr.result]

end Json
end Tenancy
