/-
Reading a JSON document. The reader is a machine that takes one byte at a time: its state is the
part of the document it stands in and the arrays and objects still open around it, so a document
may nest to any depth, though what stands too deep in it cannot be used. It checks the whole
grammar; what a text or a number says is worked out when its last byte has been seen.
-/
import Tenancy.Json.Written
import Tenancy.Text.Utf8

namespace Tenancy.Json

/-! ## Numbers -/

/-- A number read so far. Digits enter the significand while it stays below `2 ^ 64`. -/
structure Numeral where
  negative : Bool
  significand : Nat := 0
  /-- Set once a digit did not fit. -/
  full : Bool := false
  /-- Set by a point or an exponent, or by a whole part that did not fit. -/
  real : Bool := false
  /-- Power of ten by which the significand has to be scaled. -/
  scale : Int := 0
  exponentNegative : Bool := false
  exponent : Nat := 0
  deriving Repr

namespace Numeral

def fits (x : Numeral) (d : Nat) : Bool :=
  !x.full && decide (x.significand * 10 + d < Nat.pow 2 64)

/-- A digit of the whole part; one that does not fit counts as a power of ten. -/
def whole (x : Numeral) (d : Nat) : Numeral :=
  if x.fits d then { x with significand := x.significand * 10 + d }
  else { x with full := true, real := true, scale := x.scale + 1 }

/-- The point starts the significand anew: a digit behind it may fit again. -/
def point (x : Numeral) : Numeral := { x with full := false, real := true }

/-- A digit of the fraction; from the first that does not fit they are dropped. -/
def fraction (x : Numeral) (d : Nat) : Numeral :=
  if x.fits d then { x with significand := x.significand * 10 + d, scale := x.scale - 1 }
  else { x with full := true }

def power (x : Numeral) (d : Nat) : Numeral := { x with exponent := x.exponent * 10 + d }

/-- The number: whole numbers of 64 bits stay whole, but minus zero and what is too small for them
becomes binary; a number beyond the binary range is none. -/
def value? (x : Numeral) : Option Number :=
  let e := x.scale + if x.exponentNegative then -(x.exponent : Int) else x.exponent
  let sized := (Binary64.ofScaled x.significand e).map fun v =>
    Number.real (if x.negative then v.neg else v)
  if x.real then sized
  else if x.negative then
    if 0 < x.significand ∧ x.significand ≤ Nat.pow 2 63 then some (.int (-x.significand)) else sized
  else some (.int x.significand)

end Numeral

/-! ## Texts -/

/-- A part of a text: a byte that stands for itself, or a 16-bit unit given by its number. -/
inductive Piece where
  | byte (b : UInt8)
  | unit (n : Nat)
  deriving Repr

/-- The bytes of a scalar value given by a unit or a pair of units. -/
def scalarBytes (n : Nat) : Bytes := String.utf8EncodeChar (Char.ofNat n)

/-- The bytes that the pieces stand for; `none` if a surrogate has no partner. -/
def pieceBytes : List Piece → Option Bytes
  | [] => some []
  | .byte b :: rest => (pieceBytes rest).map (b :: ·)
  | .unit n :: rest =>
    if n < 0xD800 ∨ 0xDFFF < n then (pieceBytes rest).map (scalarBytes n ++ ·)
    else if n < 0xDC00 then
      match rest with
      | .unit m :: rest =>
        if 0xDC00 ≤ m ∧ m ≤ 0xDFFF then
          (pieceBytes rest).map
            (scalarBytes (0x10000 + (n - 0xD800) * 0x400 + (m - 0xDC00)) ++ ·)
        else none
      | _ => none
    else none

/-- The text that the pieces stand for, if they are valid. -/
def pieceText? (pieces : List Piece) : Option String := do
  Utf8.decode? (← pieceBytes pieces)

/-- The bytes that a backslash and one letter stand for. -/
def escape? (b : UInt8) : Option UInt8 :=
  match Char.ofNat b.toNat with
  | '"' => some 0x22
  | '\\' => some 0x5C
  | '/' => some 0x2F
  | 'b' => some 0x08
  | 'f' => some 0x0C
  | 'n' => some 0x0A
  | 'r' => some 0x0D
  | 't' => some 0x09
  | _ => none

/-- The value of a hexadecimal digit. -/
def hexValue? (b : UInt8) : Option Nat :=
  let n := b.toNat
  if 0x30 ≤ n ∧ n ≤ 0x39 then some (n - 0x30)
  else if 0x41 ≤ n ∧ n ≤ 0x46 then some (n - 0x37)
  else if 0x61 ≤ n ∧ n ≤ 0x66 then some (n - 0x57)
  else none

/-- The value of a decimal digit. -/
def digitValue? (b : UInt8) : Option Nat :=
  if 0x30 ≤ b ∧ b ≤ 0x39 then some (b.toNat - 0x30) else none

/-! ## The machine -/

/-- How far a number has come. -/
inductive Place where
  | sign
  | zero
  | whole
  | point
  | fraction
  | letter
  | letterSign
  | power
  deriving DecidableEq, Repr

/-- Whether a number may end here. -/
def Place.complete : Place → Bool
  | .zero | .whole | .fraction | .power => true
  | _ => false

/-- Whether a text is a value or the key of a field. -/
inductive Role where
  | value
  | key
  deriving DecidableEq, Repr

/-- What the machine expects next. -/
inductive Mode where
  /-- A value, or the end of the array that has just been opened. -/
  | value (first : Bool)
  /-- A key, or the end of the object that has just been opened. -/
  | key (first : Bool)
  | colon
  /-- A comma or the end of the innermost array or object. -/
  | next
  /-- Nothing but blanks. -/
  | done (result : Written)
  | text (role : Role) (pieces : List Piece)
  | escape (role : Role) (pieces : List Piece)
  | hex (role : Role) (pieces : List Piece) (digits : Nat) (value : Nat)
  | word (rest : List UInt8) (result : Written)
  | number (place : Place) (numeral : Numeral)
  deriving Repr

/-- An array or object that is still open, with its items in reverse. -/
inductive Open where
  | arr (items : List Written)
  | obj (fields : List (Option String × Written)) (key : Option String)
  deriving Repr

structure Reader where
  mode : Mode
  around : List Open
  deriving Repr

namespace Reader

def start : Reader := ⟨.value false, []⟩

def blank (b : UInt8) : Bool := b = 0x20 || b = 0x0A || b = 0x09 || b = 0x0D

/-- Hands a finished value to what stands around it. -/
def finish (around : List Open) (w : Written) : Reader :=
  match around with
  | [] => ⟨.done w, []⟩
  | .arr items :: rest => ⟨.next, .arr (w :: items) :: rest⟩
  | .obj fields key :: rest => ⟨.next, .obj ((key, w) :: fields) none :: rest⟩

/-- How many arrays and objects may be open at once for the innermost to be used. -/
def nestingLimit : Nat := 127

/-- Whether what is opened inside `around` is open too deep to be used. -/
def buries (around : List Open) : Bool := !(around.drop (nestingLimit - 1)).isEmpty

/-- Closes the innermost array or object. -/
def close (around : List Open) (b : UInt8) : Option Reader :=
  match around with
  | .arr items :: rest =>
    if b = 0x5D then some (finish rest (if buries rest then .buried else .arr items.reverse))
    else none
  | .obj fields _ :: rest =>
    if b = 0x7D then some (finish rest (if buries rest then .buried else .obj fields.reverse))
    else none
  | [] => none

/-- The first byte of a value. -/
def begin? (around : List Open) (b : UInt8) : Option Reader :=
  match Char.ofNat b.toNat with
  | '[' => some ⟨.value true, .arr [] :: around⟩
  | '\x7b' => some ⟨.key true, .obj [] none :: around⟩
  | '"' => some ⟨.text .value [], around⟩
  | 't' => some ⟨.word [0x72, 0x75, 0x65] (.bool true), around⟩
  | 'f' => some ⟨.word [0x61, 0x6C, 0x73, 0x65] (.bool false), around⟩
  | 'n' => some ⟨.word [0x75, 0x6C, 0x6C] .null, around⟩
  | '-' => some ⟨.number .sign { negative := true }, around⟩
  | '0' => some ⟨.number .zero { negative := false }, around⟩
  | _ => do
    let d ← digitValue? b
    some ⟨.number .whole (Numeral.whole { negative := false } d), around⟩

/-- The place of a number after one more byte; `none` if the byte is not part of the number. -/
def extend (x : Numeral) (b : UInt8) : Place → Option (Place × Numeral)
  | .sign => do
    let d ← digitValue? b
    some (if d = 0 then .zero else .whole, x.whole d)
  | .zero => mark x b
  | .whole => (digitValue? b).map (fun d => (.whole, x.whole d)) <|> mark x b
  | .point => do some (.fraction, x.fraction (← digitValue? b))
  | .fraction => (digitValue? b).map (fun d => (.fraction, x.fraction d)) <|> letter x b
  | .letter =>
    if b = 0x2B then some (.letterSign, x)
    else if b = 0x2D then some (.letterSign, { x with exponentNegative := true })
    else do some (.power, x.power (← digitValue? b))
  | .letterSign | .power => do some (.power, x.power (← digitValue? b))
where
  letter (x : Numeral) (b : UInt8) : Option (Place × Numeral) :=
    if b = 0x65 ∨ b = 0x45 then some (.letter, { x with real := true }) else none
  mark (x : Numeral) (b : UInt8) : Option (Place × Numeral) :=
    if b = 0x2E then some (.point, x.point) else letter x b

/-- A byte after a value: a comma, the end of what stands around it, or a blank. -/
def afterValue (r : Reader) (b : UInt8) : Option Reader :=
  if blank b then some r else
  match r.mode with
  | .next =>
    if b = 0x2C then
      match r.around with
      | .arr _ :: _ => some { r with mode := .value false }
      | .obj .. :: _ => some { r with mode := .key false }
      | [] => none
    else close r.around b
  | _ => none

/-- The end of a text. -/
def closeText (around : List Open) (role : Role) (pieces : List Piece) : Option Reader :=
  let s := pieceText? pieces.reverse
  match role, around with
  | .value, _ => some (finish around (.str s))
  | .key, .obj fields _ :: rest => some ⟨.colon, .obj fields s :: rest⟩
  | .key, _ => none

/-- Takes one byte; `none` if no document goes on like this. -/
def step (r : Reader) (b : UInt8) : Option Reader :=
  match r.mode with
  | .value first =>
    if blank b then some r
    else if first && b = 0x5D then close r.around b
    else begin? r.around b
  | .key first =>
    if blank b then some r
    else if b = 0x22 then some { r with mode := .text .key [] }
    else if first then close r.around b
    else none
  | .colon =>
    if blank b then some r else if b = 0x3A then some { r with mode := .value false } else none
  | .next | .done _ => afterValue r b
  | .text role pieces =>
    if b = 0x22 then closeText r.around role pieces
    else if b = 0x5C then some { r with mode := .escape role pieces }
    else if b < 0x20 then none
    else some { r with mode := .text role (.byte b :: pieces) }
  | .escape role pieces =>
    if b = 0x75 then some { r with mode := .hex role pieces 0 0 }
    else do
      let c ← escape? b
      some { r with mode := .text role (.byte c :: pieces) }
  | .hex role pieces digits value => do
    let value := value * 16 + (← hexValue? b)
    let mode := if digits = 3 then Mode.text role (.unit value :: pieces)
      else Mode.hex role pieces (digits + 1) value
    some { r with mode }
  | .word [] _ => none
  | .word (c :: rest) result =>
    if b ≠ c then none
    else if rest.isEmpty then some (finish r.around result)
    else some { r with mode := .word rest result }
  | .number place x =>
    match extend x b place with
    | some (place, x) => some { r with mode := .number place x }
    | none => if place.complete then afterValue (finish r.around (.num x.value?)) b else none

/-- The document, if the machine may stop here. -/
def result? (r : Reader) : Option Written :=
  match r.mode, r.around with
  | .done w, _ => some w
  | .number place x, [] => if place.complete then some (.num x.value?) else none
  | _, _ => none

end Reader

/-- Reads a document. -/
def read? (bs : Bytes) : Option Written := do
  (← bs.foldlM Reader.step Reader.start).result?

/-- Reads a document as a value. -/
def parse? (bs : Bytes) : Option Json := do
  Written.toJson? (← read? bs)

end Tenancy.Json
