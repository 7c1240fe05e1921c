/-
Progress streams: one JSON record a line, the last line perhaps without its end. A stream arrives in
chunks that may be cut anywhere; the decoder keeps what has not yet been closed by a line end.
-/
import Tenancy.Json.Decode
import Tenancy.Json.Reader

namespace Tenancy.Model.Progress

/-- One record of a stream. -/
structure Record where
  status : Option String := none
  error : Option String := none
  digest : Option String := none
  total : Option Nat := none
  completed : Option Nat := none
  deriving DecidableEq, Repr

/-- Whether a record says that the operation has succeeded. -/
def Record.isSuccess (r : Record) : Bool := r.status = some "success"

open Decoder in
def Record.decode : Decoder Record := fun w => do
  let s ← slots ["status", "error", "digest", "total", "completed"] w
  let status ← defaulted s "status" none (nullable text)
  let error ← defaulted s "error" none (nullable text)
  let digest ← defaulted s "digest" none (nullable text)
  let total ← defaulted s "total" none (nullable natural64)
  let completed ← defaulted s "completed" none (nullable natural64)
  some { status, error, digest, total, completed }

/-- Reads one record. -/
def Record.read? (bs : Bytes) : Option Record := do
  Record.decode (← Json.read? bs)

/-! ## Lines -/

def lineEnd : UInt8 := 0x0A

/-- The blanks that do not count around a record. -/
def blank (b : UInt8) : Bool :=
  b = 0x20 || b = 0x09 || b = 0x0A || b = 0x0C || b = 0x0D

/-- A line without the blanks around it. -/
def trim (line : Bytes) : Bytes :=
  ((line.dropWhile blank).reverse.dropWhile blank).reverse

/-- What a line says: nothing if it is blank, else one record. The text that cannot be read is the
error. -/
def readLine (line : Bytes) : Except Bytes (Option Record) :=
  let text := trim line
  if text.isEmpty then .ok none
  else match Record.read? text with
    | some r => .ok (some r)
    | none => .error text

/-- The bytes up to the first line end and those behind it. -/
def splitLine (bs : Bytes) : Option (Bytes × Bytes) :=
  match bs.dropWhile (· ≠ lineEnd) with
  | [] => none
  | _ :: rest => some (bs.takeWhile (· ≠ lineEnd), rest)

theorem length_splitLine {bs line rest : Bytes} (h : splitLine bs = some (line, rest)) :
    rest.length < bs.length := by
  have e : bs.takeWhile (· ≠ lineEnd) ++ bs.dropWhile (· ≠ lineEnd) = bs :=
    List.takeWhile_append_dropWhile
  simp only [splitLine] at h
  split at h
  · simp at h
  · next b rest' hd =>
    obtain ⟨-, rfl⟩ := Prod.mk.inj (Option.some.inj h)
    rw [hd] at e
    rw [← e]
    simp only [List.length_append, List.length_cons]
    omega

/-! ## The decoder -/

/-- A decoder between two chunks. -/
structure Decoder where
  /-- The bytes that no line end has closed, or that stand behind a bad line. -/
  buffer : Bytes := []
  deriving DecidableEq, Repr

/-- Takes whole lines off a buffer: their records, and what remains. A line that cannot be read is
taken off too, and ends the taking. -/
def takeLines (buffer : Bytes) : Except Bytes (List Record) × Bytes :=
  match _h : splitLine buffer with
  | none => (.ok [], buffer)
  | some (line, rest) =>
    match readLine line with
    | .error text => (.error text, rest)
    | .ok record =>
      let (records, left) := takeLines rest
      (records.map (record.toList ++ ·), left)
termination_by buffer.length
decreasing_by exact length_splitLine _h

namespace Decoder

/-- Appends a chunk and takes the lines it closes. -/
def push (d : Decoder) (chunk : Bytes) : Except Bytes (List Record) × Decoder :=
  let (records, left) := takeLines (d.buffer ++ chunk)
  (records, ⟨left⟩)

/-- Reads what is left as one line. -/
def finish (d : Decoder) : Except Bytes (Option Record) := readLine d.buffer

end Decoder
end Tenancy.Model.Progress
