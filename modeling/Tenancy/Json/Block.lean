/-
The block layout of a JSON value, as configuration files use it: a line for each field and item, the
items of a field at the field's own indentation, and quotes only around texts that would otherwise
be taken for something else. Texts are expected to be on one line and free of controls.
-/
import Tenancy.Json.Printer

namespace Tenancy.Json.Block

/-- Words that mean a truth value or nothing. -/
def reserved : List String :=
  ["null", "Null", "NULL", "~", "true", "True", "TRUE", "false", "False", "FALSE", "y", "Y", "n", "N",
    "yes", "Yes", "YES", "no", "No", "NO", "on", "On", "ON", "off", "Off", "OFF"]

/-- Characters that mean something at the start of a text. -/
def indicators : List Char :=
  ['-', '?', ':', ',', '[', ']', '\x7b', '\x7d', '#', '&', '*', '!', '|', '>', '\'', '"', '%', '@', '\x60',
    ' ']

/-- Whether a colon before a blank, a blank before a hash, or a colon at the end stands in a
text. -/
def breaks : List Char → Bool
  | [] => false
  | [c] => c = ':' || c = ' '
  | c :: d :: rest => (c = ':' && d = ' ') || (c = ' ' && d = '#') || breaks (d :: rest)

/-- Whether a text stands for itself without quotes. -/
def plain (s : String) : Bool :=
  match s.toList with
  | [] => false
  | c :: rest =>
    !reserved.contains s && !breaks (c :: rest) && !c.isDigit && c ≠ '+' &&
      !(indicators.contains c) && !(c = '.' && rest.head?.any Char.isDigit)

/-- A text inside a line; a single quote is doubled inside quotes. -/
def scalarText (s : String) : String :=
  if plain s then s
  else "'" ++ String.ofList (s.toList.flatMap fun c => if c = '\'' then ['\'', '\''] else [c]) ++ "'"

/-- Puts the first line behind a dash and the others below it. -/
def dashed : List String → List String
  | [] => []
  | first :: rest => ("- " ++ first) :: rest.map ("  " ++ ·)

/-- A value that fits behind its key. -/
def inline? : Json → Option String
  | .arr [] => some "[]"
  | .obj [] => some "\x7b\x7d"
  | .arr _ | .obj _ => none
  | .str s => some (scalarText s)
  | .null => some "null"
  | .bool b => some (if b then "true" else "false")
  | .num n => some n.text

mutual

/-- The lines of a value. -/
def lines : Json → List String
  | .arr [] => ["[]"]
  | .obj [] => ["\x7b\x7d"]
  | .arr items => itemLines items
  | .obj fields => fieldLines fields
  | .str s => [scalarText s]
  | .null => ["null"]
  | .bool b => [if b then "true" else "false"]
  | .num n => [n.text]

def itemLines : List Json → List String
  | [] => []
  | j :: rest => dashed (lines j) ++ itemLines rest

def fieldLines : List (String × Json) → List String
  | [] => []
  | (key, j) :: rest =>
    (match inline? j, j with
      | some s, _ => [scalarText key ++ ": " ++ s]
      | none, .arr _ => (scalarText key ++ ":") :: lines j
      | none, _ => (scalarText key ++ ":") :: (lines j).map ("  " ++ ·)) ++ fieldLines rest

end

/-- The block text of a value, each line ended. -/
def text (j : Json) : String :=
  String.join ((lines j).map (· ++ "\n"))

end Tenancy.Json.Block
