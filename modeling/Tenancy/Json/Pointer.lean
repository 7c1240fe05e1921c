/-
JSON pointers: a path of keys and positions, each after a slash, with `~1` for a slash and `~0` for
a tilde inside a key.
-/
import Tenancy.Json.Basic
import Tenancy.Text.Numeral

namespace Tenancy.Json.Pointer

/-- Restores slashes and tildes in one part of a pointer. -/
def unescape : List Char → List Char
  | '~' :: '1' :: rest => '/' :: unescape rest
  | '~' :: '0' :: rest => '~' :: unescape rest
  | c :: rest => c :: unescape rest
  | [] => []

/-- Cuts a text at its slashes. -/
def split (cs : List Char) : List (List Char) :=
  cs.foldr (fun c parts =>
    if c = '/' then [] :: parts
    else match parts with
      | [] => [[c]]
      | part :: rest => (c :: part) :: rest) [[]]

/-- A position: digits without superfluous leading zeros. -/
def index? (part : List Char) : Option Nat :=
  match part with
  | '0' :: _ :: _ => none
  | _ => Numeral.digits? part

/-- The part of `j` that one step leads to. -/
def follow (j : Json) (part : List Char) : Option Json :=
  match j with
  | .obj fields => Dict.get? fields (String.ofList part)
  | .arr items => do items[← index? part]?
  | _ => none

end Pointer

/-- The part of a value at a pointer: the whole at the empty one, and nothing at a text that is no
pointer or leads nowhere. -/
def pointer? (j : Json) (path : String) : Option Json :=
  match path.toList with
  | [] => some j
  | '/' :: rest => ((Pointer.split rest).map Pointer.unescape).foldlM Pointer.follow j
  | _ => none

end Tenancy.Json
