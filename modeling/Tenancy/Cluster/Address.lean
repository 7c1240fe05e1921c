/-
Where the objects of a cluster are found. Objects lie in collections; the address of an object is
the path of its collection with its name behind it, and a name is not escaped on the way, so what it
contains decides what becomes of the address.
-/
import Tenancy.Cluster.Error
import Tenancy.Object.Child

namespace Tenancy.Cluster

/-- The objects of one sort, in one namespace or in the cluster as a whole. -/
structure Collection where
  apiVersion : String
  plural : String
  ns : Option String := none
  deriving DecidableEq, Repr

namespace Collection

/-- The core of the API has no group, and a root of its own. -/
def root (apiVersion : String) : String :=
  if apiVersion.toList.contains '/' then "/apis/" else "/api/"

def path (c : Collection) : String :=
  root c.apiVersion ++ c.apiVersion ++
    (match c.ns with
      | none => "/"
      | some ns => "/namespaces/" ++ ns ++ "/") ++ c.plural

/-- The path of the object called `name`. -/
def objectPath (c : Collection) (name : String) : String := c.path ++ "/" ++ name

def ofKind (kind : Object.Kind) (ns : Option String) : Collection :=
  ⟨kind.apiVersion, kind.plural, ns⟩

/-- The collection of all namespaces. -/
def namespaces : Collection := ofKind .namespace none

end Collection

/-! ## Targets -/

/-- A path and the query behind it. -/
structure Target where
  path : String
  query : String
  deriving DecidableEq, Repr

namespace Target

/-- The characters that a path takes unescaped. -/
def isPathChar (c : Char) : Bool :=
  let n := c.toNat
  decide (n = 0x21 ∨ n = 0x22 ∨ 0x24 ≤ n ∧ n ≤ 0x3B ∨ n = 0x3D ∨ 0x40 ≤ n ∧ n ≤ 0x5F ∨
    0x61 ≤ n ∧ n ≠ 0x7F)

/-- The characters that a query takes unescaped. -/
def isQueryChar (c : Char) : Bool :=
  let n := c.toNat
  decide (n = 0x21 ∨ 0x24 ≤ n ∧ n ≤ 0x3B ∨ n = 0x3D ∨ 0x3F ≤ n ∧ n ≠ 0x7F)

/-- The bytes that a target may have. -/
def maxSize : Nat := 65534

/-- Empty parameters are not written before the first. -/
def dropEmptyParameters (query : List Char) : List Char := query.dropWhile (· = '&')

/-- Reads a target. A question mark starts the query, and what a number sign starts is cut off. -/
def ofText (text : String) : Except Malformed Target :=
  if maxSize < text.utf8ByteSize then .error .tooLong
  else
    let used := text.toList.takeWhile (· ≠ '#')
    let path := used.takeWhile (· ≠ '?')
    let query := (used.dropWhile (· ≠ '?')).drop 1
    if path.all isPathChar && query.all isQueryChar then
      .ok ⟨String.ofList path, String.ofList (dropEmptyParameters query)⟩
    else .error .uri

end Target
end Tenancy.Cluster
