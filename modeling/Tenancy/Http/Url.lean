/-
Addresses of servers: a scheme, a host, perhaps a port, and what is asked for there. An address is
written in one way only: scheme and host in small letters, the usual port left out, and a slash where
nothing is asked for.
-/
import Tenancy.Text.Numeral

namespace Tenancy.Http

structure Url where
  scheme : String
  host : String
  /-- The port, unless it is the usual one of the scheme. -/
  port : Option Nat := none
  /-- Path and query. -/
  target : String := "/"
  deriving DecidableEq, Repr

namespace Url

/-- The schemes and their usual ports. -/
def schemes : List (String × Nat) := [("http", 80), ("https", 443)]

def isHostChar (c : Char) : Bool := c.isAlphanum || c = '-' || c = '.' || c = '_' || c = '~'

/-- Reads a host with a port that may be missing or empty. -/
def authority? (usual : Nat) (cs : List Char) : Option (String × Option Nat) := do
  let host := cs.takeWhile (· ≠ ':')
  if host.isEmpty || !host.all isHostChar then none else
  let port ← match (cs.dropWhile (· ≠ ':')).drop 1 with
    | [] => some none
    | digits => do
      let n ← Numeral.digits? digits
      if n < 65536 then some (some n) else none
  some (String.ofList (host.map Char.toLower), port.filter (· ≠ usual))

/-- What is asked for; a fragment is not sent. -/
def targetOf (cs : List Char) : String :=
  match cs.takeWhile (· ≠ '#') with
  | [] => "/"
  | '/' :: rest => String.ofList ('/' :: rest)
  | rest => String.ofList ('/' :: rest)

/-- Reads an address. -/
def read? (s : String) : Option Url := do
  let scheme := String.ofList ((s.toList.takeWhile (· ≠ ':')).map Char.toLower)
  let usual ← schemes.lookup scheme
  match s.toList.dropWhile (· ≠ ':') with
  | ':' :: '/' :: '/' :: rest =>
    let ends (c : Char) : Bool := c = '/' || c = '?' || c = '#'
    let (host, port) ← authority? usual (rest.takeWhile fun c => !ends c)
    some { scheme, host, port, target := targetOf (rest.dropWhile fun c => !ends c) }
  | _ => none

def text (u : Url) : String :=
  u.scheme ++ "://" ++ u.host ++ u.port.elim "" (fun n => ":" ++ toString n) ++ u.target

end Url
end Tenancy.Http
