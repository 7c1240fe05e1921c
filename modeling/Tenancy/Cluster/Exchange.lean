/-
The exchanges with a cluster: look an object up, create, change or delete one. All but the creation
name the object, and are not made without a name.
-/
import Tenancy.Cluster.Address
import Tenancy.Cluster.Answer

namespace Tenancy.Cluster

open Http (Exchange)

/-- A request to a target given as text. -/
def request (method : Http.Method) (target : String) (contentType : Option String)
    (body : Option Json) : Except Error Http.Request :=
  match Target.ofText target with
  | .ok t => .ok { method, address := t.path, query := t.query, contentType, body }
  | .error m => .error (.malformed m)

/-- A request about the object called `name`. -/
def requestNamed (name : String) (r : Except Error Http.Request) : Except Error Http.Request :=
  if name.isEmpty then .error (.malformed .unnamed) else r

def jsonType : String := "application/json"

def mergePatchType : String := "application/merge-patch+json"

/-- Looks an object up. -/
def get {α : Type} (c : Collection) (name : String) (d : Decoder α) : Exchange Error (Option α) :=
  { request := requestNamed name (request .get (c.objectPath name) none none)
    read := readObject? d }

/-- Creates an object; the answer is the object as it is then stored. -/
def create {α : Type} (c : Collection) (object : Json) (d : Decoder α) : Exchange Error α :=
  { request := request .post (c.path ++ "?") (some jsonType) (some object)
    read := readObject d }

/-- A creation that also counts as done if the object was there before. -/
def createOnce {α : Type} (c : Collection) (object : Json) (d : Decoder α) :
    Exchange Error Unit :=
  { request := (create c object d).request
    read := fun reply =>
      match readObject d reply with
      | .ok _ => .ok ()
      | .error (.refused r) => if r.code = 409 then .ok () else .error (.refused r)
      | .error e => .error e }

/-- Merges a patch into an object, or into the part of it called `part`. The writer is told if it
has a name. -/
def patch {α : Type} (c : Collection) (name : String) (part : Option String)
    (writer : Option String) (change : Json) (d : Decoder α) : Exchange Error α :=
  let target := c.objectPath name ++ (part.elim "" ("/" ++ ·)) ++ "?" ++
    writer.elim "" ("&fieldManager=" ++ ·)
  { request := requestNamed name (request .patch target (some mergePatchType) (some change))
    read := readObject d }

/-- Deletes an object and, in the background, what belongs to it. One that is gone or already on its
way out counts as deleted. -/
def delete {α : Type} (c : Collection) (name : String) (d : Decoder α) : Exchange Error Unit :=
  { request := requestNamed name (request .delete (c.objectPath name ++ "?") (some jsonType)
      (some (.object [("propagationPolicy", .str "Background")])))
    read := fun reply =>
      match readObject (decodeDeleted d) reply with
      | .ok _ => .ok ()
      | .error (.refused r) => if r.code = 404 ∨ r.code = 409 then .ok () else .error (.refused r)
      | .error e => .error e }

end Tenancy.Cluster
