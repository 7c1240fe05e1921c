/-
A cluster that serves a reconciler. Besides keeping children it shows workspaces as they are stored, refuses the writes
on them that come too late, does all others and gives the workspace a new version, and drops with a namespace what lies
in it (`Maintains`). Over such a cluster a write leaves everything as it is, or makes the stored document describe the
workspace after the write (`Maintains.write_failed`, `Maintains.write_done`).
-/
import Tenancy.Proofs.Cluster.Errand
import Tenancy.Proofs.Workspace.Description

namespace Tenancy.Operator

open Cluster (Collection Keeps Plain PathSafe Target readBody)
open Http (Exchange Reply Request Transport)
open Object (Child)
open Remote (controller partOf workspaces write?)
open Simulation (Server World revise)

variable {κ : Type}

/-! ## Writes -/

/-- The patch that is sent for a write on a workspace. -/
def Remote.patchOf : Call → Option Json
  | .setFinalizers _ version finalizers => some (finalizersPatch version finalizers)
  | .patchStatus _ version status => some (statusPatch version status)
  | _ => none

/-- What a write makes of a workspace, its version apart. -/
def Call.rewrite : Call → Workspace → Workspace
  | .setFinalizers _ _ finalizers, ws => { ws with metadata := { ws.metadata with finalizers := some finalizers } }
  | .patchStatus _ _ status, ws => { ws with status := some status }
  | _, ws => ws

/-- A write whose patch says all that it writes: a status is about generations of 64 bits and has a condition, since a
patch that names no conditions leaves the stored ones. -/
def Call.Writable : Call → Prop
  | .patchStatus _ _ status => status.InRange ∧ status.conditions ≠ []
  | _ => True

/-- The workspace has the version that a write asks for. -/
def Timely (version : Option String) (ws : Workspace) : Prop := ∀ v ∈ version, ws.metadata.resourceVersion = some v

section

variable {c : Call} {key : String} {version : Option String} {patch object : Json} {ws : Workspace}

/-- With the patch of a write merged into it, a document describes the workspace after the write. -/
theorem describes_rewritten (h : Describes object ws) (hc : c.Writable) (hpatch : Remote.patchOf c = some patch)
    (n : ℕ) : Describes (Server.withVersion (object.mergePatch patch) n)
      (revise (c.rewrite ws) (some (toString n))) := by
  cases c with
  | setFinalizers _ version finalizers =>
    cases hpatch
    exact h.guards version finalizers n
  | patchStatus _ version status =>
    cases hpatch
    obtain ⟨hrange, hsome⟩ := hc
    exact h.reports version hrange (fun hnone => absurd hnone hsome) n
  | _ => cases hpatch

theorem asked_of_patch (hc : c.revises? = some (key, version)) (hpatch : Remote.patchOf c = some patch) :
    Json.Field.text? (patch.get "metadata") "resourceVersion" = version := by
  cases c with
  | setFinalizers =>
    cases hpatch
    cases hc
    rw [Remote.finalizersPatch_eq]
    cases version <;> rfl
  | patchStatus =>
    cases hpatch
    cases hc
    rw [Remote.statusPatch_eq]
    cases version <;> rfl
  | _ => cases hpatch

/-- A write comes in time if the workspace has the version that it asks for. -/
theorem stale_iff (h : Describes object ws) (hc : c.revises? = some (key, version))
    (hpatch : Remote.patchOf c = some patch) : Server.stale object patch = true ↔ ¬Timely version ws := by
  unfold Server.stale Timely
  rw [asked_of_patch hc hpatch, h.version]
  cases version <;> simp

end

/-! ## Clusters that serve -/

/-- An answer that gives an object as it is. -/
def Shows (object : Json) (reply : Reply) : Prop :=
  ∃ body, readBody reply = .ok body ∧ Json.read? body = Json.read? (Utf8.encode object.text)

/-- A request to write on the workspace `key`. -/
structure Writes (r : Request) (c : Call) (key : String) (patch : Json) : Prop where
  method : r.method = .patch
  type : r.contentType = some Cluster.mergePatchType
  address : r.address = workspaces.objectPath key ++ (partOf c).elim "" ("/" ++ ·)
  body : r.body = some patch
  patch : Remote.patchOf c = some patch

/-- A request to delete the namespace `name`. -/
structure Drops (r : Request) (name : String) : Prop where
  method : r.method = .delete
  address : r.address = Collection.namespaces.path ++ "/" ++ name
  query : r.query = ""

/-- An answer that says that something is deleted, or has not been there. -/
def Gone (reply : Reply) : Prop :=
  (∃ body, readBody reply = .ok body ∧
      ((Json.read? body).bind (Cluster.decodeDeleted (Child.decode .namespace))).isSome = true) ∨
    ∃ refusal, readBody reply = .error (.refused refusal) ∧ refusal.code = 404

/-- What a cluster holds in the place of a key. -/
def place (held : String → String → Option Json) (key : Object.Key) : Option Json :=
  held (Collection.ofKind key.kind key.ns).path key.name

/-- Children and workspaces are held as before. -/
structure Retained (old new : String → String → Option Json) : Prop where
  children : ∀ key, Placed key → place new key = place old key
  workspaces : ∀ n, PathSafe n → new workspaces.path n = old workspaces.path n

/-- The key under which a world stores what lies in a place. -/
def childKey (key : Object.Key) : Simulation.ChildKey := (key.kind, key.ns, key.name)

theorem childKey_inj (key key' : Object.Key) (h : childKey key = childKey key') : key = key' := by
  obtain ⟨kind, ns, name⟩ := key
  obtain ⟨kind', ns', name'⟩ := key'
  cases h
  rfl

/-- A cluster that keeps children, and workspaces in versions; `clock` is the last version that it has given out. It
shows a workspace as it is stored. A write on one that is not there, or not in the version that the write asks for, is
refused; any other one is merged, in a new version, and what is to be deleted goes as soon as it has no guards. With a
namespace goes at once all that lies in it. Events have no part in any of this. -/
structure Maintains (t : Transport κ) (held : κ → String → String → Option Json) (clock : κ → ℕ) : Prop
    extends Keeps t held where
  later (r : Request) (s : κ) : clock s ≤ clock (t r s).2
  shown {r : Request} {s : κ} {name : String} {object : Json} : Cluster.Asks r workspaces.path name →
    PathSafe name → held s workspaces.path name = some object → Shows object (t r s).1
  refused {r : Request} {s : κ} {c : Call} {key : String} {patch : Json} : Writes r c key patch → PathSafe key →
    (∀ object ∈ held s workspaces.path key, Server.stale object patch = true) →
      (∃ refusal, readBody (t r s).1 = .error (.refused refusal)) ∧
      ∀ p n, PathSafe n → held (t r s).2 p n = held s p n
  merged {r : Request} {s : κ} {c : Call} {key : String} {patch object stored : Json} : Writes r c key patch →
    PathSafe key → held s workspaces.path key = some object → Server.stale object patch = false →
      stored = Server.withVersion (object.mergePatch patch) (clock (t r s).2) →
      clock s < clock (t r s).2 ∧ Shows stored (t r s).1 ∧ ∀ p n, PathSafe n → held (t r s).2 p n =
        if p = workspaces.path ∧ n = key then (if Server.released stored then none else some stored) else held s p n
  dropped {r : Request} {s : κ} {name : String} : Drops r name → PathSafe name →
    Gone (t r s).1 ∧
    (∀ key, Placed key →
      place (held (t r s).2) key = if World.goesWith name (childKey key) then none else place (held s) key) ∧
    ∀ n, PathSafe n → held (t r s).2 workspaces.path n = held s workspaces.path n
  aside {r : Request} {s : κ} : r.method = .post ∨ r.method = .patch →
    (∃ rest, r.address = "/apis/events.k8s.io/" ++ rest) → Retained (held s) (held (t r s).2)

/-! ## Exchanges about workspaces -/

section

variable {c : Call} {key : String} {version : Option String} {x : Exchange Error Unit}

/-- A write is sent as its patch, unless its address is too long. -/
theorem writes_of_write (hx : write? c = some x) (hc : c.revises? = some (key, version)) (hkey : PathSafe key)
    (hsize : (Cluster.patchTarget workspaces key (partOf c) controller).utf8ByteSize ≤ Target.maxSize) :
    ∃ r patch, x.request = .ok r ∧ Writes r c key patch := by
  obtain ⟨r, hr, haddress⟩ := Remote.request_of_write hx hc hkey hsize
  cases c with
  | setFinalizers | patchStatus =>
    cases hx
    obtain ⟨hmethod, htype, hbody⟩ := Remote.patch_sends hr
    exact ⟨r, _, hr, hmethod, htype, haddress, hbody, rfl⟩
  | _ => cases hx

theorem write_tooLong (hx : write? c = some x) (hc : c.revises? = some (key, version)) (hkey : PathSafe key)
    (hsize : Target.maxSize < (Cluster.patchTarget workspaces key (partOf c) controller).utf8ByteSize) :
    x.request = .error (.cluster (.malformed .tooLong)) := by
  cases c with
  | setFinalizers | patchStatus =>
    cases hx
    cases hc
    exact congrArg (Except.mapError Error.cluster) (Cluster.patch_tooLong (d := Workspace.decode) hkey.1 hsize)
  | _ => cases hx

theorem Shows.readObject {ws : Workspace} {object : Json} {reply : Reply} (h : Shows object reply)
    (hdescribes : Describes object ws) : Cluster.readObject Workspace.decode reply = .ok ws := by
  obtain ⟨body, hbody, hread⟩ := h
  rw [Cluster.readObject, hbody]
  show Cluster.decodeBody Workspace.decode body = _
  rw [Cluster.decodeBody, hread, hdescribes.read]

theorem read_shown {ws : Workspace} {object : Json} {reply : Reply} (hx : write? c = some x)
    (hshows : Shows object reply) (h : Describes object ws) : x.read reply = .ok () := by
  cases c with
  | setFinalizers | patchStatus =>
    cases hx
    show ((Cluster.readObject Workspace.decode reply).map _).mapError _ = _
    rw [hshows.readObject h]
    rfl
  | _ => cases hx

/-- A deletion succeeds if what it is about is deleted or has not been there. -/
theorem Gone.read {reply : Reply} {name : String} (h : Gone reply) :
    (Cluster.delete .namespaces name (Child.decode .namespace)).read reply = .ok () := by
  obtain ⟨body, hbody, hread⟩ | ⟨refusal, hrefusal, hcode⟩ := h
  · obtain ⟨u, hu⟩ := Option.isSome_iff_exists.1 hread
    have hok : Cluster.readObject (Cluster.decodeDeleted (Child.decode .namespace)) reply = .ok u := by
      rw [Cluster.readObject, hbody]
      show Cluster.decodeBody _ body = _
      rw [Cluster.decodeBody, hu]
    simp only [Cluster.delete, hok]
  · simp only [Cluster.delete, Cluster.readObject_refused hrefusal, hcode, true_or, if_true]

end

namespace Maintains

variable {t : Transport κ} {k : κ} {held : κ → String → String → Option Json} {clock : κ → ℕ} {c : Call}
  {key name : String} {version : Option String} {x : Exchange Error Unit} {object : Json} {ws : Workspace}

theorem later_perform {ε α : Type} (hs : Maintains t held clock) (x : Exchange ε α) (k : κ) :
    clock k ≤ clock (x.perform t k).2 := by
  cases hr : x.request with
  | error e => rw [Exchange.perform_error hr]
  | ok r =>
    rw [Exchange.perform_ok hr]
    exact hs.later r k

/-- A write that is too long, or comes too late, or is on a workspace that is not there, fails and changes nothing. -/
theorem write_failed (hs : Maintains t held clock) (hx : write? c = some x) (hc : c.revises? = some (key, version))
    (hkey : PathSafe key)
    (h : Target.maxSize < (Cluster.patchTarget workspaces key (partOf c) controller).utf8ByteSize ∨
      ∀ object ∈ held k workspaces.path key, ∃ ws, Describes object ws ∧ ¬Timely version ws) :
    (∃ e, (x.perform t k).1 = .error e) ∧ ∀ p n, PathSafe n → held (x.perform t k).2 p n = held k p n := by
  by_cases hsize : Target.maxSize < (Cluster.patchTarget workspaces key (partOf c) controller).utf8ByteSize
  · rw [Exchange.perform_error (write_tooLong hx hc hkey hsize)]
    exact ⟨⟨_, rfl⟩, fun _ _ _ => rfl⟩
  · obtain ⟨r, patch, hr, hwrites⟩ := writes_of_write hx hc hkey (Nat.not_lt.1 hsize)
    have hstale : ∀ object ∈ held k workspaces.path key, Server.stale object patch = true := by
      intro object hobject
      obtain ⟨ws, hdescribes, hlate⟩ := h.resolve_left hsize object hobject
      exact (stale_iff hdescribes hc hwrites.patch).2 hlate
    obtain ⟨⟨refusal, hrefusal⟩, hsame⟩ := hs.refused hwrites hkey hstale
    rw [Exchange.perform_ok hr]
    exact ⟨⟨_, Remote.read_refused hx hrefusal⟩, hsame⟩

/-- A write that comes in time is done: the document describes the workspace after it, in a new version, or is gone if
nothing holds up its deletion. -/
theorem write_done (hs : Maintains t held clock) (hx : write? c = some x) (hc : c.revises? = some (key, version))
    (hkey : PathSafe key) (hwritable : c.Writable)
    (hsize : (Cluster.patchTarget workspaces key (partOf c) controller).utf8ByteSize ≤ Target.maxSize)
    (hheld : held k workspaces.path key = some object) (hdescribes : Describes object ws)
    (htimely : Timely version ws) :
    (x.perform t k).1 = .ok () ∧ clock k < clock (x.perform t k).2 ∧
      ∃ stored, Describes stored (revise (c.rewrite ws) (some (toString (clock (x.perform t k).2)))) ∧
        ∀ p n, PathSafe n → held (x.perform t k).2 p n =
          if p = workspaces.path ∧ n = key then (if Server.released stored then none else some stored)
          else held k p n := by
  obtain ⟨r, patch, hr, hwrites⟩ := writes_of_write hx hc hkey hsize
  have hstale : Server.stale object patch = false :=
    Bool.eq_false_iff.2 fun h => (stale_iff hdescribes hc hwrites.patch).1 h htimely
  obtain ⟨hlater, hshows, hnew⟩ := hs.merged hwrites hkey hheld hstale rfl
  have hwritten := describes_rewritten hdescribes hwritable hwrites.patch (clock (t r k).2)
  rw [Exchange.perform_ok hr]
  exact ⟨read_shown hx hshows hwritten, hlater, _, hwritten, hnew⟩

/-- Reading a workspace gives what is stored. -/
theorem read (hs : Maintains t held clock) (hname : PathSafe name)
    (hsize : (workspaces.objectPath name).utf8ByteSize ≤ Target.maxSize) {found : Option Workspace}
    (h : Option.Rel Describes (held k workspaces.path name) found) :
    ((Remote.workspace name).perform t k).1 = .ok found ∧
      ∀ p n, PathSafe n → held ((Remote.workspace name).perform t k).2 p n = held k p n := by
  have hplain : Plain workspaces.path := by decide
  rw [Remote.workspace, Remote.asked, Exchange.perform_mapError]
  refine ⟨?_, hs.toKeeps.get_same hplain hname hsize _⟩
  generalize hheld : held k workspaces.path name = stored at h
  cases h with
  | none =>
    rw [hs.toKeeps.get_missing hplain hname hsize _ hheld]
    rfl
  | @some object ws hdescribes =>
    have hok := (hs.shown (.of_address workspaces.path name) hname hheld).readObject hdescribes
    rw [Exchange.perform_ok (Cluster.get_request hplain hname hsize)]
    show (Cluster.readObject? Workspace.decode _).mapError _ = _
    rw [Cluster.readObject?, hok]
    rfl

/-- The deletion of a namespace succeeds, and then nothing lies in it. -/
theorem delete (hs : Maintains t held clock) (hname : PathSafe name)
    (hsize : (Collection.namespaces.objectPath name ++ "?").utf8ByteSize ≤ Target.maxSize) :
    ((Remote.deleteNamespace name).perform t k).1 = .ok () ∧
      (∀ key, Placed key → place (held ((Remote.deleteNamespace name).perform t k).2) key =
        if World.goesWith name (childKey key) then none else place (held k) key) ∧
      ∀ n, PathSafe n →
        held ((Remote.deleteNamespace name).perform t k).2 workspaces.path n = held k workspaces.path n := by
  have hplain : Plain Collection.namespaces.path := by decide
  obtain ⟨r, hr, hdrops⟩ : ∃ r, (Cluster.delete .namespaces name (Child.decode .namespace)).request = .ok r ∧
      Drops r name := ⟨_, Cluster.delete_request hplain hname hsize, rfl, rfl, rfl⟩
  obtain ⟨hgone, hnew⟩ := hs.dropped (s := k) hdrops hname
  rw [Remote.deleteNamespace, Remote.asked, Exchange.perform_mapError, Exchange.perform_ok hr]
  refine ⟨?_, hnew⟩
  show ((Cluster.delete .namespaces name (Child.decode .namespace)).read _).mapError _ = _
  rw [hgone.read]
  rfl

end Maintains

/-! ## Events -/

/-- Events are written under a path of their own. -/
theorem event_request {reporter : Reporter} {sighting : Sighting} {r : Request}
    (h : (Publisher.exchange reporter sighting).request = .ok r) :
    (r.method = .post ∨ r.method = .patch) ∧ ∃ rest, r.address = "/apis/events.k8s.io/" ++ rest := by
  have hroot : Plain "/apis/events.k8s.io/" := by decide
  have hpath : ∀ ns, ∃ rest, (Publisher.collection ns).path = "/apis/events.k8s.io/" ++ rest :=
    fun ns => ⟨"v1" ++ ("/namespaces/" ++ ns ++ "/") ++ "events", by
      simp [Collection.path, Publisher.collection, Collection.root, ← String.append_assoc]⟩
  have sent : ∀ {method target type body}, Cluster.request method target type body = .ok r →
      (∃ rest, target = "/apis/events.k8s.io/" ++ rest) →
        r.method = method ∧ ∃ rest, r.address = "/apis/events.k8s.io/" ++ rest := by
    rintro method target type body h ⟨rest, rfl⟩
    unfold Cluster.request at h
    split at h
    next t ht =>
      obtain ⟨⟩ := h
      exact ⟨rfl, Target.ofText_append hroot ht⟩
    next => cases h
  unfold Publisher.exchange at h
  split at h
  · obtain ⟨rest, hrest⟩ := hpath sighting.ns
    obtain ⟨hmethod, haddress⟩ := sent h ⟨rest ++ "?", by rw [hrest, String.append_assoc]⟩
    exact ⟨.inl hmethod, haddress⟩
  · obtain ⟨rest, hrest⟩ := hpath sighting.ns
    simp only [Cluster.patch, Cluster.requestNamed] at h
    split at h
    · cases h
    · obtain ⟨hmethod, haddress⟩ := sent h ⟨rest ++ "/" ++ sighting.name ++ "" ++ "?" ++ "", by
        simp [Collection.objectPath, hrest, String.append_assoc]⟩
      exact ⟨.inr hmethod, haddress⟩

/-- Publishing an event leaves children and workspaces as they are. -/
theorem Maintains.publish {t : Transport κ} {k : κ} {held : κ → String → String → Option Json} {clock : κ → ℕ}
    (hs : Maintains t held clock) (publisher : Publisher) (now : Instant) (event : Event) :
    Retained (held k) (held (publisher.publish t now event k).2) ∧
      clock k ≤ clock (publisher.publish t now event k).2 := by
  have hperform : (publisher.publish t now event k).2 =
      ((Publisher.exchange publisher.reporter (publisher.next now event)).perform t k).2 := by
    unfold Publisher.publish
    dsimp only
    split <;> simp [*]
  rw [hperform]
  refine ⟨?_, hs.later_perform _ k⟩
  cases hr : (Publisher.exchange publisher.reporter (publisher.next now event)).request with
  | error e =>
    rw [Exchange.perform_error hr]
    exact ⟨fun _ _ => rfl, fun _ _ => rfl⟩
  | ok r =>
    rw [Exchange.perform_ok hr]
    obtain ⟨hmethod, haddress⟩ := event_request hr
    exact hs.aside hmethod haddress

end Tenancy.Operator
