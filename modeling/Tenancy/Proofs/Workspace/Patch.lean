/-
What a client sends for a write on a workspace, and what it makes of the stored object. A merge patch changes only
the fields that it names (`get?_mergePatch`). So a patch of guards leaves all but the guards and the version
(`mergePatch_finalizers`), and a patch of a status all but the status and the version (`mergePatch_status`); and a
server that holds another version than they ask for refuses both (`patch_refused`). Hence a write over the network
heeds the version that it was called with (`heeds_of_revises`).
-/
import Tenancy.Proofs.Cluster.Store
import Tenancy.Proofs.Json.Merging

namespace Tenancy.Operator

/-! ## Writes on workspaces -/

/-- The workspace that a call writes on, and the version that it asks for. -/
def Call.revises? : Call → Option (String × Option String)
  | .setFinalizers key version _ | .patchStatus key version _ => some (key, version)
  | _ => none

/-- The error of a write on a workspace that was not done. -/
def Answered.refusal? : Answered → Option Error
  | ⟨.setFinalizers .., .error e⟩ | ⟨.patchStatus .., .error e⟩ => some e
  | _ => none

namespace Remote

open Cluster (PathSafe Plain Target)
open Http (Exchange Transport)
open Simulation (Server)

variable {version : Option String} {finalizers : List String} {status : Status} {object : Json} {key : String}
  {c : Call} {x : Exchange Error Unit} {r : Http.Request}

/-- The exchange of a write on a workspace. -/
def write? : Call → Option (Exchange Error Unit)
  | .setFinalizers name version finalizers => some (setFinalizers name version finalizers)
  | .patchStatus name version status => some (patchStatus name version status)
  | _ => none

/-- The part of a workspace that a write is sent to. -/
def partOf : Call → Option String
  | .patchStatus .. => some "status"
  | _ => none

/-- A request to merge a patch sends it as such. -/
theorem patch_sends {α : Type} {collection : Cluster.Collection} {part writer : Option String} {change : Json}
    {d : Decoder α} {f : α → Unit}
    (h : (asked ((Cluster.patch collection key part writer change d).map f)).request = .ok r) :
    r.method = .patch ∧ r.contentType = some Cluster.mergePatchType ∧ r.body = some change := by
  unfold asked Exchange.mapError Exchange.map Cluster.patch Cluster.requestNamed Cluster.request at h
  simp only at h
  split at h
  · cases h
  · split at h
    · obtain ⟨⟩ := h
      exact ⟨rfl, rfl, rfl⟩
    · cases h

/-! ## Patches -/

/-- What a patch says of the version. -/
def versionField (version : Option String) : List (String × Json) :=
  (version.map fun v => ("resourceVersion", Json.str v)).toList

theorem finalizersPatch_eq (version : Option String) (finalizers : List String) : finalizersPatch version finalizers =
    .obj [("metadata", .obj (("finalizers", .strings finalizers) :: versionField version))] := by
  cases version with
  | none => rfl
  | some v =>
    have horder : ¬"resourceVersion" < "finalizers" := by decide +kernel
    simp [finalizersPatch, versioned, versionField, Json.object, Dict.ofList, Dict.insert, Dict.place, Dict.erase,
      horder]

theorem statusPatch_eq (version : Option String) (status : Status) : statusPatch version status =
    .obj [("metadata", .obj (versionField version)), ("status", status.toJson)] := by
  have horder : ¬"status" < "metadata" := by decide +kernel
  cases version <;>
    simp [statusPatch, versioned, versionField, Json.object, Dict.ofList, Dict.insert, Dict.place, Dict.erase, horder]

theorem versionField_key {e : String × Json} (h : e ∈ versionField version) : e.1 = "resourceVersion" := by
  cases version with
  | none => cases h
  | some v => rw [List.mem_singleton.1 h]

/-- The version becomes the one that was asked for, if one was. -/
theorem get?_versionField {changes : List (String × Json)} (hnodup : (changes.map (·.1)).Nodup)
    (h : ∀ e ∈ changes, e.1 ≠ "resourceVersion") :
    (object.mergePatch (.obj (changes ++ versionField version))).get? "resourceVersion" =
      (version.map Json.str <|> object.get? "resourceVersion") := by
  cases version with
  | none =>
    rw [versionField, Option.map_none, Option.toList_none, List.append_nil]
    exact Json.get?_mergePatch h
  | some v =>
    have hkeys : ((changes ++ versionField (some v)).map (·.1)).Nodup := by
      rw [List.map_append, List.nodup_append]
      refine ⟨hnodup, List.nodup_singleton _, ?_⟩
      rintro _ hk _ hv rfl
      obtain ⟨e, he, hkey⟩ := List.mem_map.1 hk
      exact h e he (hkey.trans (List.mem_singleton.1 hv))
    exact Json.get?_mergePatch_mem hkeys (List.mem_append_right _ (List.mem_singleton_self _)) nofun

/-- Two objects are the same but for what a write on a workspace may change, and the version is the one that it
asks for, or as it was. -/
inductive Touches : Call → Json → Json → Prop
  | guards {key : String} {version : Option String} {finalizers : List String} {old new : Json} :
      (∀ k ≠ "metadata", new.get? k = old.get? k) →
      (∀ k, k ≠ "finalizers" → k ≠ "resourceVersion" → (new.get "metadata").get? k = (old.get "metadata").get? k) →
      (new.get "metadata").get? "resourceVersion" =
        (version.map Json.str <|> (old.get "metadata").get? "resourceVersion") →
      (new.get "metadata").get "finalizers" = .strings finalizers →
      Touches (.setFinalizers key version finalizers) old new
  | status {key : String} {version : Option String} {status : Status} {old new : Json} :
      (∀ k, k ≠ "metadata" → k ≠ "status" → new.get? k = old.get? k) →
      (∀ k ≠ "resourceVersion", (new.get "metadata").get? k = (old.get "metadata").get? k) →
      (new.get "metadata").get? "resourceVersion" =
        (version.map Json.str <|> (old.get "metadata").get? "resourceVersion") →
      new.get "status" = (old.get "status").mergePatch status.toJson → Touches (.patchStatus key version status) old new

/-- A patch of guards leaves all of an object but its guards and its version. -/
theorem mergePatch_finalizers (key : String) (version : Option String) (finalizers : List String) (object : Json) :
    Touches (.setFinalizers key version finalizers) object
      (object.mergePatch (finalizersPatch version finalizers)) := by
  have hmetadata : (object.mergePatch (finalizersPatch version finalizers)).get "metadata" =
      (object.get "metadata").mergePatch (.obj ([("finalizers", .strings finalizers)] ++ versionField version)) := by
    rw [finalizersPatch_eq]
    exact Json.get_mergePatch (by simp) (List.mem_singleton_self _) nofun
  constructor
  · intro k hk
    rw [finalizersPatch_eq]
    exact Json.get?_mergePatch (by simpa using hk.symm)
  · intro k hf hv
    rw [hmetadata]
    refine Json.get?_mergePatch fun e he => ?_
    rcases List.mem_cons.1 he with rfl | he
    · exact hf.symm
    · exact versionField_key he ▸ hv.symm
  · rw [hmetadata]
    exact get?_versionField (List.nodup_singleton _) (by simp)
  · rw [hmetadata]
    refine Json.get_mergePatch ?_ (List.mem_cons_self ..) nofun
    cases version <;> simp [versionField]

/-- A patch of a status leaves all of an object but its status and its version. -/
theorem mergePatch_status (key : String) (version : Option String) (status : Status) (object : Json) :
    Touches (.patchStatus key version status) object (object.mergePatch (statusPatch version status)) := by
  have hmetadata : (object.mergePatch (statusPatch version status)).get "metadata" =
      (object.get "metadata").mergePatch (.obj ([] ++ versionField version)) := by
    rw [statusPatch_eq]
    exact Json.get_mergePatch (by simp) (List.mem_cons_self ..) nofun
  constructor
  · intro k hm hs
    rw [statusPatch_eq]
    exact Json.get?_mergePatch (by simp [hm.symm, hs.symm])
  · intro k hk
    rw [hmetadata]
    exact Json.get?_mergePatch fun e he => versionField_key he ▸ hk.symm
  · rw [hmetadata]
    exact get?_versionField List.nodup_nil nofun
  · rw [statusPatch_eq]
    exact Json.get_mergePatch (by simp) (by simp) (by rw [Status.toJson]; nofun)

/-- On an object with another version than it asks for, either patch is refused, and nothing is stored. -/
theorem patch_refused {s : Server} {path v : String} {patch : Json}
    (hobject : s.object? (Server.objectPath path) = some object)
    (hasked : Json.Field.text? (patch.get "metadata") "resourceVersion" = some v)
    (hversion : Json.Field.text? (object.get "metadata") "resourceVersion" ≠ some v) :
    s.patch path patch =
      (Server.failure 409 "Conflict" (Server.nameOf (Server.objectPath path) ++ ": the object has been modified"),
        s) := by
  have hstale : Server.stale object patch = true := by
    unfold Server.stale
    rw [hasked]
    exact decide_eq_true hversion
  unfold Server.patch
  simp only [hobject, hstale, if_true]

theorem transport_patch {s : Server} {patch : Json} (hfaults : s.faults = []) (hmethod : r.method = .patch)
    (hbody : r.body = some patch) :
    Server.transport r s = Server.patch r.address patch { s with requests := r :: s.requests } := by
  obtain ⟨objects, versions, admission, faults, requests, changes⟩ := s
  obtain rfl : faults = [] := hfaults
  simp only [Server.transport, Simulation.meet, hmethod, hbody, Option.getD_some]

/-! ## Over the network -/

/-- The request is to merge a patch that asks for the version, and that changes nothing but the part of an object
that the write is about. -/
structure Expects (c : Call) (version : Option String) (r : Http.Request) (patch : Json) : Prop where
  method : r.method = .patch
  type : r.contentType = some Cluster.mergePatchType
  body : r.body = some patch
  version : Json.Field.text? (patch.get "metadata") "resourceVersion" = version
  touches : ∀ object, Touches c object (object.mergePatch patch)

/-- A write on the workspace `key` heeds the version that it was called with when it goes over the network. -/
structure Heeds (c : Call) (key : String) (version : Option String) : Prop where
  expects : ∀ x r, write? c = some x → x.request = .ok r → ∃ patch, Expects c version r patch
  /-- A request is made, unless its address is too long, or has a name in it that is none. -/
  sent : PathSafe key → (Cluster.patchTarget workspaces key (partOf c) controller).utf8ByteSize ≤ Target.maxSize →
    ∃ x r, write? c = some x ∧ x.request = .ok r ∧
      r.address = workspaces.objectPath key ++ (partOf c).elim "" ("/" ++ ·)
  /-- A server that has the object in another version refuses it, and stores nothing. -/
  refused : ∀ {ρ : Type} (config : Config) (runtimes : Transport ρ) (s : Remote Server ρ) (x : Exchange Error Unit)
    (r : Http.Request) (object : Json) (v : String), write? c = some x → x.request = .ok r → version = some v →
    s.cluster.faults = [] → s.cluster.object? (Server.objectPath r.address) = some object →
    Json.Field.text? (object.get "metadata") "resourceVersion" ≠ some v →
    (∃ e, (⟨c, (Remote.handle config Server.transport runtimes c s).1⟩ : Answered).refusal? = some e) ∧
      (Remote.handle config Server.transport runtimes c s).2.cluster.objects = s.cluster.objects

theorem expects_of_write (h : write? c = some x) (hc : c.revises? = some (key, version)) (hr : x.request = .ok r) :
    ∃ patch, Expects c version r patch := by
  cases c with
  | setFinalizers name v finalizers =>
    cases h
    cases hc
    obtain ⟨hmethod, htype, hbody⟩ := patch_sends hr
    refine ⟨_, hmethod, htype, hbody, ?_, mergePatch_finalizers _ _ _⟩
    rw [finalizersPatch_eq]
    cases version <;> rfl
  | patchStatus name v status =>
    cases h
    cases hc
    obtain ⟨hmethod, htype, hbody⟩ := patch_sends hr
    refine ⟨_, hmethod, htype, hbody, ?_, mergePatch_status _ _ _⟩
    rw [statusPatch_eq]
    cases version <;> rfl
  | _ => cases h

/-- A write is what its exchange comes to. -/
theorem refusal?_handle {κ ρ : Type} (config : Config) {t : Transport κ} (runtimes : Transport ρ) {s : Remote κ ρ}
    {k : κ} {e : Error} (h : write? c = some x) (hx : x.perform t s.cluster = (.error e, k)) :
    (⟨c, (Remote.handle config t runtimes c s).1⟩ : Answered).refusal? = some e ∧
      (Remote.handle config t runtimes c s).2.cluster = k := by
  cases c with
  | setFinalizers | patchStatus =>
    cases h
    simp only [Remote.handle, askCluster, hx, Answered.refusal?, and_self]
  | _ => cases h

theorem read_refused {reply : Http.Reply} {refusal : Cluster.Refusal} (h : write? c = some x)
    (hreply : Cluster.readBody reply = .error (.refused refusal)) :
    x.read reply = .error (.cluster (.refused refusal)) := by
  have hread := Cluster.readObject_refused (d := Workspace.decode) hreply
  cases c with
  | setFinalizers | patchStatus =>
    cases h
    show ((Cluster.readObject Workspace.decode reply).map _).mapError _ = _
    rw [hread]
    rfl
  | _ => cases h

theorem request_of_write (h : write? c = some x) (hc : c.revises? = some (key, version)) (hkey : PathSafe key)
    (hsize : (Cluster.patchTarget workspaces key (partOf c) controller).utf8ByteSize ≤ Target.maxSize) :
    ∃ r, x.request = .ok r ∧ r.address = workspaces.objectPath key ++ (partOf c).elim "" ("/" ++ ·) := by
  have hpath : Plain workspaces.path := by decide
  have hwriter : Target.PlainQuery controller := by decide
  cases c with
  | setFinalizers name v finalizers =>
    cases h
    cases hc
    have hr := Cluster.patch_request (finalizersPatch version finalizers) (d := Workspace.decode) hpath hkey
      (by rintro p ⟨⟩) hwriter hsize
    exact ⟨_, congrArg (Except.mapError Error.cluster) hr, rfl⟩
  | patchStatus name v status =>
    cases h
    cases hc
    have hr := Cluster.patch_request (statusPatch version status) (d := Workspace.decode) hpath hkey
      (by rintro p ⟨⟩; decide) hwriter hsize
    exact ⟨_, congrArg (Except.mapError Error.cluster) hr, rfl⟩
  | _ => cases h

theorem write?_of_revises (h : c.revises? = some (key, version)) : ∃ x, write? c = some x := by
  cases c with
  | setFinalizers | patchStatus => exact ⟨_, rfl⟩
  | _ => cases h

/-- Every write on a workspace heeds the version that it is called with. -/
theorem heeds_of_revises (h : c.revises? = some (key, version)) : Heeds c key version := by
  constructor
  case expects => exact fun x r hx hr => expects_of_write hx h hr
  case sent =>
    intro hkey hsize
    obtain ⟨x, hx⟩ := write?_of_revises h
    obtain ⟨r, hr, haddress⟩ := request_of_write hx h hkey hsize
    exact ⟨x, r, hx, hr, haddress⟩
  case refused =>
    rintro ρ config runtimes s x r object v hx hr rfl hfaults hobject hversion
    obtain ⟨patch, hexpects⟩ := expects_of_write hx h hr
    have htransport := transport_patch hfaults hexpects.method hexpects.body
    have hstored : Server.object? { s.cluster with requests := r :: s.cluster.requests } (Server.objectPath r.address) =
        some object := hobject
    rw [patch_refused hstored hexpects.version hversion] at htransport
    have hperform := Exchange.perform_ok hr Server.transport s.cluster
    rw [htransport, read_refused hx (Simulation.readBody_failure _ _ (by decide))] at hperform
    obtain ⟨hrefusal, hcluster⟩ := refusal?_handle config runtimes hx hperform
    refine ⟨⟨_, hrefusal⟩, ?_⟩
    rw [hcluster]

end Remote
end Tenancy.Operator
