/-
A server that keeps workspaces in versions, besides what it is given. It is a cluster that maintains what a reconciler
writes (`maintains_registry`), so a deletion over it goes as in the world (`teardown_done_leaver`).
-/
import Tenancy.Proofs.Cluster.Keeper
import Tenancy.Proofs.Cluster.Picture

namespace Tenancy.Simulation

open Cluster (Collection PathSafe lastSegment)
open Object (Kind)
open Operator

/-! ## The server -/

/-- What a server keeps by address, and the last version that it has given out. -/
structure Registry where
  objects : Dict String Json := []
  clock : ℕ := 100

namespace Registry

def held (s : Registry) : String → String → Option Json := kept s.objects

def isEvent (address : String) : Bool := "/apis/events.k8s.io/".toList.isPrefixOf address.toList

/-- The address of the object that a patch is for: one that names the status is sent to the status. -/
def patched (address : String) (patch : Json) : String :=
  if (patch.get? "status").isSome then
    String.ofList (address.toList.take (address.toList.length - "/status".toList.length))
  else address

/-- Merges a patch into an object, in a new version. What is to be deleted goes as soon as it has no guards. -/
def patch (r : Http.Request) (s : Registry) : Http.Reply × Registry :=
  let change := r.body.getD .null
  let address := patched r.address change
  match Dict.get? s.objects address with
  | none => (Server.failure 404 "NotFound" (address ++ " not found"), s)
  | some object =>
    if Server.stale object change then (Server.failure 409 "Conflict" (address ++ " has been modified"), s)
    else
      let stored := Server.withVersion (object.mergePatch change) (s.clock + 1)
      (Server.answer 200 stored,
        { objects := if Server.released stored then Dict.erase s.objects address else Dict.put s.objects address stored
          clock := s.clock + 1 })

/-- Whether what has an address goes with the namespace `name`. -/
def goes (name address : String) : Bool :=
  decide (address = Collection.namespaces.path ++ "/" ++ name) ||
    Kind.all.any fun kind => kind.namespaced &&
      decide (address = (Collection.ofKind kind (some name)).path ++ "/" ++ lastSegment address)

/-- What is said of a deletion. -/
def success : Json :=
  .obj [("apiVersion", .str "v1"), ("kind", .str "Status"), ("metadata", .empty), ("status", .str "Success")]

/-- Deletes a namespace with all that lies in it. -/
def delete (r : Http.Request) (s : Registry) : Http.Reply × Registry :=
  let name := lastSegment r.address
  if r.address = Collection.namespaces.path ++ "/" ++ name then
    ((match Dict.get? s.objects r.address with
        | some _ => Server.answer 200 success
        | none => Server.failure 404 "NotFound" (r.address ++ " not found")),
      { s with objects := s.objects.filter fun e => !goes name e.1 })
  else (Server.failure 405 "MethodNotAllowed" "method not allowed", s)

end Registry

def registry : Http.Transport Registry := fun r s =>
  match r.method with
  | .get | .post => let (reply, objects) := keeper r s.objects; (reply, { s with objects })
  | .patch =>
    if Registry.isEvent r.address then (Server.failure 405 "MethodNotAllowed" "method not allowed", s)
    else Registry.patch r s
  | .delete => Registry.delete r s

/-! ## What it upholds -/

section

variable {r : Http.Request} {s : Registry} {c : Call} {key name : String} {patch object : Json}

theorem registry_kept (h : r.method = .get ∨ r.method = .post) :
    registry r s = ((keeper r s.objects).1, { s with objects := (keeper r s.objects).2 }) := by
  rcases h with h | h <;> simp only [registry, h]

/-- An address that starts otherwise is not one of events. -/
theorem isEvent_append {a b : String} (h : a.toList.take 7 ≠ "/apis/e".toList) (hsize : 7 ≤ a.toList.length) :
    Registry.isEvent (a ++ b) = false := by
  rw [Registry.isEvent, Bool.eq_false_iff, ne_eq, List.isPrefixOf_iff_prefix, String.toList_append]
  rintro ⟨rest, hrest⟩
  have htake := congrArg (List.take 7) hrest
  rw [List.take_append_of_le_length hsize, List.take_append_of_le_length (by decide)] at htake
  exact h htake.symm

theorem isEvent_place (kind : Kind) (ns : Option String) (rest : String) :
    Registry.isEvent ((Collection.ofKind kind ns).path ++ rest) = false := by
  have hstart : ((Collection.root kind.apiVersion ++ kind.apiVersion).toList.take 7 ≠ "/apis/e".toList) ∧
      7 ≤ (Collection.root kind.apiVersion ++ kind.apiVersion).toList.length := by
    cases kind <;> decide
  rw [Collection.path, String.append_assoc, String.append_assoc]
  exact isEvent_append hstart.1 hstart.2

theorem isEvent_workspaces (rest : String) : Registry.isEvent (Remote.workspaces.path ++ rest) = false :=
  isEvent_append (by decide) (by decide)

theorem patched_writes (h : Writes r c key patch) :
    Registry.patched r.address patch = Remote.workspaces.path ++ "/" ++ key := by
  have hpatch := h.patch
  rw [h.address]
  cases c with
  | setFinalizers _ version finalizers =>
    cases hpatch
    have hstatus : ((Remote.finalizersPatch version finalizers).get? "status").isSome = false := by
      rw [Remote.finalizersPatch_eq]
      rfl
    rw [Registry.patched, hstatus]
    exact String.append_empty
  | patchStatus _ version status =>
    cases hpatch
    have hstatus : ((Remote.statusPatch version status).get? "status").isSome = true := by
      rw [Remote.statusPatch_eq]
      rfl
    rw [Registry.patched, hstatus, if_pos rfl]
    show String.ofList ((Remote.workspaces.objectPath key ++ "/status").toList.take
      ((Remote.workspaces.objectPath key ++ "/status").toList.length - "/status".toList.length)) = _
    rw [String.toList_append, List.length_append, Nat.add_sub_cancel, List.take_left', String.ofList_toList]
    · rfl
    · rfl
  | _ => cases hpatch

theorem registry_patched (h : Writes r c key patch) : registry r s =
    match kept s.objects Remote.workspaces.path key with
    | none => (Server.failure 404 "NotFound" (Remote.workspaces.path ++ "/" ++ key ++ " not found"), s)
    | some object =>
      if Server.stale object patch then
        (Server.failure 409 "Conflict" (Remote.workspaces.path ++ "/" ++ key ++ " has been modified"), s)
      else
        (Server.answer 200 (Server.withVersion (object.mergePatch patch) (s.clock + 1)),
          { objects :=
              if Server.released (Server.withVersion (object.mergePatch patch) (s.clock + 1)) then
                Dict.erase s.objects (Remote.workspaces.path ++ "/" ++ key)
              else Dict.put s.objects (Remote.workspaces.path ++ "/" ++ key)
                (Server.withVersion (object.mergePatch patch) (s.clock + 1))
            clock := s.clock + 1 }) := by
  have hevent : Registry.isEvent r.address = false := by
    rw [h.address, Collection.objectPath, String.append_assoc, String.append_assoc]
    exact isEvent_workspaces _
  rw [registry, h.method]
  simp only [hevent, Bool.false_eq_true, if_false, Registry.patch, h.body, Option.getD_some, patched_writes h]
  rfl

/-- What goes with a namespace in the world goes with it here. -/
theorem goes_place {key : Object.Key} (hname : PathSafe name) (hkey : Placed key) :
    Registry.goes name ((Collection.ofKind key.kind key.ns).path ++ "/" ++ key.name) =
      World.goesWith name (childKey key) := by
  rw [Bool.eq_iff_iff, Registry.goes, Cluster.lastSegment_append hkey.name.slash_not_mem]
  simp only [Bool.or_eq_true, decide_eq_true_eq, List.any_eq_true, Bool.and_eq_true,
    Cluster.address_eq_iff hkey.name hname, Cluster.address_eq_iff hkey.name hkey.name, and_true]
  unfold World.goesWith
  simp only [Bool.or_eq_true, decide_eq_true_eq]
  refine or_congr (and_congr_left fun _ => ⟨fun h => ?_, fun h => ?_⟩) ⟨?_, fun h => ?_⟩
  · exact (Collection.ofKind_path_inj hkey.ns rfl h).1
  · change key.kind = .namespace at h
    have hns := hkey.ns
    rw [h] at hns ⊢
    rw [Option.isSome_eq_false_iff.1 hns |> Option.isNone_iff_eq_none.1]
    rfl
  · rintro ⟨kind, -, hnamespaced, h⟩
    have hns : (some name).isSome = kind.namespaced := hnamespaced.symm
    exact (Collection.ofKind_path_inj hkey.ns hns h).2
  · change key.ns = some name at h
    refine ⟨key.kind, by cases key.kind <;> decide, ?_, by rw [h]⟩
    rw [← hkey.ns, h]
    rfl

/-- A workspace goes with no namespace. -/
theorem goes_workspaces (hname : PathSafe name) (hkey : PathSafe key) :
    Registry.goes name (Remote.workspaces.path ++ "/" ++ key) = false := by
  rw [Bool.eq_false_iff, Registry.goes, Cluster.lastSegment_append hkey.slash_not_mem]
  simp only [ne_eq, Bool.or_eq_true, decide_eq_true_eq, List.any_eq_true, Bool.and_eq_true,
    Cluster.address_eq_iff hkey hname, Cluster.address_eq_iff hkey hkey, and_true]
  rintro (⟨h, -⟩ | ⟨kind, -, -, h⟩)
  · exact workspaces_ne _ _ h
  · exact workspaces_ne _ _ h

theorem gone_success : Gone (Server.answer 200 Registry.success) :=
  .inl ⟨_, readBody_answer rfl _, by decide +kernel⟩

theorem registry_dropped (h : Drops r name) (hname : PathSafe name) :
    Gone (registry r s).1 ∧
      (registry r s).2 = { s with objects := s.objects.filter fun e => !Registry.goes name e.1 } := by
  have hlast : lastSegment (Collection.namespaces.path ++ "/" ++ name) = name :=
    Cluster.lastSegment_append hname.slash_not_mem
  rw [registry, h.method]
  simp only [Registry.delete, h.address, hlast, if_true, and_true]
  split
  · exact gone_success
  · exact .inr ⟨_, readBody_failure _ _ (by decide), rfl⟩

/-- The server maintains what a reconciler writes. -/
theorem maintains_registry : Maintains registry Registry.held Registry.clock where
  found h hname hheld := by
    rw [registry_kept (.inl h.method)]
    exact keeps_keeper.found h hname hheld
  missing h hname hheld := by
    rw [registry_kept (.inl h.method)]
    exact keeps_keeper.missing h hname hheld
  asked h hname := by
    rw [registry_kept (.inl h.method)]
    exact keeps_keeper.asked h hname
  created h hname hheld := by
    rw [registry_kept (.inr h.method)]
    exact keeps_keeper.created h hname hheld
  taken h hname hheld := by
    rw [registry_kept (.inr h.method)]
    exact keeps_keeper.taken h hname hheld
  later r s := by
    unfold registry Registry.patch Registry.delete
    split
    · exact le_refl _
    · exact le_refl _
    · split
      · exact le_refl _
      · dsimp only
        split
        · exact le_refl _
        · split
          · exact le_refl _
          · exact Nat.le_succ _
    · dsimp only
      split <;> exact le_refl _
  shown h hname hheld := by
    rw [registry_kept (.inl h.method), keeper_asked h]
    change kept _ _ _ = _ at hheld
    rw [hheld]
    exact ⟨_, readBody_answer rfl _, rfl⟩
  refused {r s c key patch} h hkey hstale := by
    rw [registry_patched h]
    split
    · exact ⟨⟨_, readBody_failure _ _ (by decide)⟩, fun _ _ _ => rfl⟩
    next object hobject =>
      rw [if_pos (hstale object hobject)]
      exact ⟨⟨_, readBody_failure _ _ (by decide)⟩, fun _ _ _ => rfl⟩
  merged {r s c key patch object stored} h hkey hheld hstale hstored := by
    change kept _ _ _ = _ at hheld
    rw [registry_patched h, hheld] at hstored ⊢
    simp only [hstale, Bool.false_eq_true, if_false] at hstored ⊢
    rw [← hstored]
    refine ⟨Nat.lt_succ_self _, ⟨_, readBody_answer rfl _, rfl⟩, fun p n hn => ?_⟩
    show Dict.get? (if _ then _ else _) (p ++ "/" ++ n) = _
    split
    · rw [Dict.get?_erase]
      simp only [Cluster.address_eq_iff hn hkey]
      rfl
    · rw [Dict.get?_put]
      simp only [Cluster.address_eq_iff hn hkey]
      rfl
  dropped {r s name} h hname := by
    obtain ⟨hgone, hleft⟩ := registry_dropped (s := s) h hname
    refine ⟨hgone, fun key hkey => ?_, fun n hn => ?_⟩
    · rw [hleft]
      refine (Dict.get?_filter s.objects (fun address => !Registry.goes name address) _).trans ?_
      rw [goes_place hname hkey]
      cases World.goesWith name (childKey key) <;> rfl
    · rw [hleft]
      refine (Dict.get?_filter s.objects (fun address => !Registry.goes name address) _).trans ?_
      rw [goes_workspaces hname hn]
      rfl
  aside {r s} hmethod haddress := by
    have hevent : ∀ rest, Registry.isEvent (r.address ++ rest) = true := by
      obtain ⟨front, hfront⟩ := haddress
      intro rest
      rw [hfront, Registry.isEvent, List.isPrefixOf_iff_prefix, String.append_assoc, String.toList_append]
      exact List.prefix_append ..
    have hother : ∀ {address : String}, Registry.isEvent address = false →
        Dict.get? (registry r s).2.objects address = Dict.get? s.objects address := by
      intro address haddress
      rcases hmethod with hpost | hpatch
      · rw [registry_kept (.inr hpost)]
        simp only [keeper, hpost]
        split
        · rfl
        · have hne : address ≠ r.address ++ "/" ++ calledBy (r.body.getD .null) := by
            rintro rfl
            rw [String.append_assoc, hevent] at haddress
            cases haddress
          rw [Dict.get?_put, if_neg hne]
      · have hself : Registry.isEvent r.address = true := by simpa using hevent ""
        simp only [registry, hpatch, hself, if_true]
    refine ⟨fun key _ => hother ?_, fun n _ => hother ?_⟩
    · rw [String.append_assoc]
      exact isEvent_place _ _ _
    · rw [String.append_assoc]
      exact isEvent_workspaces _

end

/-! ## A deletion over it -/

/-- The namespace of a workspace that is to be deleted. -/
def homestead : Object.Child := ⟨{ name := some "team-a" }, .namespace⟩

/-- A server with a workspace that is to be deleted, and its namespace. -/
def lodging : Remote Registry Unit :=
  { cluster :=
      { objects := [(Remote.workspaces.path ++ "/" ++ "team", leaver.toJson),
          (Collection.namespaces.path ++ "/" ++ "team-a", homestead.toJson)] }
    runtimes := ()
    clock := ⟨⟨0, 0, false⟩, 0⟩ }

/-- What it pictures. -/
def vista : World :=
  { outpost leaver with children := [(keyOf homestead, homestead)], clock := lodging.clock.second.text }

theorem describes_leaver : Describes leaver.toJson leaver := by
  refine ⟨leaver.toJson.fields, leaver.metadata.toJson.fields, rfl, ?_⟩
  constructor
  case metadata => rfl
  case once => exact Json.once_present _
  case identity => cbv
  case spec => exact ⟨leaver.spec.toJson, rfl, rfl⟩
  case status => exact ⟨Json.once_present _ _, rfl⟩
  case fits => rfl

/-- Nothing but the namespace is in the place of a child. -/
theorem place_lodging {key : Object.Key} (hkey : Placed key) :
    place (Registry.held lodging.cluster) key = if key = homestead.key then some homestead.toJson else none := by
  have hteam : PathSafe "team" := by decide
  have htenant : PathSafe "team-a" := by decide
  show (if _ then some leaver.toJson else if _ then some homestead.toJson else none) = _
  simp only [Cluster.address_eq_iff hteam hkey.name, Cluster.address_eq_iff htenant hkey.name]
  rw [if_neg fun h => workspaces_ne _ _ h.1]
  obtain ⟨kind, ns, name⟩ := key
  by_cases hk : (⟨kind, ns, name⟩ : Object.Key) = homestead.key
  · cases hk
    rfl
  · rw [if_neg hk, if_neg]
    rintro ⟨hpath, rfl⟩
    have hplace : (Collection.ofKind .namespace none).path = (Collection.ofKind kind ns).path := hpath
    obtain ⟨rfl, rfl⟩ := Collection.ofKind_path_inj rfl hkey.ns hplace
    exact hk rfl

theorem vista_pictures : Pictures Registry.held Registry.clock lodging vista where
  workspaces name hname := by
    have hteam : PathSafe "team" := by decide
    have htenant : PathSafe "team-a" := by decide
    show Option.Rel Records (if _ then some leaver.toJson else if _ then some homestead.toJson else none)
      (if "team" = name then some leaver else none)
    simp only [Cluster.address_eq_iff hteam hname, Cluster.address_eq_iff htenant hname]
    by_cases hk : "team" = name
    · rw [if_pos ⟨trivial, hk⟩, if_pos hk]
      exact .some ⟨describes_leaver, fun _ => by decide⟩
    · rw [if_neg fun h => hk h.2, if_neg fun h => workspaces_ne _ _ h.1.symm, if_neg hk]
      exact .none
  children key hkey := by
    rw [place_lodging hkey]
    show _ = (if keyOf homestead = childKey key then some homestead else none).isSome
    by_cases hk : key = homestead.key
    · cases hk
      rfl
    · rw [if_neg hk, if_neg fun h => hk (childKey_inj key homestead.key h.symm)]
      rfl
  kinds key object hkey hobject := by
    rw [place_lodging hkey] at hobject
    split at hobject
    next hk =>
      cases hobject
      cases hk
      have hsound : Sound homestead := .of_fits rfl (by decide +kernel) (by decide +kernel)
      exact hsound.kind
    next => cases hobject
  versions := le_refl _
  time := rfl

/-- Over the server a workspace is deleted, and its namespace with it. -/
theorem teardown_done_leaver :
    ∃ s', (teardown leaver).run.run (Remote.handle {} registry Http.unreachable) lodging = (.ok (), s') ∧
      place (Registry.held s'.cluster) homestead.key = none := by
  have hstored : vista.workspace? "team" = some leaver := rfl
  have hrun : (teardown leaver).run.run (Remote.handle {} registry Http.unreachable) lodging = (_, _) := rfl
  obtain ⟨hok, hgone, -⟩ := teardown_done {} Http.unreachable maintains_registry vista_pictures hstored rfl rfl
    (by decide) (by decide) (by decide) (by decide) hrun
  exact ⟨_, Prod.ext hok rfl, hgone homestead.key ⟨by decide, rfl, by rintro _ ⟨⟩⟩ rfl⟩

end Tenancy.Simulation
