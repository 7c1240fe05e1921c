/-
A server that keeps what it is given. It is a cluster that keeps objects by path and name (`keeps_keeper`), so
errands over it are answered as by a map (`errands_refine_supplies`); only what has too long an address never gets to
it (`look_overlong`).
-/
import Tenancy.Proofs.Run.World
import Tenancy.Proofs.Tenant.Documents

namespace Tenancy.Simulation

open Cluster (Asks Collection Keeps PathSafe Sends Target)
open Object (Child Kind OwnerReference)
open Operator

/-! ## The server -/

/-- What an object is called. -/
def calledBy (object : Json) : String := Json.Field.text (object.get "metadata") "name"

/-- Gives the objects that have been created, by path and name, and changes none of them. -/
def keeper : Http.Transport (Dict String Json) := fun r objects =>
  match r.method with
  | .get =>
    match Dict.get? objects r.address with
    | some object => (Server.answer 200 object, objects)
    | none => (Server.failure 404 "NotFound" (r.address ++ " not found"), objects)
  | .post =>
    let object := r.body.getD .null
    let address := r.address ++ "/" ++ calledBy object
    match Dict.get? objects address with
    | some _ => (Server.failure 409 "AlreadyExists" (address ++ " already exists"), objects)
    | none => (Server.answer 201 object, Dict.put objects address object)
  | _ => (Server.failure 405 "MethodNotAllowed" "method not allowed", objects)

/-- What the server holds in a collection under a name. -/
def kept (objects : Dict String Json) (path name : String) : Option Json := Dict.get? objects (path ++ "/" ++ name)

section

variable {r : Http.Request} {objects : Dict String Json} {path name : String} {object : Json}

theorem keeper_asked (h : Asks r path name) : keeper r objects =
    match kept objects path name with
    | some object => (Server.answer 200 object, objects)
    | none => (Server.failure 404 "NotFound" (path ++ "/" ++ name ++ " not found"), objects) := by
  rw [keeper, h.method, h.address]
  rfl

theorem keeper_sent (h : Sends r path name object) : keeper r objects =
    match kept objects path name with
    | some _ => (Server.failure 409 "AlreadyExists" (path ++ "/" ++ name ++ " already exists"), objects)
    | none => (Server.answer 201 object, Dict.put objects (path ++ "/" ++ name) object) := by
  have hname : calledBy object = name := by rw [calledBy, Json.Field.text, Json.Field.text?, h.name]; rfl
  rw [keeper, h.method, h.address, h.body]
  simp only [Option.getD_some, hname]
  rfl

theorem keeps_keeper : Keeps keeper kept where
  found h _ hheld := by
    rw [keeper_asked h, hheld]
    exact gives_answer rfl _
  missing h _ hheld := by
    rw [keeper_asked h, hheld]
    exact ⟨_, readBody_failure _ _ (by decide), rfl⟩
  asked h _ p n _ := by
    rw [keeper_asked h]
    split <;> rfl
  created {r objects path name object} h hname hheld := by
    rw [keeper_sent h, hheld]
    refine ⟨gives_answer rfl _, fun p n hn => ?_⟩
    show Dict.get? (Dict.put objects (path ++ "/" ++ name) object) (p ++ "/" ++ n) = _
    rw [Dict.get?_put]
    simp only [Cluster.address_eq_iff hn hname]
    rfl
  taken h _ hheld := by
    rw [keeper_sent h, hheld]
    exact ⟨⟨_, readBody_failure _ _ (by decide), rfl, rfl⟩, fun _ _ _ => rfl⟩

end

/-! ## Errands to it -/

/-- Everything that a workspace with a scaled front-end asks for, objects of every kind. -/
def supplies : List Child :=
  (Tenant.plan newcomer ⟨"example.com", "1", "1"⟩ { scaleToZero := true }).filterMap Tenant.Entry.child?

/-- The reference by which they name the workspace. -/
def possession : OwnerReference :=
  { apiVersion := Workspace.apiVersion, kind := Workspace.kind, name := "team", uid := "u1", controller := some true }

/-- A quota without the namespace that it has to have. -/
def stray : Child := ⟨{ name := some "quota" }, .resourceQuota []⟩

/-- Every object is looked for and created twice, and then the one that has no place. -/
def deliveries : List Errand :=
  supplies.flatMap (fun child => (List.replicate 2 [.look child, .make (child.setOwner possession)]).flatten) ++
    [.look stray, .make stray]

/-- What look-ups have found. -/
def finds (t : Trace) : List Bool := t.filterMap fun
  | ⟨.childExists _, .ok found⟩ => some found
  | _ => none

/-- Nothing has been created, and nothing happened to the runtimes. -/
def outset : Remote (Dict String Json) Unit := { cluster := [], runtimes := (), clock := ⟨⟨0, 0, false⟩, 0⟩ }

theorem supplies_asked {child : Child} (h : child ∈ supplies) :
    .ensure child ∈ Tenant.plan newcomer ⟨"example.com", "1", "1"⟩ { scaleToZero := true } := by
  obtain ⟨e, he, hc⟩ := List.mem_filterMap.1 h
  cases e with
  | ensure child' => exact Option.some.inj hc ▸ he
  | readiness => cases hc

theorem deliveries_proper : ∀ e ∈ deliveries, e.Proper := by
  have hsafe : PathSafe newcomer.workspaceName := by decide +kernel
  have howner : newcomer.ownerReference? = some possession := rfl
  intro e he
  rcases List.mem_append.1 he with he | he
  · obtain ⟨child, hc, he⟩ := List.mem_flatMap.1 he
    obtain ⟨hlook, hmake⟩ := Tenant.plan_proper hsafe howner (supplies_asked hc)
    simp only [List.replicate, List.flatten_cons, List.flatten_nil, List.append_nil, List.cons_append, List.nil_append,
      List.mem_cons, List.not_mem_nil, or_false] at he
    rcases he with rfl | rfl | rfl | rfl
    · exact hlook
    · exact hmake
    · exact hlook
    · exact hmake
  · simp only [List.mem_cons, List.not_mem_nil, or_false] at he
    rcases he with rfl | rfl <;> exact .inl ⟨rfl, rfl⟩

/-- An object of every kind is found once it has been created, and not before; the one that has no place is neither
looked for nor created. -/
theorem errands_refine_supplies :
    (∀ kind ∈ Kind.all, ∃ child ∈ supplies, child.kind = kind) ∧
    finds (errands (Remote.errand {} keeper Http.unreachable) deliveries outset).1 =
      supplies.flatMap (fun _ => [false, true]) ∧
    (∀ child ∈ supplies, (kept (errands (Remote.errand {} keeper Http.unreachable) deliveries outset).2.cluster
      (Collection.ofKind child.kind child.ns).path child.name).isSome = true) ∧
    (Remote.errand {} Http.unreachable Http.unreachable (.make stray) outset).1 =
      .error (.internal "ResourceQuota quota has no namespace") := by
  have hstart : Mirrors (kept outset.cluster) fun _ => none := by
    refine ⟨fun _ _ => rfl, ?_⟩
    rintro key object - ⟨⟩
  obtain ⟨htrace, hmirrors, -, -, hhindered⟩ :=
    errands_refine {} Http.unreachable keeps_keeper hstart deliveries_proper
  have hclear : ∀ child ∈ supplies, (Errand.make (child.setOwner possession)).hindrance?.isNone = true := by
    decide +kernel
  have hmade : ∀ child ∈ supplies, .make (child.setOwner possession) ∈ deliveries := fun child hc =>
    List.mem_append_left _ (List.mem_flatMap.2 ⟨child, hc, by simp⟩)
  have hstray : .make stray ∈ deliveries := List.mem_append_right _ (by simp)
  have hplaced : ∀ child ∈ supplies, Placed child.key := fun child hc =>
    Tenant.plan_placed (by decide +kernel) (supplies_asked hc)
  refine ⟨by decide +kernel, ?_, fun child hc => ?_, ?_⟩
  · rw [htrace]
    decide +kernel
  · have hheld := hmirrors.held child.key (hplaced child hc)
    show (kept _ (Collection.ofKind child.key.kind child.key.ns).path child.key.name).isSome = true
    rw [hheld]
    exact errands_isSome.2 (.inr ⟨_, hmade child hc, rfl, Option.isNone_iff_eq_none.1 (hclear child hc)⟩)
  · exact congrArg Prod.fst (hhindered (.make stray) hstray _ rfl Http.unreachable outset)

/-! ## Overlong addresses -/

/-- A name of the given length. -/
def drawn (n : Nat) : String := String.ofList (List.replicate n 'a')

theorem pathSafe_drawn {n : Nat} (h : 0 < n) : PathSafe (drawn n) := by
  refine ⟨?_, fun c hc => ?_⟩
  · intro he
    have hlength := congrArg (fun s : String => s.toList.length) he
    rw [drawn, String.toList_ofList, List.length_replicate] at hlength
    exact Nat.ne_of_gt h hlength
  · rw [drawn, String.toList_ofList] at hc
    obtain rfl := List.eq_of_mem_replicate hc
    decide

theorem utf8ByteSize_drawn (n : Nat) : (drawn n).utf8ByteSize = n := by
  induction n with
  | zero => rfl
  | succ n ih =>
    have hsplit : drawn (n + 1) = "a" ++ drawn n := by
      rw [drawn, List.replicate_succ, ← List.singleton_append, String.ofList_append]
      rfl
    have hone : "a".utf8ByteSize = 1 := rfl
    rw [hsplit, String.utf8ByteSize_append, ih, hone, Nat.add_comm]

/-- A namespace with a name of the given length. -/
def sprawling (n : Nat) : Child := ⟨{ name := some (drawn n) }, .namespace⟩

/-- A server that keeps what it is given has nothing, but a look-up under a long name is an error and finds not even
that. -/
theorem look_overlong : Keeps keeper kept ∧ Placed (sprawling 65535).key ∧
    (Remote.errand {} keeper Http.unreachable (.look (sprawling 65535)) outset).1 ≠ .ok false := by
  have hsafe : PathSafe (drawn 65535) := pathSafe_drawn (by decide)
  have hplaced : Placed (sprawling 65535).key := by
    refine ⟨hsafe, rfl, ?_⟩
    rintro n ⟨⟩
  refine ⟨keeps_keeper, hplaced, ?_⟩
  have hsize : Target.maxSize < ((Collection.ofKind .namespace none).objectPath (drawn 65535)).utf8ByteSize := by
    rw [Collection.objectPath, String.utf8ByteSize_append, utf8ByteSize_drawn]
    exact Nat.lt_of_lt_of_le (by decide) (Nat.le_add_left _ _)
  show (Remote.askCluster keeper (Remote.childExists (sprawling 65535)) outset).1 ≠ _
  rw [Remote.askCluster, Remote.childExists_tooLong hplaced hsize]
  rintro ⟨⟩

end Tenancy.Simulation
