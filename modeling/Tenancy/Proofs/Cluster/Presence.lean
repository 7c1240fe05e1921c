/-
Whether a child that a pass takes for made is there. A cluster may refuse a creation for reasons of its own, and says
so with a code and a reason. Over one that tells the truth, a child that was found or created is there, with one
exception (`ensure_stored`): every refusal with code 409 counts as if the object existed, whatever its reason is, so a
child may be taken for made that nobody has stored (`ensure_conflict`).
-/
import Tenancy.Proofs.Cluster.Keeper
import Tenancy.Proofs.Object.Document

namespace Tenancy.Operator

open Cluster (Asks Collection PathSafe Refusal Sends Target readBody readObject readObject?)
open Http (Transport)
open Object (Child Key)

variable {κ ρ : Type}

/-! ## Truthful clusters -/

/-- The path of the collection in which an object lies. -/
def pathOf (key : Key) : String := (Collection.ofKind key.kind key.ns).path

/-- A cluster that tells the truth. It gives only objects that are there. A creation it either carries out or refuses,
and then nothing changes; that the object exists already it says only if it does. What it refuses, and why, is left
open. -/
structure Truthful (t : Transport κ) (holds : κ → Key → Prop) : Prop where
  given {r : Http.Request} {k : κ} {key : Key} {body : Bytes} : Placed key → Asks r (pathOf key) key.name →
    readBody (t r k).1 = .ok body → holds (t r k).2 key
  created {r : Http.Request} {k : κ} {key : Key} {object : Json} : Placed key → Sends r (pathOf key) key.name object →
    holds (t r k).2 key ∨ ∃ refusal, readBody (t r k).1 = .error (.refused refusal) ∧
      (∀ key', Placed key' → (holds (t r k).2 key' ↔ holds k key')) ∧ (refusal.reason = "AlreadyExists" → holds k key)

/-- A cluster that keeps what it is given is truthful. -/
theorem Truthful.of_keeps {t : Transport κ} {held : κ → String → String → Option Json}
    (h : Cluster.Keeps t held) : Truthful t fun k key => (held k (pathOf key) key.name).isSome = true where
  given {r k key body} hp ha hb := by
    rw [h.asked ha hp.name _ _ hp.name]
    cases hheld : held k (pathOf key) key.name with
    | some object => rfl
    | none =>
      obtain ⟨refusal, hr, -⟩ := h.missing ha hp.name hheld
      rw [hb] at hr
      cases hr
  created {r k key object} hp hs := by
    cases hheld : held k (pathOf key) key.name with
    | none =>
      left
      rw [(h.created hs hp.name hheld).2 _ _ hp.name, if_pos ⟨rfl, rfl⟩]
      rfl
    | some old =>
      left
      rw [(h.taken hs hp.name hheld).2 _ _ hp.name, hheld]
      rfl

/-! ## Answers -/

section

variable {α : Type} {d : Decoder α} {reply : Http.Reply}

theorem readBody_of_readObject {a : α} (h : readObject d reply = .ok a) : ∃ body, readBody reply = .ok body := by
  rw [readObject] at h
  cases hb : readBody reply with
  | ok body => exact ⟨body, rfl⟩
  | error e =>
    rw [hb] at h
    cases h

theorem readObject_of_readObject? {a : α} (h : readObject? d reply = .ok (some a)) : readObject d reply = .ok a := by
  rw [readObject?] at h
  split at h
  · next a' ha => rw [ha, Option.some.inj (Except.ok.inj h)]
  · next r hr =>
    split at h <;> cases h
  · cases h

end

/-! ## Looking and creating -/

section

variable {σ : Type} (h : Handler σ)

/-- Making sure that a child exists looks for it, and creates it if it is not found. -/
theorem run_ensure (owner : Workspace) (child : Child) (s : σ) :
    Program.run h (ensure owner child).run s =
      match h (.childExists child) s with
      | (.error e, s₁) => (.error e, s₁)
      | (.ok true, s₁) => (.ok .present, s₁)
      | (.ok false, s₁) =>
        match owner.ownerReference? with
        | none => (.error (.internal ("workspace " ++ owner.name ++ " has no uid; cannot own children")), s₁)
        | some o =>
          match h (.createChild (child.setOwner o)) s₁ with
          | (.error e, s₂) => (.error e, s₂)
          | (.ok (), s₂) => (.ok .created, s₂) := by
  have hlook : Program.run h (Operation.childExists child).run s = h (.childExists child) s := rfl
  unfold ensure
  rw [Operation.run_bind, hlook]
  rcases h (.childExists child) s with ⟨e | _ | _, s₁⟩
  · rfl
  · cases owner.ownerReference? with
    | none => rfl
    | some o =>
      have hmake : Program.run h (Operation.createChild (child.setOwner o)).run s₁ =
          h (.createChild (child.setOwner o)) s₁ := rfl
      simp only [Bool.false_eq_true, if_false]
      rw [Operation.run_bind, hmake]
      rcases h (.createChild (child.setOwner o)) s₁ with ⟨_ | _, s₂⟩ <;> rfl
  · rfl

end

namespace Remote

/-- The request by which a child is looked for. -/
def search (child : Child) : Http.Request := { method := .get, address := pathOf child.key ++ "/" ++ child.name }

/-- The request by which a child is created. -/
def creation (child : Child) : Http.Request :=
  { method := .post, address := pathOf child.key, contentType := some Cluster.jsonType, body := some child.toJson }

/-- The creation of a child is refused with the code of a conflict, and not because the child exists already. -/
def Conflicts (t : Transport κ) (k : κ) (child : Child) : Prop :=
  ∃ refusal, readBody (t (creation child) k).1 = .error (.refused refusal) ∧ refusal.code = 409 ∧
    refusal.reason ≠ "AlreadyExists"

variable {t : Transport κ} {holds : κ → Key → Prop} {k : κ} {child : Child}

theorem asks_search (child : Child) : Asks (search child) (pathOf child.key) child.name := ⟨rfl, rfl, rfl⟩

theorem sends_creation (hp : Placed child.key) (hh : child.Headed) :
    Sends (creation child) (pathOf child.key) child.name child.toJson :=
  ⟨rfl, rfl, rfl, rfl, Child.name_toJson hh hp.name.1⟩

theorem perform_childExists (hp : Placed child.key)
    (hsize : ((Collection.ofKind child.kind child.ns).objectPath child.name).utf8ByteSize ≤ Target.maxSize) :
    (childExists child).perform t k =
      (((readObject? (Child.decode child.kind) (t (search child) k).1).map Option.isSome).mapError .cluster,
        (t (search child) k).2) := by
  have hrequest : (Cluster.get (.ofKind child.kind child.ns) child.name (Child.decode child.kind)).request =
      .ok (search child) := Cluster.get_request hp.plain hp.name hsize
  rw [childExists_placed hp, asked, Http.Exchange.perform_mapError, Http.Exchange.perform_map,
    Http.Exchange.perform_ok hrequest]
  rfl

theorem perform_createChild (hp : Placed child.key)
    (hsize : ((Collection.ofKind child.kind child.ns).path ++ "?").utf8ByteSize ≤ Target.maxSize) :
    (createChild child).perform t k =
      (((Cluster.createOnce (.ofKind child.kind child.ns) child.toJson (Child.decode child.kind)).read
        (t (creation child) k).1).mapError .cluster, (t (creation child) k).2) := by
  have hrequest : (Cluster.createOnce (.ofKind child.kind child.ns) child.toJson (Child.decode child.kind)).request =
      .ok (creation child) := Cluster.create_request hp.plain hsize
  rw [createChild_placed hp, asked, Http.Exchange.perform_mapError, Http.Exchange.perform_ok hrequest]

/-- A child that is found is there. -/
theorem childExists_found (ht : Truthful t holds) (hp : Placed child.key)
    (h : ((childExists child).perform t k).1 = .ok true) : holds ((childExists child).perform t k).2 child.key := by
  by_cases hsize : ((Collection.ofKind child.kind child.ns).objectPath child.name).utf8ByteSize ≤ Target.maxSize
  · rw [perform_childExists hp hsize] at h ⊢
    cases hread : readObject? (Child.decode child.kind) (t (search child) k).1 with
    | error e =>
      rw [hread] at h
      cases h
    | ok found =>
      cases found with
      | none =>
        rw [hread] at h
        cases h
      | some c =>
        obtain ⟨body, hbody⟩ := readBody_of_readObject (readObject_of_readObject? hread)
        exact ht.given hp (asks_search child) hbody
  · rw [childExists_tooLong hp (Nat.lt_of_not_le hsize)] at h
    cases h

/-- A child that counts as created is there, unless its creation conflicts with something else. -/
theorem createChild_done (ht : Truthful t holds) (hp : Placed child.key) (hh : child.Headed)
    (h : ((createChild child).perform t k).1 = .ok ()) :
    holds ((createChild child).perform t k).2 child.key ∨ Conflicts t k child := by
  by_cases hsize : ((Collection.ofKind child.kind child.ns).path ++ "?").utf8ByteSize ≤ Target.maxSize
  · rw [perform_createChild hp hsize] at h ⊢
    rcases ht.created hp (sends_creation hp hh) with hstored | ⟨refusal, hr, hsame, hreason⟩
    · exact .inl hstored
    · -- the refusal has been read as one, so its code is what made it count
      have hcode : refusal.code = 409 := by
        by_contra hne
        simp only [Cluster.createOnce, Cluster.readObject_refused hr, if_neg hne] at h
        cases h
      by_cases hexists : refusal.reason = "AlreadyExists"
      · exact .inl ((hsame _ hp).2 (hreason hexists))
      · exact .inr ⟨refusal, hr, hcode, hexists⟩
  · rw [createChild_tooLong hp (Nat.lt_of_not_le hsize)] at h
    cases h

/-- Whatever the reason of a refusal is, its code makes it count. -/
theorem createChild_conflict (hp : Placed child.key)
    (hsize : ((Collection.ofKind child.kind child.ns).path ++ "?").utf8ByteSize ≤ Target.maxSize) {refusal : Refusal}
    (h : readBody (t (creation child) k).1 = .error (.refused refusal)) (hcode : refusal.code = 409) :
    ((createChild child).perform t k).1 = .ok () := by
  rw [perform_createChild hp hsize]
  simp only [Cluster.createOnce, Cluster.readObject_refused h, if_pos hcode]
  rfl

/-- Any other failure of a creation is told as it is. -/
theorem createChild_failed (hp : Placed child.key)
    (hsize : ((Collection.ofKind child.kind child.ns).path ++ "?").utf8ByteSize ≤ Target.maxSize) {e : Cluster.Error}
    (h : readObject (Child.decode child.kind) (t (creation child) k).1 = .error e)
    (hcode : ∀ refusal, e = .refused refusal → refusal.code ≠ 409) :
    ((createChild child).perform t k).1 = .error (.cluster e) := by
  rw [perform_createChild hp hsize]
  simp only [Cluster.createOnce, h]
  cases e with
  | refused refusal =>
    simp only [if_neg (hcode refusal rfl)]
    rfl
  | _ => rfl

variable (config : Config) (t : Transport κ) (runtimes : Transport ρ)

/-- The look for a child over the network. -/
def look (child : Child) (s : Remote κ ρ) : Except Error Bool × Remote κ ρ :=
  handle config t runtimes (.childExists child) s

/-- The creation of a child over the network. -/
def make (child : Child) (s : Remote κ ρ) : Except Error Unit × Remote κ ρ :=
  handle config t runtimes (.createChild child) s

/-- Making sure over the network that a child exists. -/
def ensure (owner : Workspace) (child : Child) (s : Remote κ ρ) : Except Error Ensured × Remote κ ρ :=
  Program.run (handle config t runtimes) (Operator.ensure owner child).run s

end Remote

/-! ## Making sure -/

section

variable (config : Config) {t : Transport κ} (runtimes : Transport ρ) {holds : κ → Key → Prop} {child : Child}
  {owner : Workspace} {o : Object.OwnerReference} {s s₁ : Remote κ ρ}

theorem ensure_unknown {e : Error} (h : Remote.look config t runtimes child s = (.error e, s₁)) :
    Remote.ensure config t runtimes owner child s = (.error e, s₁) := by
  rw [Remote.ensure, run_ensure, show Remote.handle config t runtimes (.childExists child) s = _ from h]

theorem ensure_found (h : Remote.look config t runtimes child s = (.ok true, s₁)) :
    Remote.ensure config t runtimes owner child s = (.ok .present, s₁) := by
  rw [Remote.ensure, run_ensure, show Remote.handle config t runtimes (.childExists child) s = _ from h]

theorem ensure_ownerless (h : Remote.look config t runtimes child s = (.ok false, s₁))
    (ho : owner.ownerReference? = none) : ∃ e, Remote.ensure config t runtimes owner child s = (.error e, s₁) := by
  rw [Remote.ensure, run_ensure, show Remote.handle config t runtimes (.childExists child) s = _ from h, ho]
  exact ⟨_, rfl⟩

/-- Making sure of a child that is not found is creating it. -/
theorem ensure_missing (h : Remote.look config t runtimes child s = (.ok false, s₁)) (ho : owner.ownerReference? = some o) :
    Remote.ensure config t runtimes owner child s =
      ((Remote.make config t runtimes (child.setOwner o) s₁).1.map fun _ => .created,
        (Remote.make config t runtimes (child.setOwner o) s₁).2) := by
  rw [Remote.ensure, run_ensure, show Remote.handle config t runtimes (.childExists child) s = _ from h, ho]
  unfold Remote.make
  dsimp only
  rcases Remote.handle config t runtimes (.createChild (child.setOwner o)) s₁ with ⟨_ | _, s₂⟩ <;> rfl

/-- What can be looked for can be created. -/
theorem size_of_look {found : Bool} (hp : Placed child.key) (h : Remote.look config t runtimes child s = (.ok found, s₁)) :
    ((Collection.ofKind child.kind child.ns).path ++ "?").utf8ByteSize ≤ Target.maxSize := by
  have hproper : (Errand.look child).Proper := .inr ⟨hp, by rintro made ⟨⟩⟩
  cases hlook : (Errand.look child).hindrance? with
  | some e =>
    have hhindered : Remote.look config t runtimes child s = (.error e, s) := Errand.hindered config runtimes hproper hlook
    rw [hhindered] at h
    cases h
  | none =>
    have hmake : (Errand.make child).hindrance? = none := Errand.make_of_look rfl hlook
    unfold Errand.hindrance? at hmake
    split_ifs at hmake with hhome hsize
    exact Nat.le_of_not_lt hsize

/-- Over a truthful cluster a child of which a pass makes sure is there, unless it was to be created and the creation
conflicted with something else. A creation that has failed in any other way is an error. -/
theorem ensure_stored (ht : Truthful t holds) (hp : Placed child.key) (hh : child.Headed) (owner : Workspace)
    (s : Remote κ ρ) :
    (∀ ensured, (Remote.ensure config t runtimes owner child s).1 = .ok ensured →
      holds (Remote.ensure config t runtimes owner child s).2.cluster child.key ∨
        ensured = .created ∧ ∃ o, owner.ownerReference? = some o ∧
          Remote.Conflicts t (Remote.look config t runtimes child s).2.cluster (child.setOwner o)) ∧
    ∀ o e, owner.ownerReference? = some o → (Remote.look config t runtimes child s).1 = .ok false →
      readObject (Child.decode child.kind)
        (t (Remote.creation (child.setOwner o)) (Remote.look config t runtimes child s).2.cluster).1 = .error e →
      (∀ refusal, e = .refused refusal → refusal.code ≠ 409) →
        (Remote.ensure config t runtimes owner child s).1 = .error (.cluster e) := by
  rcases hlook : Remote.look config t runtimes child s with ⟨x, s₁⟩
  refine ⟨fun ensured h => ?_, fun o e ho hx he hcode => ?_⟩
  · rcases x with e | _ | _
    · rw [ensure_unknown config runtimes hlook] at h
      cases h
    · cases ho : owner.ownerReference? with
      | none =>
        obtain ⟨e, he⟩ := ensure_ownerless config runtimes hlook ho
        rw [he] at h
        cases h
      | some o =>
        rw [ensure_missing config runtimes hlook ho] at h ⊢
        cases hmake : (Remote.make config t runtimes (child.setOwner o) s₁).1 with
        | error e =>
          rw [hmake] at h
          cases h
        | ok u =>
          rw [hmake] at h
          have hdone : holds (Remote.make config t runtimes (child.setOwner o) s₁).2.cluster child.key ∨
              Remote.Conflicts t s₁.cluster (child.setOwner o) := Remote.createChild_done ht hp hh hmake
          exact hdone.imp_right fun hconflict => ⟨(Except.ok.inj h).symm, o, rfl, hconflict⟩
    · rw [ensure_found config runtimes hlook]
      have hfound : holds (Remote.look config t runtimes child s).2.cluster child.key :=
        Remote.childExists_found ht hp (congrArg Prod.fst hlook)
      rw [hlook] at hfound
      exact .inl hfound
  · obtain rfl : x = .ok false := hx
    have hplaced : Placed (child.setOwner o).key := hp
    have hfailed : (Remote.make config t runtimes (child.setOwner o) s₁).1 = .error (.cluster e) :=
      Remote.createChild_failed hplaced (size_of_look config runtimes hp hlook) he hcode
    rw [ensure_missing config runtimes hlook ho, hfailed]
    rfl

/-- Over a cluster that keeps what it is given, a child that is missing is created, and in conflict with nothing. -/
theorem ensure_kept {held : κ → String → String → Option Json} {shelf : Shelf} (hk : Cluster.Keeps t held)
    (hm : Mirrors (held s.cluster) shelf) (hp : Placed child.key) (ho : owner.ownerReference? = some o)
    (hsound : Sound (child.setOwner o)) (hmissing : shelf child.key = none)
    (hsize : ((Collection.ofKind child.kind child.ns).objectPath child.name).utf8ByteSize ≤ Target.maxSize) :
    (Remote.ensure config t runtimes owner child s).1 = .ok .created ∧
      ¬Remote.Conflicts t (Remote.look config t runtimes child s).2.cluster (child.setOwner o) := by
  rcases hlook : Remote.look config t runtimes child s with ⟨x, s₁⟩
  have hanswer : (Remote.look config t runtimes child s).1 = .ok (shelf child.key).isSome ∧
      Mirrors (held (Remote.look config t runtimes child s).2.cluster) shelf := Remote.childExists_kept hk hm hp hsize
  rw [hlook, hmissing] at hanswer
  obtain ⟨rfl, hmid⟩ := hanswer
  have hplaced : Placed (child.setOwner o).key := hp
  constructor
  · have hmake : (Remote.make config t runtimes (child.setOwner o) s₁).1 = .ok () :=
      (Remote.createChild_kept hk hmid hplaced hsound (size_of_look config runtimes hp hlook)).1
    rw [ensure_missing config runtimes hlook ho, hmake]
    rfl
  · rintro ⟨refusal, hrefused, -⟩
    have hnone := (hmid.held child.key hp).trans hmissing
    have hsends : Sends (Remote.creation (child.setOwner o)) (pathOf child.key) child.name (child.setOwner o).toJson :=
      ⟨rfl, rfl, rfl, rfl, hsound.name⟩
    obtain ⟨⟨body, hbody, -⟩, -⟩ := hk.created hsends hp.name hnone
    cases hbody.symm.trans hrefused

end

end Tenancy.Operator

namespace Tenancy.Simulation

open Cluster (Collection Target readBody readObject readObject?)
open Object (Child Key)
open Operator

/-! ## Servers that refuse -/

/-- A server that has nothing and refuses whatever it is given, with a code and for a reason. -/
def barren (code : Nat) (reason : String) : Http.Transport Unit := fun r s =>
  match r.method with
  | .get => (Server.failure 404 "NotFound" "not found", s)
  | _ => (Server.failure code reason "refused", s)

/-- Nothing is held. -/
def Bare (_ : Unit) (_ : Key) : Prop := False

theorem truthful_barren (code : Nat) (reason : String) (hcode : 400 ≤ code ∧ code < 600) (hreason : reason ≠ "AlreadyExists") :
    Truthful (barren code reason) Bare where
  given _ ha hb := by
    rw [barren, ha.method, readBody_failure _ _ (by decide)] at hb
    cases hb
  created _ hs := by
    right
    refine ⟨⟨"Failure", "refused", reason, code⟩, ?_, fun _ _ => Iff.rfl, fun he => absurd he hreason⟩
    rw [barren, hs.method, readBody_failure _ _ hcode]

/-- The namespace of a tenant. -/
def plot : Child :=
  Tenant.Manifest.home newcomer.workspaceName (Tenant.labelled newcomer.workspaceName newcomer.workspaceName .namespace)

theorem placed_plot : Placed plot.key := by
  refine ⟨by decide +kernel, rfl, ?_⟩
  rintro n ⟨⟩

theorem headed_plot : plot.Headed := Child.headed_of_made nofun

theorem size_plot : ((Collection.ofKind plot.kind plot.ns).objectPath plot.name).utf8ByteSize ≤ Target.maxSize := by
  decide +kernel

/-- Nothing has happened. -/
def untouched : Remote Unit Unit := { cluster := (), runtimes := (), clock := ⟨⟨0, 0, false⟩, 0⟩ }

section

variable (code : Nat) (reason : String)

theorem look_barren : Remote.look {} (barren code reason) Http.unreachable plot untouched = (.ok false, untouched) := by
  have hanswer : barren code reason (Remote.search plot) () = (Server.failure 404 "NotFound" "not found", ()) := rfl
  have hread : readObject? (Child.decode plot.kind) (Server.failure 404 "NotFound" "not found") = .ok none := by
    rw [readObject?, Cluster.readObject_refused (readBody_failure _ _ (by decide))]
    rfl
  show Remote.askCluster _ (Remote.childExists plot) untouched = _
  rw [Remote.askCluster, Remote.perform_childExists placed_plot size_plot]
  show (Except.mapError _ (Except.map _ (readObject? _ (barren code reason (Remote.search plot) ()).1)), _) = _
  rw [hanswer, hread]
  rfl

variable {code}

theorem readBody_barren (h : 400 ≤ code ∧ code < 600) (o : Object.OwnerReference) :
    readBody (barren code reason (Remote.creation (plot.setOwner o)) ()).1 =
      .error (.refused ⟨"Failure", "refused", reason, code⟩) := readBody_failure _ _ h

end

/-- Over a server that keeps what it is given, a namespace is there once it counts as created; over one that forbids its
creation, that is an error. -/
theorem ensure_stored_plot :
    (kept (Remote.ensure {} keeper Http.unreachable newcomer plot outset).2.cluster (pathOf plot.key) plot.name).isSome =
        true ∧
      (Remote.ensure {} (barren 403 "Forbidden") Http.unreachable newcomer plot untouched).1 =
        .error (.cluster (.refused ⟨"Failure", "refused", "Forbidden", 403⟩)) := by
  have howner : newcomer.ownerReference? = some possession := rfl
  constructor
  · have hstart : Mirrors (kept outset.cluster) fun _ => none := ⟨fun _ _ => rfl, by rintro key object - ⟨⟩⟩
    have hasked : .ensure plot ∈ Tenant.plan newcomer ⟨"example.com", "1", "1"⟩ {} := List.mem_cons_self ..
    obtain ⟨hensure, hclear⟩ := ensure_kept {} Http.unreachable keeps_keeper hstart placed_plot howner
      (Tenant.plan_sound hasked howner) rfl size_plot
    obtain ⟨hstored, -⟩ :=
      ensure_stored {} Http.unreachable (.of_keeps keeps_keeper) placed_plot headed_plot newcomer outset
    rcases hstored _ hensure with hheld | ⟨-, o, ho, hconflict⟩
    · exact hheld
    · obtain rfl := Option.some.inj (howner.symm.trans ho)
      exact absurd hconflict hclear
  · have hlook := look_barren 403 "Forbidden"
    obtain ⟨-, hfailed⟩ := ensure_stored {} Http.unreachable (truthful_barren 403 "Forbidden" (by decide) (by decide))
      placed_plot headed_plot newcomer untouched
    refine hfailed possession _ howner (congrArg Prod.fst hlook) ?_ ?_
    · rw [hlook]
      exact Cluster.readObject_refused (readBody_barren "Forbidden" (by decide) possession)
    · rintro refusal ⟨⟩
      decide

/-- A conflict that has nothing to do with the child counts as its creation: a server that holds nothing and tells no
lie, and a child that counts as created. -/
theorem ensure_conflict : Truthful (barren 409 "Conflict") Bare ∧ Placed plot.key ∧ plot.Headed ∧
    (Remote.ensure {} (barren 409 "Conflict") Http.unreachable newcomer plot untouched).1 = .ok .created ∧
    ¬Bare (Remote.ensure {} (barren 409 "Conflict") Http.unreachable newcomer plot untouched).2.cluster plot.key := by
  have hlook := look_barren 409 "Conflict"
  have hplaced : Placed (plot.setOwner possession).key := placed_plot
  have hmake : (Remote.make {} (barren 409 "Conflict") Http.unreachable (plot.setOwner possession) untouched).1 = .ok () :=
    Remote.createChild_conflict hplaced (size_of_look {} Http.unreachable placed_plot hlook)
      (readBody_barren "Conflict" (by decide) possession) rfl
  refine ⟨truthful_barren 409 "Conflict" (by decide) (by decide), placed_plot, headed_plot, ?_, id⟩
  rw [ensure_missing {} Http.unreachable hlook rfl]
  show (Except.map _ (Remote.make _ _ _ (plot.setOwner possession) untouched).1) = _
  rw [hmake]
  rfl

end Tenancy.Simulation
