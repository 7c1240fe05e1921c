/-
A world as the picture of a cluster. Over a cluster that serves a reconciler, a call on workspaces, children,
namespaces, events or the clock is answered as in the world that pictures the cluster, and this goes on picturing it
(`Pictures.step`). What others do in the world before the call is no more than to let versions pass by and, where the
call cannot be done, to make it fail (`Meddles`). So a program over the network is a run in the world (`goes_pictured`,
`run_pictured`), and what holds of all runs holds of the network: a deletion over it is complete (`teardown_done`).
-/
import Tenancy.Proofs.Cluster.Service
import Tenancy.Proofs.Run.Schedule
import Tenancy.Proofs.Workspace.Guard
import Tenancy.Proofs.Workspace.Writes

namespace Tenancy.Simulation

open Cluster (Collection IsOf PathSafe)
open Http (Exchange Transport)
open Operator
open Operator.Remote (controller partOf workspaces write?)

variable {κ ρ α : Type}

/-! ## Pictures -/

/-- A document that describes a workspace as a cluster holds it: what is to be deleted has guards. -/
structure Records (object : Json) (ws : Workspace) : Prop where
  describes : Describes object ws
  held : ws.pendingDeletion = true → ws.finalizers ≠ []

/-- A world that stores what the cluster of a reconciler holds, and has its clock. -/
structure Pictures (held : κ → String → String → Option Json) (clock : κ → ℕ) (s : Remote κ ρ) (w : World) : Prop where
  workspaces : ∀ name, PathSafe name →
    Option.Rel Records (held s.cluster workspaces.path name) (w.workspace? name)
  children : ∀ key, Placed key →
    (place (held s.cluster) key).isSome = (w.child? (childKey key)).isSome
  kinds : ∀ key object, Placed key → place (held s.cluster) key = some object →
    IsOf key.kind (Utf8.encode object.text)
  versions : w.versions + 100 ≤ clock s.cluster
  time : w.clock = s.clock.second.text

/-- The world with other versions and faults, and nobody who comes first. -/
def World.beset (w : World) (versions : ℕ) (faults : List (Fault Target Strike)) : World :=
  { w with versions, faults, interference := 0 }

/-- Others let versions pass by, and see to it that calls fail or are done. -/
def Meddles (w m : World) : Prop := ∃ versions faults, w.versions ≤ versions ∧ m = w.beset versions faults

variable {held : κ → String → String → Option Json} {clock : κ → ℕ} {s s' : Remote κ ρ} {w w' : World}

theorem meddles_beset (w : World) (faults : List (Fault Target Strike)) : Meddles w (w.beset w.versions faults) :=
  ⟨_, _, le_refl _, rfl⟩

theorem Meddles.trans {m n : World} (h : Meddles w m) (h' : Meddles m n) : Meddles w n := by
  obtain ⟨versions, faults, hle, rfl⟩ := h
  obtain ⟨versions', faults', hle', rfl⟩ := h'
  exact ⟨versions', faults', hle.trans hle', rfl⟩

/-- Whoever meddles gives what is stored no other version, and so may contend for it. -/
theorem Meddles.contends {m : World} (h : Meddles w m) : Contends w m := by
  obtain ⟨versions, faults, hle, rfl⟩ := h
  exact ⟨⟨hle, fun _ _ hws => .inl hws⟩, id⟩

/-- A call that a fault is waiting for fails. -/
theorem guarded_beset {target : Target} {argument : String} {e : Error}
    (hw : w.faults = [{ target, strike := .fail e }]) (go : World → Except Error α × World) :
    guarded target argument w go = (.error e, w.struck target argument) := by
  have hmeet : (meet target argument w.faults).1 = some (.fail e) := by
    rw [hw]
    simp [meet, Fault.awaits]
  unfold guarded
  rw [strike_eq, hmeet]

/-- What is stored is pictured as long as it stays the same in the cluster and in the world. -/
theorem Pictures.still (h : Pictures held clock s w) (hheld : Retained (held s.cluster) (held s'.cluster))
    (hclock : clock s.cluster ≤ clock s'.cluster) (htime : s'.clock = s.clock)
    (hworkspaces : w'.workspaces = w.workspaces) (hchildren : w'.children = w.children)
    (hversions : w'.versions = w.versions) (hw : w'.clock = w.clock) : Pictures held clock s' w' where
  workspaces name hname := by
    rw [hheld.workspaces name hname, World.workspace?, hworkspaces]
    exact h.workspaces name hname
  children key hkey := by
    rw [hheld.children key hkey, World.child?, hchildren]
    exact h.children key hkey
  kinds key object hkey hobject := h.kinds key object hkey (hheld.children key hkey ▸ hobject)
  versions := hversions ▸ h.versions.trans hclock
  time := by rw [hw, h.time, htime]

/-! ## Calls -/

/-- The calls that a picture answers: those on workspaces, children and namespaces whose names can stand in an address,
and those on events and the clock. -/
inductive Fitting : Call → Prop
  | reading {name : String} : PathSafe name → Fitting (.workspace name)
  | write {c : Call} {key : String} {version : Option String} : c.revises? = some (key, version) → PathSafe key →
      c.Writable → Fitting c
  | look {child : Object.Child} : (Errand.look child).Proper → Fitting (.childExists child)
  | make {child : Object.Child} : (Errand.make child).Proper → Fitting (.createChild child)
  | deletion {name : String} : PathSafe name → Fitting (.deleteNamespace name)
  | event {event : Event} : Fitting (.publish event)
  | opening {tenant : String} : Fitting (.openRuntime tenant)
  | time : Fitting .now

/-- Why a call cannot be done: its address is too long, a child has not the namespace that it has to have, or a write
comes too late or is on a workspace that is not there. -/
inductive Hindered (w : World) : Call → Prop
  | unread {name : String} : Cluster.Target.maxSize < (workspaces.objectPath name).utf8ByteSize →
      Hindered w (.workspace name)
  | unwritten {c : Call} {key : String} {version : Option String} : c.revises? = some (key, version) →
      Cluster.Target.maxSize < (Cluster.patchTarget workspaces key (partOf c) controller).utf8ByteSize → Hindered w c
  | late {c : Call} {key : String} {version : Option String} : c.revises? = some (key, version) →
      (∀ ws ∈ w.workspace? key, ¬Timely version ws) → Hindered w c
  | unlooked {child : Object.Child} {e : Error} : (Errand.look child).hindrance? = some e →
      Hindered w (.childExists child)
  | unmade {child : Object.Child} {e : Error} : (Errand.make child).hindrance? = some e →
      Hindered w (.createChild child)
  | undeleted {name : String} : Cluster.Target.maxSize < (Collection.namespaces.objectPath name ++ "?").utf8ByteSize →
      Hindered w (.deleteNamespace name)

/-- A call is answered in the world as over the network, with a fault only where it cannot be done, and the world goes
on picturing the cluster. -/
def Agree {β : Type} (held : κ → String → String → Option Json) (clock : κ → ℕ) (w : World) (c : Call)
    (far : β × Remote κ ρ) (near : World → β × World) : Prop :=
  ∃ m, Meddles w m ∧ (m.faults = [] ∨ Hindered w c) ∧ (near m).1 = far.1 ∧ Pictures held clock far.2 (near m).2

section

variable {config : Config} {t : Transport κ} {runtimes : Transport ρ} {c : Call} {key name : String}
  {version : Option String} {target : Target} {argument : String} {k : κ} {e : Error}

theorem retained_of_same {old new : String → String → Option Json} (h : ∀ p n, PathSafe n → new p n = old p n) :
    Retained old new :=
  ⟨fun _ hkey => h _ _ hkey.name, fun n hn => h _ n hn⟩

/-- The same but for what is recorded. -/
def Noted (w w' : World) : Prop := ∃ effects, w' = { w with effects }

theorem noted_self (w : World) : Noted w w := ⟨w.effects, rfl⟩

theorem noted_record (w : World) (effect : Effect) : Noted w (w.record effect) := ⟨_, rfl⟩

theorem Noted.record {m : World} (h : Noted w m) (effect : Effect) : Noted w (m.record effect) := by
  obtain ⟨effects, rfl⟩ := h
  exact ⟨_, rfl⟩

theorem Noted.workspace? {m : World} (h : Noted w m) (name : String) : m.workspace? name = w.workspace? name := by
  obtain ⟨effects, rfl⟩ := h
  rfl

/-- In a beset world nobody comes first. -/
theorem Noted.interfere {m : World} {n : ℕ} {faults : List (Fault Target Strike)} (h : Noted (w.beset n faults) m)
    (name : String) : m.interfere name = m := by
  obtain ⟨effects, rfl⟩ := h
  rfl

/-- A call that fails over the network and changes nothing can fail in the world. -/
theorem agree_failed {x : Exchange Error α} {note : World → World} (hp : Pictures held clock s w) (hc : Hindered w c)
    (hx : x.perform t s.cluster = (.error e, k)) (hheld : Retained (held s.cluster) (held k))
    (hclock : clock s.cluster ≤ clock k) (hnote : ∀ m, Noted m (note m)) (go : World → Except Error α × World) :
    Agree held clock w c (Remote.askCluster t x s) fun m => guarded target argument (note m) go := by
  refine ⟨_, meddles_beset w [{ target, strike := .fail e }], .inr hc, ?_⟩
  obtain ⟨effects, heffects⟩ := hnote (w.beset w.versions [{ target, strike := .fail e }])
  have hfaults :
      (note (w.beset w.versions [{ target, strike := .fail e }])).faults = [{ target, strike := .fail e }] := by
    rw [heffects]
    rfl
  rw [Remote.askCluster, hx]
  dsimp only
  rw [guarded_beset hfaults]
  refine ⟨rfl, ?_⟩
  rw [heffects]
  exact hp.still hheld hclock rfl rfl rfl rfl rfl

/-- A call that is done over the network is done in the calm world. -/
theorem agree_done {x : Exchange Error α} {note : World → World} {a : α} {go : World → Except Error α × World} {n : ℕ}
    (hx : x.perform t s.cluster = (.ok a, k)) (hn : w.versions ≤ n) (hnote : ∀ m, Noted m (note m))
    (h : ∀ m, Noted (w.beset n []) m → (go m).1 = .ok a ∧ Pictures held clock { s with cluster := k } (go m).2) :
    Agree held clock w c (Remote.askCluster t x s) fun m => guarded target argument (note m) go := by
  refine ⟨w.beset n [], ⟨n, [], hn, rfl⟩, .inl rfl, ?_⟩
  have hcalm : Calm (note (w.beset n [])) := by
    obtain ⟨effects, heffects⟩ := hnote (w.beset n [])
    rw [heffects]
    exact ⟨List.forall_mem_nil _, rfl⟩
  rw [Remote.askCluster, hx]
  dsimp only
  rw [hcalm.guarded]
  exact h _ (hnote _)

/-! ### Questions -/

/-- A workspace is read as it is stored. -/
theorem Pictures.reading (hm : Maintains t held clock) (hp : Pictures held clock s w) (hname : PathSafe name) :
    Agree held clock w (.workspace name) (Remote.handle config t runtimes (.workspace name) s)
      (handle (.workspace name)) := by
  by_cases hsize : Cluster.Target.maxSize < (Remote.workspaces.objectPath name).utf8ByteSize
  · have hfailed :
        (Remote.workspace name).perform t s.cluster = (.error (.cluster (.malformed .tooLong)), s.cluster) := by
      rw [Remote.workspace, Remote.asked, Exchange.perform_mapError,
        Exchange.perform_error (Cluster.get_tooLong hname.1 hsize)]
      rfl
    exact agree_failed hp (.unread hsize) hfailed (retained_of_same fun _ _ _ => rfl) (le_refl _) (noted_record · _) _
  · have hrel : Option.Rel Describes (held s.cluster Remote.workspaces.path name) (w.workspace? name) := by
      have hrecords := hp.workspaces name hname
      generalize held s.cluster Remote.workspaces.path name = object at hrecords
      generalize w.workspace? name = ws at hrecords
      cases hrecords with
      | none => exact .none
      | some h => exact .some h.describes
    obtain ⟨hok, hsame⟩ := hm.read hname (Nat.not_lt.1 hsize) hrel
    have hlater := hm.later_perform (Remote.workspace name) s.cluster
    refine agree_done (Prod.ext hok rfl) (le_refl _) (noted_record · _) ?_
    rintro _ ⟨effects, rfl⟩
    exact ⟨rfl, hp.still (retained_of_same hsame) hlater rfl rfl rfl rfl rfl⟩

theorem mirrors_of_pictures (hp : Pictures held clock s w) : Mirrors (held s.cluster) (place (held s.cluster)) :=
  ⟨fun _ _ => rfl, hp.kinds⟩

theorem perform_of_ask {x : Exchange Error α} {a : Except Error α} (h : Remote.askCluster t x s = (a, s)) :
    x.perform t s.cluster = (a, s.cluster) :=
  Prod.ext (congrArg (·.1) h) (congrArg (·.2.cluster) h)

/-- A child is found if there is one. -/
theorem Pictures.looking {child : Object.Child} (hm : Maintains t held clock) (hp : Pictures held clock s w)
    (hproper : (Errand.look child).Proper) :
    Agree held clock w (.childExists child) (Remote.handle config t runtimes (.childExists child) s)
      (handle (.childExists child)) := by
  cases h : (Errand.look child).hindrance? with
  | some error =>
    have hfailed : (Remote.childExists child).perform t s.cluster = (.error error, s.cluster) :=
      perform_of_ask (Errand.hindered config runtimes hproper h)
    exact agree_failed hp (.unlooked h) hfailed (retained_of_same fun _ _ _ => rfl) (le_refl _) (noted_record · _) _
  | none =>
    unfold Errand.hindrance? at h
    split_ifs at h with hhome hsize
    obtain ⟨hplaced, -⟩ := hproper.resolve_left hhome
    obtain ⟨hok, -⟩ :=
      Remote.childExists_kept hm.toKeeps (mirrors_of_pictures hp) hplaced (Nat.not_lt.1 hsize)
    have hsame := Remote.childExists_same (k := s.cluster) hm.toKeeps hplaced (Nat.not_lt.1 hsize)
    have hlater := hm.later_perform (Remote.childExists child) s.cluster
    refine agree_done (Prod.ext hok rfl) (le_refl _) (noted_record · _) ?_
    rintro _ ⟨effects, rfl⟩
    refine ⟨?_, hp.still (retained_of_same hsame) hlater rfl rfl rfl rfl rfl⟩
    rw [hp.children child.key hplaced]
    rfl

/-! ### Children -/

theorem workspaces_ne (kind : Object.Kind) (ns : Option String) :
    Remote.workspaces.path ≠ (Collection.ofKind kind ns).path := by
  intro h
  rw [Collection.path_eq, Collection.path_eq] at h
  obtain ⟨-, hplural⟩ := Cluster.slash_inj (by decide) (Collection.plural_slash kind) h
  cases kind <;> exact absurd hplural (by decide)

/-- A child that is created is there from then on. -/
theorem Pictures.making {child : Object.Child} (hm : Maintains t held clock) (hp : Pictures held clock s w)
    (hproper : (Errand.make child).Proper) :
    Agree held clock w (.createChild child) (Remote.handle config t runtimes (.createChild child) s)
      (handle (.createChild child)) := by
  cases h : (Errand.make child).hindrance? with
  | some error =>
    have hfailed : (Remote.createChild child).perform t s.cluster = (.error error, s.cluster) :=
      perform_of_ask (Errand.hindered config runtimes hproper h)
    exact agree_failed hp (.unmade h) hfailed (retained_of_same fun _ _ _ => rfl) (le_refl _) noted_self _
  | none =>
    unfold Errand.hindrance? at h
    split_ifs at h with hhome hsize
    obtain ⟨hplaced, hsound⟩ := hproper.resolve_left hhome
    obtain ⟨hok, hnew⟩ :=
      Remote.createChild_held (k := s.cluster) hm.toKeeps hplaced (hsound child rfl) (Nat.not_lt.1 hsize)
    have hlater := hm.later_perform (Remote.createChild child) s.cluster
    have hmirrors := (mirrors_of_pictures hp).add hplaced (hsound child rfl) hnew
    refine agree_done (Prod.ext hok rfl) (le_refl _) noted_self ?_
    rintro _ ⟨effects, rfl⟩
    refine ⟨rfl, ?_⟩
    constructor
    case workspaces =>
      intro name hname
      have hother : ¬(Remote.workspaces.path = (Collection.ofKind child.kind child.ns).path ∧ name = child.name) :=
        fun h => workspaces_ne _ _ h.1
      have hsame := hnew Remote.workspaces.path name hname
      rw [if_neg hother] at hsame
      show Option.Rel Records (held ((Remote.createChild child).perform t s.cluster).2 _ name) _
      rw [hsame]
      exact hp.workspaces name hname
    case children =>
      intro key hkey
      have hheld : place (held ((Remote.createChild child).perform t s.cluster).2) key = _ := hmirrors.held key hkey
      show (place (held ((Remote.createChild child).perform t s.cluster).2) key).isSome = _
      rw [hheld, Shelf.add, child?_addChild]
      by_cases hk : key = child.key
      · rw [if_pos hk, if_pos (by rw [hk]; rfl)]
        rfl
      · have hother : ¬keyOf child = childKey key := fun h => hk (childKey_inj child.key key h).symm
        rw [if_neg hk, if_neg hother]
        exact hp.children key hkey
    case kinds => exact fun key object hkey ho => hmirrors.kind key object hkey ((hmirrors.held key hkey).symm.trans ho)
    case versions => exact hp.versions.trans hlater
    case time => exact hp.time

/-- What lies in a namespace goes with it. -/
theorem Pictures.deletion (hm : Maintains t held clock) (hp : Pictures held clock s w) (hname : PathSafe name) :
    Agree held clock w (.deleteNamespace name) (Remote.handle config t runtimes (.deleteNamespace name) s)
      (handle (.deleteNamespace name)) := by
  by_cases hsize : Cluster.Target.maxSize < (Collection.namespaces.objectPath name ++ "?").utf8ByteSize
  · have hfailed : (Remote.deleteNamespace name).perform t s.cluster =
        (.error (.cluster (.malformed .tooLong)), s.cluster) := by
      rw [Remote.deleteNamespace, Remote.asked, Exchange.perform_mapError,
        Exchange.perform_error (Cluster.delete_tooLong hname.1 hsize)]
      rfl
    exact agree_failed hp (.undeleted hsize) hfailed (retained_of_same fun _ _ _ => rfl) (le_refl _) noted_self _
  · obtain ⟨hok, hplaces, hworkspaces⟩ := hm.delete (k := s.cluster) hname (Nat.not_lt.1 hsize)
    have hlater := hm.later_perform (Remote.deleteNamespace name) s.cluster
    refine agree_done (Prod.ext hok rfl) (le_refl _) noted_self ?_
    rintro _ ⟨effects, rfl⟩
    refine ⟨rfl, ?_⟩
    constructor
    case workspaces =>
      intro n hn
      show Option.Rel Records (held ((Remote.deleteNamespace name).perform t s.cluster).2 _ n) _
      rw [hworkspaces n hn]
      exact hp.workspaces n hn
    case children =>
      intro key hkey
      show (place (held ((Remote.deleteNamespace name).perform t s.cluster).2) key).isSome = _
      rw [hplaces key hkey, child?_dropNamespace]
      split
      · rfl
      · exact hp.children key hkey
    case kinds =>
      intro key object hkey hobject
      change place (held ((Remote.deleteNamespace name).perform t s.cluster).2) key = _ at hobject
      rw [hplaces key hkey] at hobject
      split at hobject
      · cases hobject
      · exact hp.kinds key object hkey hobject
    case versions => exact hp.versions.trans hlater
    case time => exact hp.time

/-! ### Writes -/

/-- A write that is done has changed the workspace, in a new version, or removed it if nothing holds up its deletion. -/
structure Done (c : Call) (key : String) (ws : Workspace) (m w' : World) : Prop where
  workspace : w'.workspace? key =
    if (c.rewrite ws).finalizers.isEmpty && (c.rewrite ws).pendingDeletion then none
    else some (revise (c.rewrite ws) (some (toString (m.versions + 1 + 100))))
  others : ∀ k ≠ key, w'.workspace? k = m.workspace? k
  children : w'.children = m.children
  versions : w'.versions ≤ m.versions + 1
  clock : w'.clock = m.clock

theorem done_guards {m : World} {ws : Workspace} (hws : m.workspace? key = some ws) (finalizers : List String) :
    Done (.setFinalizers key version finalizers) key ws m (writeFinalizers m key finalizers) := by
  have hwrite : writeFinalizers m key finalizers =
      if (finalizers.isEmpty && ws.pendingDeletion) = true then m.remove key
      else (m.modifyWorkspace key fun ws =>
        { ws with metadata := { ws.metadata with finalizers := some finalizers } }).bump key := by
    unfold writeFinalizers
    rw [hws]
  refine ⟨?_, fun k hk => workspace?_writeFinalizers m key finalizers k hk, (writeFinalizers_frame ..).2.1, ?_, ?_⟩
  · rw [hwrite]
    show _ = if (finalizers.isEmpty && ws.pendingDeletion) = true then none else _
    split
    · exact (Dict.get?_erase ..).trans (if_pos rfl)
    · rw [workspace?_bump, if_pos rfl, workspace?_modify, if_pos rfl, hws]
      rfl
  · rw [hwrite]
    split
    · exact Nat.le_succ _
    · exact le_refl _
  · rw [hwrite]
    split <;> rfl

theorem done_status {m : World} {ws : Workspace} (hws : m.workspace? key = some ws)
    (hheld : ws.pendingDeletion = true → ws.finalizers ≠ []) (status : Status) :
    Done (.patchStatus key version status) key ws m
      ((m.modifyWorkspace key fun ws => { ws with status := some status }).bump key) := by
  have hkept : (ws.finalizers.isEmpty && ws.pendingDeletion) = false := by
    cases hpending : ws.pendingDeletion with
    | false => exact Bool.and_false _
    | true => rw [Bool.and_true, Bool.eq_false_iff, ne_eq, List.isEmpty_iff]; exact hheld hpending
  refine ⟨?_, fun k hk => ?_, rfl, le_refl _, rfl⟩
  · show _ = if (ws.finalizers.isEmpty && ws.pendingDeletion) = true then none else _
    rw [hkept, workspace?_bump, if_pos rfl, workspace?_modify, if_pos rfl, hws]
    rfl
  · rw [workspace?_bump, if_neg hk, workspace?_modify, if_neg hk]

/-- A document that has been written on is pictured by the world in which the write is done. -/
theorem Pictures.written {m : World} {ws : Workspace} {stored : Json} (hp : Pictures held clock s w)
    (hlater : clock s.cluster < clock k)
    (hstored : Describes stored (revise (c.rewrite ws) (some (toString (clock k)))))
    (hnew : ∀ p n, PathSafe n → held k p n =
      if p = Remote.workspaces.path ∧ n = key then (if Server.released stored then none else some stored)
      else held s.cluster p n)
    (hm : Noted (w.beset (clock k - 101) []) m) (hdone : Done c key ws m w') :
    Pictures held clock { s with cluster := k } w' := by
  have hversions := hp.versions
  have hplaces : ∀ key, Placed key → place (held k) key = place (held s.cluster) key := fun _ hkey =>
    (hnew _ _ hkey.name).trans (if_neg fun h => workspaces_ne _ _ h.1.symm)
  obtain ⟨effects, rfl⟩ := hm
  constructor
  case workspaces =>
    intro name hname
    show Option.Rel Records (held k _ name) _
    rw [hnew _ _ hname]
    by_cases hk : name = key
    · subst hk
      have hnext : clock k - 101 + 1 + 100 = clock k := by omega
      have hworkspace := hdone.workspace
      change _ = if _ then _ else some (revise _ (some (toString (clock k - 101 + 1 + 100)))) at hworkspace
      rw [hnext] at hworkspace
      have hreleased : Server.released stored = ((c.rewrite ws).finalizers.isEmpty && (c.rewrite ws).pendingDeletion) :=
        hstored.released
      rw [if_pos ⟨rfl, rfl⟩, hworkspace, hreleased]
      split
      · exact .none
      next h =>
        refine .some ⟨hstored, fun hpending hnone => h ?_⟩
        change (c.rewrite ws).pendingDeletion = true at hpending
        change (c.rewrite ws).finalizers = [] at hnone
        rw [hpending, hnone]
        rfl
    · rw [if_neg fun h => hk h.2, hdone.others name hk]
      exact hp.workspaces name hname
  case children =>
    intro key hkey
    show (place (held k) key).isSome = _
    rw [hplaces key hkey, World.child?, hdone.children]
    exact hp.children key hkey
  case kinds => exact fun key object hkey hobject => hp.kinds key object hkey ((hplaces key hkey).symm.trans hobject)
  case versions =>
    have := hdone.versions
    show w'.versions + 100 ≤ clock k
    change w'.versions ≤ clock k - 101 + 1 at this
    omega
  case time => exact hdone.clock.trans hp.time

/-- A write over the network fails and changes nothing, because it cannot be done, or is done as in the world. -/
theorem Pictures.write {x : Exchange Error Unit} (hm : Maintains t held clock) (hp : Pictures held clock s w)
    (hx : write? c = some x) (hc : c.revises? = some (key, version)) (hkey : PathSafe key) (hwritable : c.Writable) :
    (Hindered w c ∧ ∃ e k, x.perform t s.cluster = (.error e, k) ∧ Retained (held s.cluster) (held k) ∧
      clock s.cluster ≤ clock k) ∨
    ∃ ws k, w.workspace? key = some ws ∧ Timely version ws ∧ (ws.pendingDeletion = true → ws.finalizers ≠ []) ∧
      x.perform t s.cluster = (.ok (), k) ∧ w.versions + 101 ≤ clock k ∧
      ∀ m w', Noted (w.beset (clock k - 101) []) m → Done c key ws m w' →
        Pictures held clock { s with cluster := k } w' := by
  have hrecords := hp.workspaces key hkey
  have hlater := hm.later_perform x s.cluster
  -- a write that cannot be done, for one of two reasons
  have failed : Hindered w c →
      (Cluster.Target.maxSize < (Cluster.patchTarget Remote.workspaces key (partOf c) controller).utf8ByteSize ∨
        ∀ object ∈ held s.cluster Remote.workspaces.path key, ∃ ws, Describes object ws ∧ ¬Timely version ws) →
      Hindered w c ∧ ∃ e k, x.perform t s.cluster = (.error e, k) ∧ Retained (held s.cluster) (held k) ∧
        clock s.cluster ≤ clock k := by
    intro hhindered h
    obtain ⟨⟨e, he⟩, hsame⟩ := hm.write_failed hx hc hkey h
    exact ⟨hhindered, e, _, Prod.ext he rfl, retained_of_same hsame, hlater⟩
  by_cases hsize :
      Cluster.Target.maxSize < (Cluster.patchTarget Remote.workspaces key (partOf c) controller).utf8ByteSize
  · exact .inl (failed (.unwritten hc hsize) (.inl hsize))
  generalize hheld : held s.cluster Remote.workspaces.path key = stored at hrecords
  generalize hws : w.workspace? key = found at hrecords
  cases hrecords with
  | none =>
    refine .inl (failed (.late hc ?_) (.inr ?_))
    · rw [hws]
      rintro _ ⟨⟩
    · rw [hheld]
      rintro _ ⟨⟩
  | @some object ws h =>
    by_cases htimely : Timely version ws
    · obtain ⟨hok, hless, stored, hstored, hnew⟩ :=
        hm.write_done hx hc hkey hwritable (Nat.not_lt.1 hsize) hheld h.describes htimely
      have hversions := hp.versions
      have hroom : w.versions + 101 ≤ clock (x.perform t s.cluster).2 := by omega
      refine .inr ⟨ws, _, rfl, htimely, h.held, Prod.ext hok rfl, hroom, fun m w' hnoted hdone => ?_⟩
      exact hp.written hless hstored hnew hnoted hdone
    · refine .inl (failed (.late hc ?_) (.inr ?_))
      · rw [hws]
        rintro _ ⟨⟩
        exact htimely
      · rw [hheld]
        rintro _ ⟨⟩
        exact ⟨ws, h.describes, htimely⟩

theorem timely_stale {m : World} {ws : Workspace} (hws : m.workspace? name = some ws) (h : Timely version ws) :
    m.stale name version = false := by
  unfold World.stale
  cases version with
  | none => rfl
  | some v => simp [hws, h v rfl]

/-- Guards are written as over the network. -/
theorem Pictures.guarding {finalizers : List String} (hm : Maintains t held clock) (hp : Pictures held clock s w)
    (hname : PathSafe name) :
    Agree held clock w (.setFinalizers name version finalizers)
      (Remote.handle config t runtimes (.setFinalizers name version finalizers) s)
      (handle (.setFinalizers name version finalizers)) := by
  obtain ⟨hhindered, e, k, hx, hheld, hlater⟩ | ⟨ws, k, hws, htimely, -, hx, hversions, hdone⟩ :=
    hp.write (c := .setFinalizers name version finalizers) hm rfl rfl hname trivial
  · exact agree_failed hp hhindered hx hheld hlater noted_self _
  · refine agree_done (n := clock k - 101) hx (by omega) noted_self fun m hnoted => ?_
    have hstored : m.workspace? name = some ws := (hnoted.workspace? name).trans hws
    dsimp only
    rw [hnoted.interfere, timely_stale hstored htimely]
    have hnext := hnoted.record (.setFinalizers name version finalizers)
    exact ⟨rfl, hdone _ _ hnext (done_guards ((hnext.workspace? name).trans hws) finalizers)⟩

/-- A status is written as over the network. -/
theorem Pictures.reporting {status : Status} (hm : Maintains t held clock) (hp : Pictures held clock s w)
    (hname : PathSafe name) (hwritable : (Call.patchStatus name version status).Writable) :
    Agree held clock w (.patchStatus name version status)
      (Remote.handle config t runtimes (.patchStatus name version status) s)
      (handle (.patchStatus name version status)) := by
  obtain ⟨hhindered, e, k, hx, hheld, hlater⟩ | ⟨ws, k, hws, htimely, hguards, hx, hversions, hdone⟩ :=
    hp.write (c := .patchStatus name version status) hm rfl rfl hname hwritable
  · exact agree_failed hp hhindered hx hheld hlater noted_self _
  · refine agree_done (n := clock k - 101) hx (by omega) noted_self fun m hnoted => ?_
    have hstored : m.workspace? name = some ws := (hnoted.workspace? name).trans hws
    dsimp only
    rw [hnoted.interfere, timely_stale hstored htimely]
    have hnext := hnoted.record (.patchStatus name version status)
    exact ⟨rfl, hdone _ _ hnext (done_status ((hnext.workspace? name).trans hws) hguards status)⟩

/-! ### Any call -/

theorem Pictures.event {event : Event} (hm : Maintains t held clock) (hp : Pictures held clock s w) :
    Agree held clock w (.publish event) (Remote.handle config t runtimes (.publish event) s)
      (handle (.publish event)) := by
  obtain ⟨hheld, hlater⟩ := hm.publish (k := s.cluster) s.publisher s.clock event
  exact ⟨_, meddles_beset w [], .inl rfl, rfl, hp.still hheld hlater rfl rfl rfl rfl rfl⟩

/-- A call is answered in the world as over the network. -/
theorem Pictures.step (config : Config) (runtimes : Transport ρ) (hm : Maintains t held clock)
    (hp : Pictures held clock s w) (hc : Fitting c) :
    Agree held clock w c (Remote.handle config t runtimes c s) (handle c) := by
  have hidle : Retained (held s.cluster) (held s.cluster) := retained_of_same fun _ _ _ => rfl
  cases hc with
  | reading hname => exact hp.reading hm hname
  | write hrevises hkey hwritable =>
    cases c with
    | setFinalizers =>
      cases hrevises
      exact hp.guarding hm hkey
    | patchStatus =>
      cases hrevises
      exact hp.reporting hm hkey hwritable
    | _ => cases hrevises
  | look hproper => exact hp.looking hm hproper
  | make hproper => exact hp.making hm hproper
  | deletion hname => exact hp.deletion hm hname
  | event => exact hp.event hm
  | opening => exact ⟨_, meddles_beset w [], .inl rfl, rfl, hp.still hidle (le_refl _) rfl rfl rfl rfl rfl⟩
  | time => exact ⟨_, meddles_beset w [], .inl rfl, hp.time, hp.still hidle (le_refl _) rfl rfl rfl rfl rfl⟩

end

/-! ## Runs -/

section

variable {others : World → World → Prop} {moves : Remote κ ρ → Remote κ ρ → Prop} {config : Config} {t : Transport κ}
  {runtimes : Transport ρ} {u : Trace}

/-- Over the network the calls of the trace get the answers of the trace, where before each call others act as `moves`
allows. -/
def Follows (config : Config) (t : Transport κ) (runtimes : Transport ρ) (moves : Remote κ ρ → Remote κ ρ → Prop) :
    Remote κ ρ → Trace → Remote κ ρ → Prop
  | s, [], s' => s' = s
  | s, x :: u, s' => ∃ k, moves s k ∧ (Remote.handle config t runtimes x.call k).1 = x.answer ∧
      Follows config t runtimes moves (Remote.handle config t runtimes x.call k).2 u s'

/-- The world pictures the cluster all the time, if what others do in the cluster they may do in the world. -/
theorem plays_pictured (hm : Maintains t held clock)
    (hmoves : ∀ s k w, Pictures held clock s w → moves s k → ∃ m, others w m ∧ Pictures held clock k m)
    (hmeddles : ∀ w n m, others w n → Meddles n m → others w m) (hfit : ∀ x ∈ u, Fitting x.call)
    (h : Follows config t runtimes moves s u s') (hp : Pictures held clock s w) :
    ∃ w', Plays others w u w' ∧ Pictures held clock s' w' := by
  induction u generalizing s w with
  | nil =>
    obtain rfl : s' = s := h
    exact ⟨w, rfl, hp⟩
  | cons x u ih =>
    obtain ⟨k, hk, hx, h⟩ := h
    obtain ⟨n, hn, hpn⟩ := hmoves s k w hp hk
    obtain ⟨m, hmeddle, -, hanswer, hpm⟩ := hpn.step config runtimes hm
      (hfit x (List.mem_cons_self ..))
    obtain ⟨w', hplays, hpw⟩ := ih (fun y hy => hfit y (List.mem_cons_of_mem _ hy)) h hpm
    exact ⟨w', ⟨m, hmeddles w n m hn hmeddle, hanswer.trans hx, hplays⟩, hpw⟩

/-- A program over the network goes as it may go in the world that pictures the cluster, and leaves a picture. -/
theorem goes_pictured {p : Program α} {a : α} (hm : Maintains t held clock)
    (hmoves : ∀ s k w, Pictures held clock s w → moves s k → ∃ m, others w m ∧ Pictures held clock k m)
    (hmeddles : ∀ w n m, others w n → Meddles n m → others w m) (hfit : ∀ x ∈ u, Fitting x.call) (hy : p.Yields u a)
    (h : Follows config t runtimes moves s u s') (hp : Pictures held clock s w) :
    ∃ w', Goes others p w u a w' ∧ Pictures held clock s' w' := by
  obtain ⟨w', hplays, hpw⟩ := plays_pictured hm hmoves hmeddles hfit h hp
  exact ⟨w', ⟨hy, hplays⟩, hpw⟩

theorem follows_recorded (config : Config) (t : Transport κ) (runtimes : Transport ρ) (p : Program α)
    (s : Remote κ ρ) : Follows config t runtimes Eq s
    (recorded (Remote.handle config t runtimes) p s) (p.run (Remote.handle config t runtimes) s).2 := by
  induction p generalizing s with
  | done a => rfl
  | ask c next ih => exact ⟨s, rfl, rfl, ih _ _⟩

/-- If nobody else acts, a program over the network goes as it may go in the world while versions pass by and what
cannot be done fails. -/
theorem run_pictured (hm : Maintains t held clock) (p : Program α)
    (hfit : ∀ x ∈ recorded (Remote.handle config t runtimes) p s, Fitting x.call) (hp : Pictures held clock s w) :
    ∃ w', Goes Meddles p w (recorded (Remote.handle config t runtimes) p s)
        (p.run (Remote.handle config t runtimes) s).1 w' ∧
      Pictures held clock (p.run (Remote.handle config t runtimes) s).2 w' := by
  refine goes_pictured hm ?_ (fun _ _ _ h h' => h.trans h') hfit (yields_recorded ..)
    (follows_recorded config t runtimes p s) hp
  rintro s _ w hp rfl
  exact ⟨_, meddles_beset w [], hp.still (retained_of_same fun _ _ _ => rfl) (le_refl _) rfl rfl rfl rfl rfl⟩

end

/-! ## Deletions -/

section

variable {config : Config} {t : Transport κ} {runtimes : Transport ρ} {c : Call} {u : Trace} {name : String}
  {ws : Workspace}

/-- Nothing happens but that versions pass by. -/
def Lapses (w m : World) : Prop := ∃ versions, w.versions ≤ versions ∧ m = w.beset versions []

theorem Lapses.peaceful {m : World} (h : Lapses w m) (name : String) : Peaceful name w m := by
  obtain ⟨versions, -, rfl⟩ := h
  exact ⟨rfl, fun _ => ⟨List.forall_mem_nil _, rfl⟩⟩

/-- What is not hindered is done over the network as in a world in which nobody meddles. -/
theorem Agree.clear {β : Type} {far : β × Remote κ ρ} {near : World → β × World} (h : Agree held clock w c far near)
    (hc : ¬Hindered w c) : ∃ m, Lapses w m ∧ (near m).1 = far.1 ∧ Pictures held clock far.2 (near m).2 := by
  obtain ⟨_, ⟨versions, faults, hle, rfl⟩, hfaults, h⟩ := h
  obtain rfl : faults = [] := hfaults.resolve_right hc
  exact ⟨_, ⟨versions, hle, rfl⟩, h⟩

theorem plays_clear (hm : Maintains t held clock) (hfit : ∀ x ∈ u, Fitting x.call)
    (hclear : ∀ v x r n, u = v ++ x :: r → Plays Lapses w v n → ¬Hindered n x.call)
    (h : Follows config t runtimes Eq s u s') (hp : Pictures held clock s w) :
    ∃ w', Plays Lapses w u w' ∧ Pictures held clock s' w' := by
  induction u generalizing s w with
  | nil =>
    obtain rfl : s' = s := h
    exact ⟨w, rfl, hp⟩
  | cons x u ih =>
    obtain ⟨_, rfl, hx, h⟩ := h
    obtain ⟨m, hlapses, hanswer, hpm⟩ := (hp.step config runtimes hm
      (hfit x (List.mem_cons_self ..))).clear (hclear [] x u w rfl rfl)
    obtain ⟨w', hplays, hpw⟩ := ih (fun y hy => hfit y (List.mem_cons_of_mem _ hy))
      (fun v y r n hu hv => hclear (x :: v) y r n (by rw [hu]; rfl) ⟨m, hlapses, hanswer.trans hx, hv⟩) h hpm
    exact ⟨w', ⟨m, hlapses, hanswer.trans hx, hplays⟩, hpw⟩

theorem Plays.lapsed {n : World} (h : Plays Lapses w u n)
    (hu : ∀ x ∈ u, x.call.topic ≠ .guards ∧ x.call.topic ≠ .status) (name : String) :
    n.workspace? name = w.workspace? name :=
  h.workspace? (fun _ _ ho => (ho.peaceful name).workspace) hu

/-- A deletion over the network is complete: nothing is left in the namespace, and the guard is off. -/
theorem teardown_done (config : Config) (runtimes : Transport ρ) {r : Except Error Unit}
    (hm : Maintains t held clock) (hp : Pictures held clock s w)
    (hws : w.workspace? name = some ws) (hname : ws.metadata.name = some name) (hpending : ws.pendingDeletion = true)
    (hsafe : PathSafe name) (htenant : PathSafe ws.workspaceName)
    (hdelete : (Collection.namespaces.objectPath ws.workspaceName ++ "?").utf8ByteSize ≤ Cluster.Target.maxSize)
    (hwrite : (Cluster.patchTarget Remote.workspaces name none controller).utf8ByteSize ≤ Cluster.Target.maxSize)
    (hrun : (teardown ws).run.run (Remote.handle config t runtimes) s = (r, s')) :
    r = .ok () ∧
    (∀ key, Placed key → World.goesWith ws.workspaceName (childKey key) = true →
      place (held s'.cluster) key = none) ∧
    ∃ w', Pictures held clock s' w' ∧ Released name (fate ws) w' := by
  have hnamed : ws.name = name := Workspace.name_of_some hname
  have hyields := yields_recorded (Remote.handle config t runtimes) (teardown ws).run s
  have hfollows := follows_recorded config t runtimes (teardown ws).run s
  generalize recorded (Remote.handle config t runtimes) (teardown ws).run s = u at hyields hfollows
  rw [hrun] at hyields hfollows
  have htrace := teardown_yields hyields
  rw [hnamed] at htrace
  -- the deletion comes first, and does not touch the workspace that the guard is then taken off
  have hdeletion : ∀ n, ¬Hindered n (.deleteNamespace ws.workspaceName) := by
    intro n h
    cases h with
    | undeleted h => exact absurd h (Nat.not_lt.2 hdelete)
    | unwritten h | late h => cases h
  have hrelease : ∀ n guards, n.workspace? name = some ws →
      ¬Hindered n (.setFinalizers name ws.metadata.resourceVersion guards) := by
    intro n guards hn h
    cases h with
    | unwritten h hlong =>
      cases h
      exact absurd hlong (Nat.not_lt.2 hwrite)
    | late h hlate =>
      cases h
      exact hlate ws hn fun _ hv => hv
  have hstart : Pictures held clock s (w.beset w.versions []) :=
    hp.still (retained_of_same fun _ _ _ => rfl) (le_refl _) rfl rfl rfl rfl rfl
  have hstep : ∃ r', StepTrace config ws .delete u r' ∧ (r' = .ok .never → r = .ok () ∧
      changes u = [.deleted ws.workspaceName]) := by
    obtain ⟨e, rfl, rfl⟩ | rfl := htrace
    · exact ⟨_, .undeleted e, by rintro ⟨⟩⟩
    · have hdeleted : StepTrace config ws .delete _ _ := .deleted r
      rw [hnamed] at hdeleted
      refine ⟨_, hdeleted, fun h => ?_⟩
      cases r with
      | ok => exact ⟨rfl, rfl⟩
      | error => cases h
  obtain ⟨w', hplays, hpw⟩ : ∃ w', Plays Lapses (w.beset w.versions []) u w' ∧ Pictures held clock s' w' := by
    refine plays_clear hm ?_ ?_ hfollows hstart
    · intro x hx
      obtain ⟨e, rfl, -⟩ | rfl := htrace
      · cases List.mem_singleton.1 hx
        exact .deletion htenant
      · simp only [List.mem_cons, List.not_mem_nil, or_false] at hx
        rcases hx with rfl | rfl | rfl
        · exact .deletion htenant
        · exact .event
        · exact .write rfl hsafe trivial
    · intro v x rest n hu hv
      obtain ⟨e, rfl, -⟩ | rfl := htrace
      · rcases v with _ | ⟨a, v⟩
        · cases hu
          exact hdeletion n
        · simp at hu
      · rcases v with _ | ⟨a, _ | ⟨b, _ | ⟨c, v⟩⟩⟩
        · cases hu
          exact hdeletion n
        · cases hu
          intro h
          cases h with
          | unwritten h | late h => cases h
        · cases hu
          exact hrelease n _ ((Plays.lapsed hv (by simp [Call.topic]) name).trans hws)
        · simp at hu
  obtain ⟨r', hstep, hresult⟩ := hstep
  obtain ⟨hnever, -, hreleased⟩ := StepTrace.releases hstep (hplays.mono fun _ _ ho => ho.peaceful name)
    ⟨List.forall_mem_nil _, rfl⟩ hws hname hpending
  obtain ⟨hok, hchanges⟩ := hresult hnever
  refine ⟨hok, fun key hkey hgoes => ?_, w', hpw, hreleased⟩
  have hchild : w'.child? (childKey key) = _ :=
    hplays.child? fun _ _ ho => by obtain ⟨_, -, rfl⟩ := ho; rfl
  have hgone : w'.child? (childKey key) = none := by
    rw [hchild, hchanges]
    exact if_pos hgoes
  have hpictured := hpw.children key hkey
  rw [hgone] at hpictured
  exact Option.isNone_iff_eq_none.1 (by simpa using hpictured)

end

end Tenancy.Simulation
