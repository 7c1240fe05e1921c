/-
Provisioning over whole runs. However passes fail and whatever others do to everything but the children,
the children of a tenant come into being in the order of the plan, each once. The invariant is a list of
those that stand: what was created since the namespace was last deleted (`Standing`). A pass adds the next
key of the plan to it, or empties it, or leaves it alone (`Leg.Happens.changes`).
-/
import Tenancy.Proofs.Run.Children
import Tenancy.Proofs.Tenant.Plan

namespace Tenancy.Simulation

open Operator Tenant

variable {others : World → World → Prop} {tenant name : String} {scaled : Bool} {w w' : World} {t : Trace}

/-! ## What others may do -/

/-- The workspace `name`, if it is stored, is the tenant's. -/
def Belongs (tenant name : String) (w : World) : Prop :=
  ∀ ws, w.workspace? name = some ws → ws.workspaceName = tenant

/-- Others may do anything but touch the children of the plan and give the workspace another tenant. -/
structure Outside (tenant name : String) (scaled : Bool) (w m : World) : Prop where
  children : ∀ key ∈ planKeys tenant scaled, m.child? key = w.child? key
  belongs : Belongs tenant name w → Belongs tenant name m

theorem Outside.refl (tenant name : String) (scaled : Bool) (w : World) : Outside tenant name scaled w w :=
  ⟨fun _ _ => rfl, id⟩

theorem Belongs.handle (h : Belongs tenant name w) (c : Call) : Belongs tenant name (handle c w).2 := by
  intro ws hws
  obtain ⟨old, hold, hc⟩ := (hws ▸ workspace_handle c w name).continues
  rw [Workspace.workspaceName, hc.spec]
  exact h old hold

/-! ## Lookups -/

/-- While nothing changes the children, a child that was looked for is as it was found. -/
theorem Plays.found {child : Object.Child} {found : Bool}
    (hothers : ∀ w m, others w m → m.child? (keyOf child) = w.child? (keyOf child)) (h : Plays others w t w')
    (hquiet : ∀ x ∈ t, x.call.topic ≠ .change) (hx : ⟨.childExists child, .ok found⟩ ∈ t) :
    (w.child? (keyOf child)).isSome = found := by
  obtain ⟨t₁, t₂, rfl⟩ := List.append_of_mem hx
  obtain ⟨m, h₁, n, ho, hf, -⟩ := (plays_append ..).1 h
  have := h₁.child? hothers
  rw [changes_eq_nil fun x hx => hquiet x (List.mem_append_left _ hx)] at this
  rw [← childExists_answer hf, hothers _ _ ho, this]
  rfl

/-! ## One pass -/

/-- What a pass has changed: it created the first child of the plan that was missing, or it deleted the
namespace of the tenant, or it changed nothing. -/
inductive Progress (tenant : String) (scaled : Bool) (w : World) : List Change → Prop
  | none : Progress tenant scaled w []
  | created {child : Object.Child} {done rest : List ChildKey} :
      planKeys tenant scaled = done ++ keyOf child :: rest → (∀ key ∈ done, (w.child? key).isSome = true) →
      w.child? (keyOf child) = .none → Progress tenant scaled w [.created child]
  | deleted : Progress tenant scaled w [.deleted tenant]

/-- What a pass works on is the tenant's. -/
theorem Leg.Happens.snapshot {p : Leg} (h : p.Happens (Outside tenant name scaled)) (hname : p.name = name)
    (hb : Belongs tenant name p.start) {ws : Workspace} {t : Trace}
    (ht : p.trace = ⟨.workspace p.name, .ok (some ws)⟩ :: t) : ws.workspaceName = tenant := by
  obtain ⟨m, ho, hx, -⟩ := (plays_cons ..).1 (ht ▸ h.plays)
  exact ho.belongs hb ws (hname ▸ workspace_answer hx)

theorem Leg.Happens.progress {p : Leg} (h : p.Happens (Outside tenant name scaled)) (hname : p.name = name)
    (hscaled : p.config.scaleToZero = scaled) (hb : Belongs tenant name p.start) :
    Progress tenant scaled p.start (changes p.trace) := by
  have hplays := h.plays
  cases h.trace.reshapes with
  | nothing hq =>
    rw [changes_eq_nil hq]
    exact .none
  | @deletion ws x t₁ _ hq ht =>
    have hws := h.snapshot hname hb ht
    rw [ht] at hplays ⊢
    rw [changes_cons, changes_cons, hq.changes (by decide), hws]
    cases x with
    | ok u => exact .deleted
    | error e => exact .none
  | @creation ws child x t₁ t₂ _ ha hq ht =>
    have hws := h.snapshot hname hb ht
    rw [ht] at hplays ⊢
    obtain ⟨settings, done, rest, owner, u, hplan, rfl, hu, hmissing, hfound⟩ := ha.split
    rw [List.append_assoc, ← List.cons_append] at hplays ⊢
    obtain ⟨n, hbefore, -⟩ := (plays_append ..).1 hplays
    have quiet : ∀ y ∈ (⟨.workspace p.name, .ok (some ws)⟩ :: u : Trace), y.call.topic ≠ .change :=
      List.forall_mem_cons.2 ⟨nofun, hu.ne (by decide)⟩
    have hkeys : planKeys tenant scaled = keysOf done ++ keyOf child :: keysOf rest := by
      rw [← hws, ← hscaled, ← keysOf_plan ws settings p.config, hplan, keysOf_append, keysOf_ensure]
    -- what was found on the way to the creation was so when the pass started
    have looked : ∀ {c : Object.Child} {found : Bool}, keyOf c ∈ planKeys tenant scaled →
        ⟨.childExists c, .ok found⟩ ∈ u → (p.start.child? (keyOf c)).isSome = found := fun hk hx =>
      hbefore.found (fun w m ho => ho.children _ hk) quiet (List.mem_cons_of_mem _ hx)
    rw [changes_append, changes_eq_nil quiet, List.singleton_append, changes_cons, hq.changes (by decide)]
    cases x with
    | error e => exact .none
    | ok r =>
      refine @Progress.created tenant scaled p.start (child.setOwner owner) _ _ hkeys ?_ ?_
      · intro key hkey
        obtain ⟨c, hmem, rfl⟩ := mem_keysOf.1 hkey
        exact looked (hkeys ▸ List.mem_append_left _ hkey) (hfound c hmem)
      · have := looked (hkeys ▸ List.mem_append_right _ (List.mem_cons_self ..)) hmissing
        show p.start.child? (keyOf child) = .none
        exact Option.isNone_iff_eq_none.1 (by simpa using this)

/-! ## The children that stand -/

/-- The children that were created since the namespace was last deleted. -/
def stand (tenant : String) (standing : List Object.Child) : Change → List Object.Child
  | .created child => standing ++ [child]
  | .deleted ns => if ns = tenant then [] else standing

/-- Those that stand make up the first part of the plan, and they are what is stored of it. -/
structure Standing (tenant : String) (scaled : Bool) (w : World) (standing : List Object.Child) : Prop where
  ordered : standing.map keyOf <+: planKeys tenant scaled
  stored : ∀ key ∈ planKeys tenant scaled, w.child? key = standing.find? (keyOf · = key)

variable {standing : List Object.Child}

theorem Standing.nodup (h : Standing tenant scaled w standing) : (standing.map keyOf).Nodup :=
  (planKeys_nodup tenant scaled).sublist h.ordered.sublist

/-- A key of the plan stands for a child exactly if one is stored under it. -/
theorem Standing.mem_iff (h : Standing tenant scaled w standing) {key : ChildKey}
    (hkey : key ∈ planKeys tenant scaled) : key ∈ standing.map keyOf ↔ (w.child? key).isSome = true := by
  rw [h.stored key hkey, List.find?_isSome, List.mem_map]
  simp only [decide_eq_true_eq]

/-- The next child to be created is the one after those that stand. -/
theorem Standing.next (h : Standing tenant scaled w standing) {key : ChildKey} {done rest : List ChildKey}
    (hkeys : planKeys tenant scaled = done ++ key :: rest) (hdone : ∀ k ∈ done, (w.child? k).isSome = true)
    (hkey : w.child? key = none) : standing.map keyOf = done := by
  have hmem : key ∉ standing.map keyOf := by
    rw [h.mem_iff (hkeys ▸ List.mem_append_right _ (List.mem_cons_self ..)), hkey]
    exact Bool.false_ne_true
  have hsub : ∀ k ∈ done, k ∈ standing.map keyOf := fun k hk =>
    (h.mem_iff (hkeys ▸ List.mem_append_left _ hk)).2 (hdone k hk)
  have hdn : done.Nodup := by
    have := planKeys_nodup tenant scaled
    rw [hkeys] at this
    exact this.sublist (List.sublist_append_left ..)
  have hprefix := h.ordered
  rw [hkeys] at hprefix
  -- both are first parts of the plan, and a longer one than `done` would have the key
  rcases List.prefix_or_prefix_of_prefix hprefix (List.prefix_append done (key :: rest)) with hp | hp
  · exact hp.eq_of_length_le (hdn.subperm hsub).length_le
  · obtain ⟨s, hs⟩ := hp
    rw [← hs] at hprefix hmem ⊢
    have := (List.prefix_append_right_inj done).1 hprefix
    cases s with
    | nil => exact List.append_nil _
    | cons k s =>
      obtain ⟨rfl, -⟩ := List.cons_prefix_cons.1 this
      exact absurd (List.mem_append_right _ (List.mem_cons_self ..)) hmem

/-- What a pass changes keeps those that stand in the order of the plan. -/
theorem Standing.progress (h : Standing tenant scaled w standing) {cs : List Change}
    (hp : Progress tenant scaled w cs)
    (hw : ∀ key ∈ planKeys tenant scaled, w'.child? key = cs.foldl (remade key) (w.child? key)) :
    Standing tenant scaled w' (cs.foldl (stand tenant) standing) := by
  cases hp with
  | none => exact ⟨h.ordered, fun key hk => (hw key hk).trans (h.stored key hk)⟩
  | @created child done rest hkeys hdone hnone =>
    have hnext := h.next hkeys hdone hnone
    refine ⟨?_, fun key hk => ?_⟩
    · show (standing ++ [child]).map keyOf <+: _
      rw [List.map_append, hnext, hkeys]
      exact (List.prefix_append_right_inj done).2 (List.prefix_append [keyOf child] rest)
    · rw [hw key hk]
      show (if keyOf child = key then some child else w.child? key) = (standing ++ [child]).find? _
      rw [List.find?_append]
      split
      next he =>
        have := h.stored key hk
        rw [← he, hnone] at this
        rw [← he, ← this, Option.none_or]
        exact (List.find?_cons_of_pos (by simp)).symm
      next he =>
        rw [← h.stored key hk, List.find?_cons_of_neg (by simpa using he), List.find?_nil, Option.or_none]
  | deleted =>
    refine ⟨?_, fun key hk => ?_⟩
    · show ((if tenant = tenant then [] else standing).map keyOf) <+: _
      rw [if_pos rfl]
      exact List.nil_prefix
    · rw [hw key hk]
      show (if World.goesWith tenant key then .none else w.child? key) = List.find? _ (if tenant = tenant then [] else _)
      rw [if_pos (planKeys_goesWith hk), if_pos rfl]
      rfl

theorem Standing.outside {m : World} (h : Standing tenant scaled w standing) (ho : Outside tenant name scaled w m) :
    Standing tenant scaled m standing :=
  ⟨h.ordered, fun key hk => (ho.children key hk).trans (h.stored key hk)⟩

theorem Progress.length_le {cs : List Change} (h : Progress tenant scaled w cs) : cs.length ≤ 1 := by
  cases h <;> simp

/-! ## Runs -/

theorem Leg.Happens.belongs {p : Leg} (h : p.Happens (Outside tenant name scaled))
    (hb : Belongs tenant name p.start) : Belongs tenant name p.stop :=
  h.plays.keeps (fun _ _ ho => ho.belongs) (fun x _ _ _ hm => hm.handle x.call) hb

/-- One pass keeps those that stand in the order of the plan, at its end and wherever it is cut. -/
theorem Leg.Happens.keeps_standing {p : Leg} (h : p.Happens (Outside tenant name scaled)) (hname : p.name = name)
    (hscaled : p.config.scaleToZero = scaled) (hb : Belongs tenant name p.start)
    (hs : Standing tenant scaled p.start standing) :
    Standing tenant scaled p.stop ((changes p.trace).foldl (stand tenant) standing) ∧
      ∀ t, t <+: p.trace → ((changes t).foldl (stand tenant) standing).map keyOf <+: planKeys tenant scaled := by
  have hp := h.progress hname hscaled hb
  have hstop := hs.progress hp fun key hk => h.plays.child? fun w m ho => ho.children key hk
  refine ⟨hstop, fun t ht => ?_⟩
  obtain ⟨rest, hrest⟩ := ht.filterMap Answered.change?
  have hlen := hp.length_le
  change changes t ++ rest = changes p.trace at hrest
  -- a pass makes one change at most, so the cut is after it or before it
  cases rest with
  | nil =>
    rw [List.append_nil] at hrest
    rw [hrest]
    exact hstop.ordered
  | cons c rest =>
    rw [← hrest, List.length_append, List.length_cons] at hlen
    rw [List.eq_nil_of_length_eq_zero (l := changes t) (by omega)]
    exact hs.ordered

/-- However many passes there are, and wherever the last is cut. -/
theorem Run.keeps_standing {ps : List Leg} (h : Run (Outside tenant name scaled) (Outside tenant name scaled) w ps w')
    (hps : ∀ p ∈ ps, p.name = name ∧ p.config.scaleToZero = scaled) (hb : Belongs tenant name w)
    (hs : Standing tenant scaled w standing) :
    Standing tenant scaled w' ((changes (calls ps)).foldl (stand tenant) standing) ∧
      ∀ t, t <+: calls ps → ((changes t).foldl (stand tenant) standing).map keyOf <+: planKeys tenant scaled := by
  induction h generalizing standing with
  | rest ho =>
    refine ⟨hs.outside ho, fun t ht => ?_⟩
    rw [List.prefix_nil.1 ht]
    exact hs.ordered
  | @pass w w' p ps ho hp _ ih =>
    obtain ⟨hname, hscaled⟩ := hps p (List.mem_cons_self ..)
    have hstart := ho.belongs hb
    obtain ⟨hstop, hcut⟩ := hp.keeps_standing hname hscaled hstart (hs.outside ho)
    obtain ⟨hend, hcuts⟩ := ih (fun q hq => hps q (List.mem_cons_of_mem _ hq)) (hp.belongs hstart) hstop
    rw [calls_cons, changes_append, List.foldl_append]
    refine ⟨hend, fun t ht => ?_⟩
    rcases List.prefix_or_prefix_of_prefix ht (List.prefix_append p.trace (calls ps)) with h | ⟨u, rfl⟩
    · exact hcut t h
    · rw [changes_append, List.foldl_append]
      exact hcuts u ((List.prefix_append_right_inj _).1 ht)

/-! ## What follows -/

/-- The keys of entries under which something is stored. -/
def present (w : World) (entries : List Entry) : List ChildKey :=
  (keysOf entries).filter fun key => (w.child? key).isSome

/-- What is stored of a plan is its first part. -/
theorem Standing.present_ordered (h : Standing tenant scaled w standing) {ws : Workspace} {settings : Settings}
    {config : Config} (hws : ws.workspaceName = tenant) (hscaled : config.scaleToZero = scaled) :
    present w (plan ws settings config) <+: keysOf (plan ws settings config) := by
  unfold present
  rw [keysOf_plan, hws, hscaled]
  obtain ⟨rest, hrest⟩ := h.ordered
  have hnodup := planKeys_nodup tenant scaled
  rw [← hrest, List.nodup_append'] at hnodup
  have hin : ∀ key ∈ standing.map keyOf, (w.child? key).isSome = true := fun key hk =>
    (h.mem_iff (hrest ▸ List.mem_append_left _ hk)).1 hk
  have hout : ∀ key ∈ rest, ¬(w.child? key).isSome = true := fun key hk hkey =>
    hnodup.2.2 ((h.mem_iff (hrest ▸ List.mem_append_right _ hk)).2 hkey) hk
  rw [← hrest, List.filter_append, List.filter_eq_self.2 hin, List.filter_eq_nil_iff.2 hout]
  exact (List.prefix_append_right_inj _).2 List.nil_prefix

/-- While the namespace is not deleted, those that stand grow by what is created. -/
theorem foldl_stand {cs : List Change} (h : .deleted tenant ∉ cs) :
    cs.foldl (stand tenant) standing = standing ++ cs.filterMap Change.created? := by
  induction cs generalizing standing with
  | nil => exact (List.append_nil _).symm
  | cons c cs ih =>
    obtain ⟨hc, hcs⟩ := not_or.1 (mt List.mem_cons.2 h)
    rw [List.foldl_cons, ih hcs]
    cases c with
    | created child =>
      show (standing ++ [child]) ++ _ = standing ++ (child :: cs.filterMap Change.created?)
      rw [List.append_assoc, List.singleton_append]
    | deleted ns =>
      have hns : ns ≠ tenant := fun he => hc (he ▸ rfl)
      show (if ns = tenant then [] else standing) ++ _ = standing ++ cs.filterMap Change.created?
      rw [if_neg hns]

/-- What a segment of a run creates while the namespace is not deleted, it creates once. -/
theorem Run.created_nodup {ps : List Leg}
    (h : Run (Outside tenant name scaled) (Outside tenant name scaled) w ps w')
    (hps : ∀ p ∈ ps, p.name = name ∧ p.config.scaleToZero = scaled) (hb : Belongs tenant name w)
    (hs : Standing tenant scaled w standing) {a b c : Trace} (hc : calls ps = a ++ b ++ c)
    (hd : .deleted tenant ∉ changes b) : ((created b).map keyOf).Nodup := by
  have := (h.keeps_standing hps hb hs).2 (a ++ b) (hc ▸ List.prefix_append ..)
  rw [changes_append, List.foldl_append, foldl_stand hd, List.map_append] at this
  have := (planKeys_nodup tenant scaled).sublist this.sublist
  exact (List.nodup_append'.1 this).2.1

/-- A child stays as it was created until the namespace is deleted. -/
theorem Run.created_stays {ps : List Leg}
    (h : Run (Outside tenant name scaled) (Outside tenant name scaled) w ps w')
    (hps : ∀ p ∈ ps, p.name = name ∧ p.config.scaleToZero = scaled) (hb : Belongs tenant name w)
    (hs : Standing tenant scaled w standing) {a b : Trace} {child : Object.Child}
    (hc : calls ps = a ++ ⟨.createChild child, .ok ()⟩ :: b) (hd : .deleted tenant ∉ changes b) :
    w'.child? (keyOf child) = some child := by
  have hend := (h.keeps_standing hps hb hs).1
  rw [hc, changes_append, changes_cons, List.foldl_append] at hend
  generalize (changes a).foldl (stand tenant) standing = before at hend
  change Standing tenant scaled w' ((changes b).foldl (stand tenant) (before ++ [child])) at hend
  rw [foldl_stand hd] at hend
  have hmem : keyOf child ∈ ((before ++ [child]) ++ created b).map keyOf :=
    List.mem_map_of_mem (List.mem_append_left _ (List.mem_append_right _ (List.mem_singleton_self _)))
  rw [hend.stored _ (hend.ordered.subset hmem)]
  -- nothing before it has its key, since no two that stand have one
  have hnodup := hend.nodup
  change (((before ++ [child]) ++ created b).map keyOf).Nodup at hnodup
  simp only [List.map_append, List.map_cons, List.map_nil] at hnodup
  have hbefore : before.find? (keyOf · = keyOf child) = none := by
    refine List.find?_eq_none.2 fun c hcm hk => ?_
    have := (List.nodup_append'.1 (List.nodup_append'.1 hnodup).1).2.2
    exact this (List.mem_map.2 ⟨c, hcm, of_decide_eq_true hk⟩) (List.mem_singleton_self _)
  rw [List.find?_append, List.find?_append, hbefore, Option.none_or, List.find?_cons_of_pos (by simp), Option.some_or]

/-- A child from behind the gate is created only in a pass that found the runtime ready and its models up to
date. -/
theorem Leg.Happens.gated {p : Leg} (h : p.Happens (Outside tenant name scaled)) (hname : p.name = name)
    (hb : Belongs tenant name p.start) {child : Object.Child} {x : Except Error Unit}
    (hx : ⟨.createChild child, x⟩ ∈ p.trace) (hgated : keyOf child ∈ chatKeys tenant p.config.scaleToZero) :
    ∃ ws t₁ n t₂ t₃, p.trace.snapshot? = some ws ∧ p.trace = t₁ ++
      ⟨.readyReplicas tenant (runtimeName tenant), .ok n⟩ :: ⟨.openRuntime tenant, ()⟩ :: (t₂ ++ t₃) ∧ 1 ≤ n ∧
      (syncModels tenant ws.spec.promptPatterns p.config.pullLimit ws.spec.models).run.Yields t₂ (.ok ()) ∧
      ⟨.createChild child, x⟩ ∈ t₃ := by
  cases h.trace.reshapes with
  | nothing hq => exact absurd rfl (hq _ hx)
  | @deletion ws y t₁ _ hq ht =>
    rw [ht] at hx
    rcases List.mem_cons.1 hx with hx | hx
    · cases hx
    rcases List.mem_cons.1 hx with hx | hx
    · cases hx
    · exact absurd hx (hq.not_mem (by simp [Call.topic]))
  | @creation ws child' y t₁ t₂ _ ha hq ht =>
    have hws := h.snapshot hname hb ht
    obtain @⟨m, settings, done, rest, owner, u, _, hplan, hc, _⟩ := ha
    have hchild : keyOf child = keyOf child' ∧ ⟨.createChild child, x⟩ ∈
        ([⟨.childExists child', .ok false⟩, ⟨.createChild (child'.setOwner owner), y⟩] ++ t₂ : Trace) := by
      rw [ht] at hx
      have hu := hc.about.not_mem (x := ⟨.createChild child, x⟩) (by simp [Call.topic])
      have ht₂ := hq.not_mem (x := ⟨.createChild child, x⟩) (by simp [Call.topic])
      simp only [List.mem_cons, List.mem_append, hu, ht₂, Answered.mk.injEq, reduceCtorEq, false_and, false_or,
        or_false, List.not_mem_nil, Call.createChild.injEq] at hx
      obtain ⟨rfl, hx⟩ := hx
      cases hx
      exact ⟨rfl, by simp⟩
    -- the keys of the plan differ, so a child from behind the gate is not one from before it
    have hready : .readiness ∈ done := by
      refine (plan_split hplan).resolve_right fun hk => ?_
      rw [← hchild.1, hws] at hk
      exact (List.nodup_append'.1 (planKeys_nodup tenant p.config.scaleToZero)).2.2 hk hgated
    obtain ⟨u₁, n, tm, u₃, rfl, hn, hm⟩ := hc.synced hready
    refine ⟨ws, ⟨.workspace p.name, .ok (some ws)⟩ ::
      ⟨.configMap p.config.settingsNamespace p.config.settingsConfigMap, m⟩ :: u₁, n, tm, u₃ ++
      ([⟨.childExists child', .ok false⟩, ⟨.createChild (child'.setOwner owner), y⟩] ++ t₂), ?_, ?_, hn, ?_, ?_⟩
    · rw [ht]; rfl
    · rw [ht, hws]
      simp only [List.cons_append, List.append_assoc, List.nil_append]
    · rw [← hws]; exact hm
    · exact List.mem_append_right _ hchild.2

/-- Provisioning is ordered, resumes where it stopped, and makes nothing twice. In a run that starts without
any child of the plan, and in which only passes touch those children: what is stored of the plan is its first
part after every pass; no pass creates two children; between deletions of the namespace no key is created
twice, and a child stays as it was created; and a child from behind the gate is created only in a pass that
has found the runtime ready and has brought its models up to date. -/
theorem provisioning_resumes {ps : List Leg}
    (h : Run (Outside tenant name scaled) (Outside tenant name scaled) w ps w')
    (hps : ∀ p ∈ ps, p.name = name ∧ p.config.scaleToZero = scaled) (hb : Belongs tenant name w)
    (hnone : ∀ key ∈ planKeys tenant scaled, w.child? key = none) :
    (∀ p ∈ ps, ∀ ws settings config, ws.workspaceName = tenant → config.scaleToZero = scaled →
      present p.stop (plan ws settings config) <+: keysOf (plan ws settings config)) ∧
    (∀ p ∈ ps, (created p.trace).length ≤ 1) ∧
    (∀ a b c, calls ps = a ++ b ++ c → .deleted tenant ∉ changes b → ((created b).map keyOf).Nodup) ∧
    (∀ a child b, calls ps = a ++ ⟨.createChild child, .ok ()⟩ :: b → .deleted tenant ∉ changes b →
      w'.child? (keyOf child) = some child) ∧
    ∀ p ∈ ps, ∀ child x, ⟨.createChild child, x⟩ ∈ p.trace →
      ∀ ws settings config before after, ws.workspaceName = tenant → config.scaleToZero = scaled →
        plan ws settings config = before ++ .readiness :: after → keyOf child ∈ keysOf after →
        ∃ ws t₁ n t₂ t₃, p.trace.snapshot? = some ws ∧ p.trace = t₁ ++
          ⟨.readyReplicas tenant (runtimeName tenant), .ok n⟩ :: ⟨.openRuntime tenant, ()⟩ :: (t₂ ++ t₃) ∧ 1 ≤ n ∧
          (syncModels tenant ws.spec.promptPatterns p.config.pullLimit ws.spec.models).run.Yields t₂ (.ok ()) ∧
          ⟨.createChild child, x⟩ ∈ t₃ := by
  have hs : Standing tenant scaled w [] := ⟨List.nil_prefix, hnone⟩
  have started : ∀ p ∈ ps, p.Happens (Outside tenant name scaled) ∧ Belongs tenant name p.start := by
    intro p hp
    obtain ⟨hhap, ps₁, ps₂, -, hr, -⟩ := h.upto (Outside.refl tenant name scaled) hp
    exact ⟨hhap, hr.keeps (fun _ _ ho => ho.belongs) (fun _ _ hq => hq.belongs) hb⟩
  refine ⟨fun p hp ws settings config hws hscaled => ?_, fun p hp => ?_,
    fun a b c hc hd => h.created_nodup hps hb hs hc hd, fun a child b hc hd => h.created_stays hps hb hs hc hd,
    fun p hp child x hx ws settings config before after hws hscaled hplan hkey => ?_⟩
  · obtain ⟨-, ps₁, ps₂, rfl, -, hr⟩ := h.upto (Outside.refl tenant name scaled) hp
    refine (hr.keeps_standing (fun q hq => hps q ?_) hb hs).1.present_ordered hws hscaled
    simp only [List.mem_append, List.mem_cons, List.not_mem_nil, or_false] at hq ⊢
    tauto
  · obtain ⟨hname, hscaled⟩ := hps p hp
    obtain ⟨hhap, hstart⟩ := started p hp
    exact (List.length_filterMap_le ..).trans (hhap.progress hname hscaled hstart).length_le
  · obtain ⟨hname, hscaled'⟩ := hps p hp
    obtain ⟨hhap, hstart⟩ := started p hp
    refine hhap.gated hname hstart hx ?_
    have hkeys := keysOf_plan ws settings config
    rw [hplan, keysOf_append, keysOf_readiness, plan_gate hplan] at hkeys
    rw [hscaled', ← hscaled, ← hws, ← List.append_cancel_left hkeys]
    exact hkey

/-- In ten passes a new workspace gets nine children, no two under one key, the first nine of its plan. -/
theorem provisioning_resumes_newcomer :
    (created (calls (passes {} "team" 10 (outpost newcomer)).1)).length = 9 ∧
      ((created (calls (passes {} "team" 10 (outpost newcomer)).1)).map keyOf).Nodup ∧
      ∀ p ∈ (passes {} "team" 10 (outpost newcomer)).1, ∀ settings,
        present p.stop (plan newcomer settings {}) <+: keysOf (plan newcomer settings {}) := by
  have hrun := run_passes (Outside.refl "team-a" "team" false) (Outside.refl "team-a" "team" false) {} "team" 10
    (outpost newcomer)
  have hps : ∀ p ∈ (passes {} "team" 10 (outpost newcomer)).1, p.name = "team" ∧ p.config.scaleToZero = false := by
    intro p hp
    obtain ⟨hc, hn⟩ := passes_mem hp
    exact ⟨hn, by rw [hc]⟩
  have hb : Belongs "team-a" "team" (outpost newcomer) := by
    intro ws h
    cases Option.some.inj h
    rfl
  have hall : (changes (calls (passes {} "team" 10 (outpost newcomer)).1)).all (·.created?.isSome) = true := by
    decide +kernel
  obtain ⟨hfirst, -, hnodup, -⟩ := provisioning_resumes hrun hps hb fun _ _ => rfl
  refine ⟨by decide +kernel, hnodup [] (calls _) [] ?_ fun hd => ?_, fun p hp settings => ?_⟩
  · rw [List.nil_append, List.append_nil]
  · cases List.all_eq_true.1 hall _ hd
  · exact hfirst p hp newcomer settings {} rfl rfl

end Tenancy.Simulation
