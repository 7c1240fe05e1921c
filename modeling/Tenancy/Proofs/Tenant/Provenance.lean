/-
Where children come from. Every object that a plan asks for carries the labels by which managed objects are found,
lies under the tenant's name, and is of a kind that is watched (`partOf_plan`); when a pass creates it, the workspace
that the pass has read is made its only owner, so that a change of the child leads back to that workspace
(`PassTrace.makes`). A pass over a workspace that cannot own anything stops at the first child that is missing
(`PassTrace.ownerless`). For runs all of it is `children_provenance`.
-/
import Tenancy.Proofs.Tenant.Ownership

namespace Tenancy.Operator

open Object Tenant

variable {config : Config} {name : String} {t : Trace} {ws : Workspace} {settings : Settings} {child : Child}

/-! ## Objects of a plan -/

/-- What makes an object part of the tenant of a workspace: it can be found and told by its labels, lies under the
tenant's name, and is watched. -/
structure PartOf (config : Config) (ws : Workspace) (child : Child) : Prop where
  selected : Watch.selects child.metadata = true
  /-- One of the labels is what the text of the selector asks for. -/
  selector : ∃ key value, Labels.managedSelector = key ++ "=" ++ value ∧ Dict.get? child.labels key = some value
  labelled : Dict.get? child.labels Labels.workspaceKey = some ws.workspaceName
  placed : child.kind = .namespace ∧ child.ns = none ∧ child.name = ws.workspaceName ∨
    child.kind ≠ .namespace ∧ child.ns = some ws.workspaceName
  watched : child.kind ∈ Watch.kinds config

theorem managedByKey_standard (tenant name component : String) :
    Dict.get? (Labels.standard tenant name component) Labels.managedByKey = some Labels.manager := by
  have hne : Labels.managedByKey ≠ Labels.workspaceKey := by decide +kernel
  unfold Labels.standard Dict.ofList
  simp only [List.foldl_cons, List.foldl_nil, Dict.get?_insert, if_neg hne, if_true]

theorem workspaceKey_standard (tenant name component : String) :
    Dict.get? (Labels.standard tenant name component) Labels.workspaceKey = some tenant := by
  unfold Labels.standard Dict.ofList
  simp only [List.foldl_cons, List.foldl_nil, Dict.get?_insert, if_true]

/-- Whatever a plan asks for is part of its tenant. -/
theorem partOf_plan (h : .ensure child ∈ plan ws settings config) : PartOf config ws child := by
  obtain ⟨⟨c, hidentified⟩, hplaced⟩ := plan_planned h
  have hlabels : child.metadata.labels.getD [] = Labels.standard ws.workspaceName child.name c.label := by
    rw [hidentified, Manifest.identified, Option.getD_some, Tenant.labelled]
  constructor
  case selected =>
    unfold Watch.selects
    rw [hlabels, Labels.managed, managedByKey_standard, decide_eq_true_iff]
  case selector =>
    refine ⟨Labels.managedByKey, Labels.manager, rfl, ?_⟩
    unfold Child.labels
    rw [hlabels, managedByKey_standard]
  case labelled =>
    unfold Child.labels
    rw [hlabels, workspaceKey_standard]
  case placed =>
    refine hplaced.imp_right ?_
    rintro ⟨hkind, hns, -⟩
    refine ⟨fun hk => ?_, hns⟩
    rw [hk] at hkind
    cases hkind
  case watched =>
    by_cases hk : child.kind = .scaledObject
    · simp [Watch.kinds, hk, scaled_of_kind h hk]
    · generalize child.kind = kind at hk
      cases kind <;> first | exact absurd rfl hk | simp [Watch.kinds]

/-! ## Created objects -/

/-- What a child is like that was created for a workspace: it is part of its tenant, has it as its only owner, and
leads back to it. -/
structure MadeFor (config : Config) (ws : Workspace) (child : Child) : Prop extends PartOf config ws child where
  owner : ∃ name uid, ws.metadata.name = some name ∧ ws.metadata.uid = some uid ∧ child.owners =
    [{ apiVersion := Workspace.apiVersion, kind := Workspace.kind, name, uid, controller := some true }]
  leads : Watch.workspace? child.metadata = some ws.name

theorem PartOf.owned {planned : Child} {reference : OwnerReference} (h : PartOf config ws planned)
    (ho : ws.ownerReference? = some reference) : MadeFor config ws (planned.setOwner reference) := by
  obtain ⟨name, uid, hname, huid, rfl⟩ := Workspace.ownerReference?_eq_some_iff.1 ho
  -- the labels and the place of an object do not depend on its owner
  refine ⟨⟨h.selected, h.selector, h.labelled, h.placed, h.watched⟩, ⟨name, uid, hname, huid, rfl⟩, ?_⟩
  rw [Workspace.name_of_some hname]
  rfl

/-- Whatever a pass tries to create is made for the workspace that it has read. -/
theorem PassTrace.makes {r : Except Error Requeue} (h : PassTrace config name t r) {y : Except Error Unit}
    (hx : ⟨.createChild child, y⟩ ∈ t) : ∃ ws, t.snapshot? = some ws ∧ MadeFor config ws child := by
  obtain ⟨ws, settings, planned, owner, hsnap, hplan, ho, rfl⟩ := Simulation.PassTrace.plans h hx
  exact ⟨ws, hsnap, (partOf_plan hplan).owned ho⟩

/-! ## Workspaces that cannot own -/

/-- Why a workspace cannot own anything. -/
def ownerlessError (ws : Workspace) : Error :=
  .internal ("workspace " ++ ws.name ++ " has no uid; cannot own children")

theorem ownerReference?_eq_none (h : ws.metadata.name = none ∨ ws.metadata.uid = none) : ws.ownerReference? = none := by
  refine Option.eq_none_iff_forall_ne_some.2 fun owner ho => ?_
  obtain ⟨name, uid, hname, huid, -⟩ := Workspace.ownerReference?_eq_some_iff.1 ho
  rcases h with h | h
  · cases h.symm.trans hname
  · cases h.symm.trans huid

/-- Behind a cleared entry nothing was missing. -/
theorem Cleared.not_missing {done : List Entry} (h : Cleared config ws done t) (child : Child) :
    ⟨.childExists child, .ok false⟩ ∉ t := by
  induction h with
  | nil => exact List.not_mem_nil
  | ensure _ ih => simp [ih]
  | @readiness _ u _ hs _ ih =>
    have hsync : ⟨.childExists child, .ok false⟩ ∉ u := hs.about.not_mem (by simp [Call.topic])
    simp [hsync, ih]

theorem Provisions.ownerless {r : Except Error Outcome} (h : Provisions config ws t r)
    (ho : ws.ownerReference? = none) (hx : ⟨.childExists child, .ok false⟩ ∈ t) : r = .error (ownerlessError ws) := by
  cases h with
  | unsettled => simp at hx
  | @followed m _ done rest t₁ t₂ _ _ _ hc hh =>
    have hx : ⟨.childExists child, .ok false⟩ ∈ t₂ := by simpa [hc.not_missing child] using hx
    cases hh with
    | complete => cases hx
    | created he =>
      cases he with
      | created hsome => cases hsome.symm.trans ho
    | refused he =>
      cases he with
      | unknown => simp at hx
      | ownerless => rfl
      | refused _ hsome => cases hsome.symm.trans ho
    | awaiting hs | failed hs => exact absurd hx (hs.about.not_mem (by simp [Call.topic]))

theorem ProvisionPass.ownerless {step : Lifecycle.Step} {r : Except Error Requeue}
    (h : ProvisionPass config ws step t r) (ho : ws.ownerReference? = none)
    (hx : ⟨.childExists child, .ok false⟩ ∈ t) : r = .error (ownerlessError ws) := by
  -- a provisioning that ends well has found nothing missing, and what follows looks for nothing
  have found : ∀ {u : Trace} {outcome : Outcome}, Provisions config ws u (.ok outcome) →
      ⟨.childExists child, .ok false⟩ ∉ u := fun hp hu => nomatch hp.ownerless ho hu
  have reported : ∀ {mark : Bool} {c : Option Condition} {u : Trace} {y : Except Error Unit},
      Reports ws.name mark c u y → ⟨.childExists child, .ok false⟩ ∉ u :=
    fun hr => hr.about.not_mem (by simp [Call.topic])
  cases h with
  | failed hp => rw [Except.error.inj (hp.ownerless ho hx)]
  | created hp hr | awaiting hp hr | unmarked hp hr | complete hp hr => simp [found hp, reported hr] at hx

/-- A pass over a workspace that cannot own anything stops at the first child that is missing, and says why. -/
theorem PassTrace.ownerless {r : Except Error Requeue} (h : PassTrace config name t r) (hs : t.snapshot? = some ws)
    (ho : ws.ownerReference? = none) (hx : ⟨.childExists child, .ok false⟩ ∈ t) : r = .error (ownerlessError ws) := by
  obtain ⟨y, rfl⟩ | ⟨ws', step, u, v, -, hstep, hv, rfl⟩ := h.steps
  · simp at hx
  obtain rfl : ws' = ws := Option.some.inj hs
  have hreport : ⟨.childExists child, .ok false⟩ ∉ v := hv.about.not_mem (by simp [Call.topic])
  have hx : ⟨.childExists child, .ok false⟩ ∈ u := by simpa [hreport] using hx
  cases hstep with
  | created hp | updated hp => exact hp.ownerless ho hx
  | guarded | abandoned => cases hx
  | attached | undeleted | deleted => simp at hx

end Tenancy.Operator

namespace Tenancy.Simulation

open Operator Object

variable {others between : World → World → Prop} {w w' : World} {ps : List Leg}

/-! ## Stored children -/

/-- A pass of the run has created the child for the workspace that it had read. -/
def Made (ps : List Leg) (key : ChildKey) (child : Child) : Prop := ∃ p ∈ ps, ∃ ws, key = keyOf child ∧
  ⟨.createChild child, .ok ()⟩ ∈ p.trace ∧ p.trace.snapshot? = some ws ∧ MadeFor p.config ws child

/-- Others store only children of the given sort. -/
def Brings (Q : ChildKey → Child → Prop) (w m : World) : Prop :=
  ∀ key child, m.child? key = some child → w.child? key = some child ∨ Q key child

/-- Whatever is stored was stored by others, or made. -/
def Traceable (Q : ChildKey → Child → Prop) (ps : List Leg) (w : World) : Prop :=
  ∀ key child, w.child? key = some child → Q key child ∨ Made ps key child

variable {Q : ChildKey → Child → Prop}

theorem Traceable.brought {m : World} (h : Traceable Q ps w) (ho : Brings Q w m) : Traceable Q ps m := by
  intro key child hchild
  rcases ho key child hchild with hold | hnew
  · exact h key child hold
  · exact .inl hnew

/-- What a pass stores can be traced back to it. -/
theorem Leg.Happens.traceable {p : Leg} (h : p.Happens others) (hothers : ∀ n m, others n m → Brings Q n m)
    (hp : p ∈ ps) (hw : Traceable Q ps p.start) : Traceable Q ps p.stop := by
  refine h.plays.keeps (fun n m ho hn => hn.brought (hothers n m ho)) (fun x hx m ha hm => ?_) hw
  intro key child hchild
  rcases stored_handle hchild with hold | ⟨rfl, hmade⟩
  · exact hm key child hold
  · -- the call that created the child is one of the pass
    rw [ha] at hmade
    have hx : ⟨.createChild child, .ok ()⟩ ∈ p.trace := hmade ▸ hx
    obtain ⟨ws, hsnap, hfor⟩ := h.trace.makes hx
    exact .inr ⟨p, hp, ws, rfl, hx, hsnap, hfor⟩

theorem Run.traceable (h : Run others between w ps w') (hothers : ∀ n m, others n m → Brings Q n m)
    (hbetween : ∀ n m, between n m → Brings Q n m) (hw : Traceable Q ps w) : Traceable Q ps w' :=
  h.keeps (fun n m hb hn => hn.brought (hbetween n m hb)) (fun _ hp hhap => hhap.traceable hothers hp) hw

/-! ## What it comes to -/

/-- Where children come from, in a run in which anything may fail and others may do anything. Whatever a pass tries
to create has the workspace that it read as its only owner and leads back to it, carries the labels of a managed object
of its tenant, lies under the tenant's name, and is of a kind that is watched. So every child that is stored in
the end, and that others have not stored, is of this sort. And a pass over a workspace without a name or a uid creates
nothing: at the first child that is missing it fails. -/
theorem children_provenance (h : Run others between w ps w') :
    (∀ p ∈ ps, ∀ child y, ⟨.createChild child, y⟩ ∈ p.trace →
      ∃ ws, p.trace.snapshot? = some ws ∧ MadeFor p.config ws child) ∧
    (∀ Q : ChildKey → Child → Prop, (∀ n m, others n m → Brings Q n m) → (∀ n m, between n m → Brings Q n m) →
      (∀ key child, w.child? key = some child → Q key child) →
      ∀ key child, w'.child? key = some child → Q key child ∨ Made ps key child) ∧
    ∀ p ∈ ps, ∀ ws, p.trace.snapshot? = some ws → ws.metadata.name = none ∨ ws.metadata.uid = none →
      (∀ child y, ⟨.createChild child, y⟩ ∉ p.trace) ∧
      ∀ child, ⟨.childExists child, .ok false⟩ ∈ p.trace →
        p.result = .error (.internal ("workspace " ++ ws.name ++ " has no uid; cannot own children")) := by
  refine ⟨fun p hp child y hx => (h.happens hp).trace.makes hx, ?_, ?_⟩
  · intro Q hothers hbetween hw
    exact h.traceable hothers hbetween fun key child hchild => .inl (hw key child hchild)
  · intro p hp ws hsnap hnone
    have ho := ownerReference?_eq_none hnone
    constructor
    · intro child y hx
      obtain ⟨ws', hsnap', hfor⟩ := (h.happens hp).trace.makes hx
      obtain rfl : ws' = ws := Option.some.inj (hsnap'.symm.trans hsnap)
      obtain ⟨name, uid, hname, huid, -⟩ := hfor.owner
      rcases hnone with hnone | hnone
      · cases hname.symm.trans hnone
      · cases huid.symm.trans hnone
    · intro child hx
      exact (h.happens hp).trace.ownerless hsnap ho hx

/-- A workspace without a uid. -/
def anonymous : Workspace := { newcomer with metadata := { newcomer.metadata with uid := none } }

/-- Whether a child was looked for and not found. -/
def misses : Answered → Bool
  | ⟨.childExists _, .ok false⟩ => true
  | _ => false

theorem eq_of_misses {x : Answered} (h : misses x = true) : ∃ child, x = ⟨.childExists child, .ok false⟩ := by
  unfold misses at h
  split at h
  next child => exact ⟨child, rfl⟩
  next => cases h

/-- What is stored after a whole provisioning was made in it; for a workspace without a uid nothing is. -/
theorem children_provenance_newcomer :
    (((passes {} "team" 14 (outpost newcomer)).2.child? (.namespace, none, "team-a")).isSome = true ∧
      ∀ key child, (passes {} "team" 14 (outpost newcomer)).2.child? key = some child →
        Made (passes {} "team" 14 (outpost newcomer)).1 key child) ∧
    ∃ p ∈ (passes {} "team" 2 (outpost anonymous)).1, (∀ child y, ⟨.createChild child, y⟩ ∉ p.trace) ∧
      p.result = .error (.internal "workspace team has no uid; cannot own children") := by
  constructor
  · have hrun := run_passes Alone.refl Alone.refl {} "team" 14 (outpost newcomer)
    have hnone : ∀ n m, Alone n m → Brings (fun _ _ => False) n m := by
      rintro n m rfl key child hchild
      exact .inl hchild
    obtain ⟨-, hstored, -⟩ := children_provenance hrun
    have hempty : ∀ key child, (outpost newcomer).child? key = some child → False := fun _ _ h => nomatch h
    have hmade := hstored (fun _ _ => False) hnone hnone hempty
    refine ⟨by decide +kernel, fun key child hchild => ?_⟩
    exact (hmade key child hchild).resolve_left id
  · have hrun := run_passes Alone.refl Alone.refl {} "team" 2 (outpost anonymous)
    have hmissing : (passes {} "team" 2 (outpost anonymous)).1.any (fun p =>
        p.trace.snapshot?.any (fun ws => decide (ws.name = "team") && ws.metadata.uid.isNone) &&
        p.trace.any misses) = true := by
      decide +kernel
    obtain ⟨p, hp, hboth⟩ := List.any_eq_true.1 hmissing
    obtain ⟨hsnap, hlooked⟩ := Bool.and_eq_true_iff.1 hboth
    obtain ⟨ws, hsnap, hws⟩ := (Option.any_eq_true _ _).1 hsnap
    obtain ⟨hname, huid⟩ := Bool.and_eq_true_iff.1 hws
    obtain ⟨x, hx, hmisses⟩ := List.any_eq_true.1 hlooked
    obtain ⟨-, -, hownerless⟩ := children_provenance hrun
    obtain ⟨hnothing, hfails⟩ := hownerless p hp ws hsnap (.inr (Option.isNone_iff_eq_none.1 huid))
    refine ⟨p, hp, hnothing, ?_⟩
    obtain ⟨child, rfl⟩ := eq_of_misses hmisses
    rw [hfails child hx, of_decide_eq_true hname]
    rfl

end Tenancy.Simulation
