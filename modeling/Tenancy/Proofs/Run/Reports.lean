/-
What a pass writes into a status, and what it announces. Every write of a status is based on a reading just
before it; only a pass that has found its plan complete writes that the workspace is ready, or marks it as
created (`PassTrace.patches`); and it announces a new workspace only after the mark (`PassTrace.announces`).
-/
import Tenancy.Proofs.Run.Children
import Tenancy.Proofs.Workspace.Lifecycle
import Tenancy.Proofs.Workspace.Status

namespace Tenancy.Operator

open Program Lifecycle

variable {config : Config} {ws : Workspace} {name : String} {t t₁ t₂ : Trace} {mark : Bool}
  {condition : Option Condition}

/-! ## Reports -/

theorem isCreated_reported (latest : Workspace) (now : String) (mark : Bool) (c : Option Condition) :
    (Reported latest now mark c).isCreated = (latest.isCreated || mark) := by
  rw [← latest.isCreated_getD]
  rfl

/-- The first condition of its type in a report is the one that was reported, up to its times. -/
theorem status_reported {latest : Workspace} {now : String} {mark : Bool} {c c' : Condition}
    (h : (Reported latest now mark (some c)).conditions.find? (·.type = c.type) = some c') : c'.status = c.status := by
  have htells : (Reported latest now mark (some c)).Tells c latest.metadata.generation := Status.tells_merge
  obtain ⟨_, hc, he⟩ := htells.find?
  cases hc.symm.trans h
  have hstatus : c'.untimed.status = c.status := by rw [he]; rfl
  exact hstatus

/-- A report goes in every one of the ways it can go. -/
theorem Reports.yields {r : Except Error Unit} (h : Reports name mark condition t r) :
    (report name mark condition).run.Yields t r := by
  unfold report
  rw [Operation.yields_bind]
  have clock : ∀ now : String, Operation.now.run.Yields [⟨.now, now⟩] (.ok now) := fun now =>
    (Operation.yields_always ..).2 ⟨now, (yields_call ..).2 rfl, rfl⟩
  cases h with
  | unread e => exact .inl ⟨e, (yields_call ..).2 rfl, rfl⟩
  | gone => exact .inr ⟨_, none, [], rfl, (yields_call ..).2 rfl, rfl, rfl⟩
  | @unchanged latest now hs =>
    refine .inr ⟨[_], some latest, [⟨.now, now⟩], rfl, (yields_call ..).2 rfl, ?_⟩
    simp only [Operation.yields_bind]
    refine .inr ⟨_, now, [], rfl, clock now, ?_⟩
    rw [Reported] at hs
    rw [hs, if_pos rfl]
    exact ⟨rfl, rfl⟩
  | @written latest now x hs =>
    refine .inr ⟨[_], some latest, [⟨.now, now⟩, _], rfl, (yields_call ..).2 rfl, ?_⟩
    simp only [Operation.yields_bind]
    refine .inr ⟨[_], now, [_], rfl, clock now, ?_⟩
    have hs' := hs
    rw [Reported] at hs'
    rw [hs', if_neg Bool.false_ne_true]
    exact (yields_call ..).2 rfl

/-- What a report writes is made of what it has just read. -/
theorem Reports.patches {r y : Except Error Unit} {n : String} {v : Option String} {s : Status}
    (h : Reports name mark condition t r) (ht : t = t₁ ++ ⟨.patchStatus n v s, y⟩ :: t₂) :
    ∃ latest now, t₁ = [⟨.workspace name, .ok (some latest)⟩, ⟨.now, now⟩] ∧ n = latest.name ∧
      s = Reported latest now mark condition := by
  have hx : ⟨.patchStatus n v s, y⟩ ∈ t := ht ▸ List.mem_append_right _ (List.mem_cons_self ..)
  cases h with
  | unread | gone | unchanged => simp at hx
  | @written latest now x _ =>
    have hbefore : ⟨.patchStatus n v s, y⟩ ∉ ([⟨.workspace name, .ok (some latest)⟩, ⟨.now, now⟩] : Trace) := by simp
    change [_, _] ++ _ :: [] = _ at ht
    obtain ⟨rfl, hpatch, -⟩ := (List.append_cons_inj_of_notMem hbefore List.not_mem_nil).1 ht
    cases hpatch
    exact ⟨latest, now, rfl, rfl, rfl⟩

/-! ## Passes -/

/-- What a pass has seen when it writes a status: the reading that the status is made of, and, if the status
marks the workspace as created or calls it ready, a provisioning that was complete. -/
def Informed (config : Config) (name : String) (t : Trace) (n : String) (s : Status) : Prop :=
  ∃ t₀ key latest now mark c, t = t₀ ++ [⟨.workspace key, .ok (some latest)⟩, ⟨.now, now⟩] ∧ n = latest.name ∧
    s = Reported latest now mark (some c) ∧ c.type = Condition.readyType ∧
    (mark = true ∨ c.status = .yes →
      ∃ ws t', t₀ = ⟨.workspace name, .ok (some ws)⟩ :: t' ∧ Provisions config ws t' (.ok .complete))

variable {r : Except Error Requeue} {y : Except Error Unit} {n : String} {v : Option String} {s : Status}

/-- A report that follows a provisioning, and is followed by no other write. -/
theorem Provisions.informed {a b d : Trace} {o : Outcome} {c : Condition} {x : Except Error Unit} {key : String}
    (hp : Provisions config ws a (.ok o)) (hr : Reports key mark (some c) b x) (hc : c.type = Condition.readyType)
    (hready : mark = true ∨ c.status = .yes → o = .complete) (hd : d.About [.events])
    (ht : a ++ (b ++ d) = t₁ ++ ⟨.patchStatus n v s, y⟩ :: t₂) :
    Informed config name (⟨.workspace name, .ok (some ws)⟩ :: t₁) n s := by
  have hx : ∀ {u u' : Trace}, ⟨.patchStatus n v s, y⟩ ∈ u ++ ⟨.patchStatus n v s, y⟩ :: u' := fun {u u'} =>
    List.mem_append_right _ (List.mem_cons_self ..)
  rcases Trace.split ht with ⟨u, rfl, -⟩ | ⟨u, rfl, hb⟩
  · exact absurd hx (hp.about.not_mem (by simp [Call.topic]))
  · rcases Trace.split hb with ⟨u', hb, -⟩ | ⟨u', rfl, rfl⟩
    · obtain ⟨latest, now, rfl, hn, hs⟩ := hr.patches hb
      refine ⟨⟨.workspace name, .ok (some ws)⟩ :: a, key, latest, now, mark, c, by simp, hn, hs, hc, fun h => ?_⟩
      exact ⟨ws, a, rfl, hready h ▸ hp⟩
    · exact absurd hx (hd.not_mem (by simp [Call.topic]))

theorem ProvisionPass.informed {step : Step} (h : ProvisionPass config ws step t r)
    (ht : t = t₁ ++ ⟨.patchStatus n v s, y⟩ :: t₂) :
    Informed config name (⟨.workspace name, .ok (some ws)⟩ :: t₁) n s := by
  have hnone := Trace.about_nil [.events]
  cases h with
  | failed hp =>
    have : ⟨.patchStatus n v s, y⟩ ∈ t := ht ▸ List.mem_append_right _ (List.mem_cons_self ..)
    exact absurd this (hp.about.not_mem (by simp [Call.topic]))
  | created hp hr =>
    rw [← List.append_nil (_ ++ _), List.append_assoc] at ht
    exact hp.informed hr rfl (by rintro (h | h) <;> cases h) hnone ht
  | awaiting hp hr =>
    rw [← List.append_nil (_ ++ _), List.append_assoc] at ht
    exact hp.informed hr rfl (by rintro (h | h) <;> cases h) hnone ht
  | unmarked hp hr =>
    rw [← List.append_nil (_ ++ _), List.append_assoc] at ht
    exact hp.informed hr rfl (fun _ => rfl) hnone ht
  | complete hp hr => exact hp.informed hr rfl (fun _ => rfl) (published_about ws step) ht

/-- Every write of a status is informed. -/
theorem PassTrace.informed (h : PassTrace config name t r) (ht : t = t₁ ++ ⟨.patchStatus n v s, y⟩ :: t₂) :
    Informed config name t₁ n s := by
  have hx : ∀ {u u' : Trace}, ⟨.patchStatus n v s, y⟩ ∈ u ++ ⟨.patchStatus n v s, y⟩ :: u' := fun {u u'} =>
    List.mem_append_right _ (List.mem_cons_self ..)
  have hm : ⟨.patchStatus n v s, y⟩ ∈ t := ht ▸ hx
  obtain ⟨x, rfl⟩ | ⟨ws, step, u, v', hs, hstep, hv, rfl⟩ := h.steps
  · simp at hm
  obtain ⟨t₁, rfl⟩ : ∃ t', t₁ = ⟨.workspace name, .ok (some ws)⟩ :: t' := by
    cases t₁ with
    | nil => cases ht
    | cons z t₁ => exact ⟨t₁, by rw [(List.cons.inj ht).1]⟩
  rcases Trace.split (List.cons.inj ht).2 with ⟨w, hu, -⟩ | ⟨w, rfl, hv'⟩
  · -- the write belongs to the step
    have hm : ⟨.patchStatus n v s, y⟩ ∈ u := hu ▸ hx
    cases hstep with
    | created h | updated h => exact h.informed hu
    | guarded | attached | abandoned | undeleted | deleted => simp at hm
  · -- the report of a failure says that the workspace is not ready
    cases hv with
    | nothing => simp at hv'
    | report hr =>
      cases hr with
      | silent => simp at hv'
      | made _ hr =>
        obtain ⟨latest, now, rfl, hn, hs⟩ := hr.patches hv'
        refine ⟨⟨.workspace name, .ok (some ws)⟩ :: u, name, latest, now, false, _, by simp, hn, hs, rfl, ?_⟩
        rintro (h | h) <;> cases h

/-! ## Announcements -/

/-- Whether an answered call announces that the workspace `name` with the given uid has been created. -/
def Answered.announces (name : String) (uid : Option String) : Answered → Bool
  | ⟨.publish event, _⟩ =>
    decide (event.reason = "Created" ∧ event.reference.name = some name ∧ event.reference.uid = uid)
  | _ => false

variable {key : String} {uid : Option String}

theorem Answered.announces_topic {x : Answered} (h : x.announces key uid = true) :
    x.call.topic = .events := by
  obtain ⟨c, a⟩ := x
  cases c <;> first | rfl | cases h

/-- Traces about other things announce nothing. -/
theorem Trace.About.not_announces {topics : List Topic} (h : t.About topics) (hc : .events ∉ topics) {x : Answered}
    (hx : x ∈ t) : x.announces key uid = false := by
  refine Bool.eq_false_iff.2 fun hk => hc ?_
  rw [← x.announces_topic hk]
  exact h x hx

theorem ProvisionPass.announces {step : Step} (h : ProvisionPass config ws step t r) {x : Answered} (hx : x ∈ t)
    (hk : x.announces key uid = true) : step = .create ∧ r = .ok .success ∧ ws.metadata.name = some key ∧
      ws.metadata.uid = uid ∧ ∃ t₁ t₂, t = t₁ ++ (t₂ ++ [⟨.publish (createdEvent ws), ()⟩]) ∧
      Provisions config ws t₁ (.ok .complete) ∧ Reports ws.name true (some .ready) t₂ (.ok ()) := by
  -- neither the provisioning nor the report announces anything
  have quiet : ∀ {a b : Trace} {o : Except Error Outcome} {mark : Bool} {c : Option Condition} {y : Except Error Unit},
      Provisions config ws a o → Reports ws.name mark c b y → x ∉ a ++ b := by
    intro a b o mark c y hp hr hm
    rcases List.mem_append.1 hm with hm | hm
    · exact Bool.false_ne_true ((hp.about.not_announces (by decide) hm).symm.trans hk)
    · exact Bool.false_ne_true ((hr.about.not_announces (by decide) hm).symm.trans hk)
  cases h with
  | failed hp => exact absurd ((hp.about.not_announces (by decide) hx).symm.trans hk) Bool.false_ne_true
  | created hp hr => exact absurd hx (quiet hp hr)
  | awaiting hp hr => exact absurd hx (quiet hp hr)
  | unmarked hp hr => exact absurd hx (quiet hp hr)
  | @complete t₁ t₂ hp hr =>
    rw [← List.append_assoc] at hx
    have hx := (List.mem_append.1 hx).resolve_left (quiet hp hr)
    by_cases hs : step = .create
    · rw [if_pos hs] at hx ⊢
      cases List.mem_singleton.1 hx
      obtain ⟨-, hname, huid⟩ := of_decide_eq_true hk
      refine ⟨hs, rfl, hname, huid, t₁, t₂, rfl, hp, ?_⟩
      rwa [decide_eq_true hs] at hr
    · rw [if_neg hs] at hx
      cases hx

/-- A pass that announces a new workspace has found everything in order and has put the mark on it; the
announcement is its last call. -/
theorem PassTrace.announces (h : PassTrace config name t r) {x : Answered} (hx : x ∈ t)
    (hk : x.announces key uid = true) : ∃ ws t₁ t₂, ws.isCreated = false ∧ ws.metadata.name = some key ∧
      ws.metadata.uid = uid ∧
      t = ⟨.workspace name, .ok (some ws)⟩ :: (t₁ ++ (t₂ ++ [⟨.publish (createdEvent ws), ()⟩])) ∧
      Provisions config ws t₁ (.ok .complete) ∧ Reports ws.name true (some .ready) t₂ (.ok ()) := by
  obtain ⟨z, rfl⟩ | ⟨ws, step, u, v, hs, hstep, hv, rfl⟩ := h.steps
  · cases List.mem_singleton.1 hx
    cases hk
  have hreport : x ∉ v := fun hm => Bool.false_ne_true ((hv.about.not_announces (by decide) hm).symm.trans hk)
  have hu : x ∈ u := by
    rcases List.mem_cons.1 hx with rfl | hx
    · cases hk
    · exact (List.mem_append.1 hx).resolve_right hreport
  cases hstep with
  | created h =>
    obtain ⟨-, rfl, hname, huid, t₁, t₂, rfl, hp, hr⟩ := h.announces hu hk
    -- a pass that ends well reports no failure
    cases hv
    exact ⟨ws, t₁, t₂, ((select_iff _).1 hs).2.1, hname, huid, by rw [List.append_nil], hp, hr⟩
  | updated h => cases (h.announces hu hk).1
  | guarded | abandoned => cases hu
  | attached | undeleted =>
    cases List.mem_singleton.1 hu
    cases hk
  | deleted =>
    simp only [List.mem_cons, List.not_mem_nil, or_false] at hu
    rcases hu with rfl | rfl | rfl <;> cases hk

/-- A pass of which a write of a status failed announces nothing. -/
theorem PassTrace.silent (h : PassTrace config name t r) {e : Error} (he : ⟨.patchStatus n v s, .error e⟩ ∈ t)
    {x : Answered} (hx : x ∈ t) : x.announces key uid = false := by
  refine Bool.eq_false_iff.2 fun hk => ?_
  obtain ⟨ws, t₁, t₂, -, -, -, rfl, hp, hr⟩ := h.announces hx hk
  have hprovision : ⟨.patchStatus n v s, .error e⟩ ∉ t₁ := hp.about.not_mem (by simp [Call.topic])
  have hreport : ⟨.patchStatus n v s, .error e⟩ ∈ t₂ := by simpa [hprovision] using he
  cases hr with
  | gone | unchanged | written => simp at hreport

end Tenancy.Operator
