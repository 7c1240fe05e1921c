/-
The mark of a workspace and its announcement. Passes may fail at any call, and others may edit, overtake,
delete and replace workspaces; of the one object that is followed they leave the mark alone. Then the mark is
never taken back, only a pass that has found everything in order sets it, and it is announced at most once
(`creation_sound`). What carries this is that the write of a status is made of a reading just before it: an
object that is there to be written was there to be read, with the mark it has.
-/
import Tenancy.Proofs.Run.Reports
import Tenancy.Proofs.Tenant.Plan
import Tenancy.Proofs.Workspace.Status

namespace Tenancy.Simulation

open Operator Tenant

variable {others : World → World → Prop} {config : Config} {name : String} {uid : Option String}
  {w m w' : World} {t t₁ t₂ : Trace} {ws : Workspace}

/-! ## One object -/

/-- The workspace stored under `name`, if it is the one with the given uid. -/
def World.object? (w : World) (name : String) (uid : Option String) : Option Workspace :=
  (w.workspace? name).filter (·.metadata.uid = uid)

/-- The object is marked as created, if it is there. -/
def Marked (name : String) (uid : Option String) (w : World) : Prop :=
  ∀ ws, w.object? name uid = some ws → ws.isCreated = true

theorem object?_eq_some :
    w.object? name uid = some ws ↔ w.workspace? name = some ws ∧ ws.metadata.uid = uid := by
  unfold World.object?
  rw [Option.filter_eq_some_iff]
  simp

/-! ## What others may do -/

/-- Others may do anything with workspaces but bring the object back, change its mark, or store one under a name
that it does not have. -/
structure Elsewhere (name : String) (uid : Option String) (w m : World) : Prop where
  object : ∀ ws, m.object? name uid = some ws →
    ∃ old, w.object? name uid = some old ∧ ws.isCreated = old.isCreated
  named : Named w → Named m

/-- Others take no model away, and do not make a runtime lie. -/
structure Sparing (w m : World) : Prop where
  models : ∀ tenant, Grows tenant w m
  honest : Honest w → Honest m

theorem Elsewhere.refl (name : String) (uid : Option String) (w : World) : Elsewhere name uid w w :=
  ⟨fun ws h => ⟨ws, h, rfl⟩, id⟩

theorem Elsewhere.trans {n : World} (h : Elsewhere name uid w m) (h' : Elsewhere name uid m n) :
    Elsewhere name uid w n := by
  refine ⟨fun ws hws => ?_, h'.named ∘ h.named⟩
  obtain ⟨mid, hmid, he'⟩ := h'.object ws hws
  obtain ⟨old, hold, he⟩ := h.object mid hmid
  exact ⟨old, hold, he'.trans he⟩

theorem Elsewhere.marked (h : Elsewhere name uid w m) (hw : Marked name uid w) : Marked name uid m := by
  intro ws hws
  obtain ⟨old, hold, he⟩ := h.object ws hws
  rw [he]
  exact hw old hold

/-- What is there after a call was there before it, with the mark that it has now unless the call wrote its
status. -/
theorem object_handle (c : Call) (h : (handle c w).2.object? name uid = some ws) :
    ∃ old, w.object? name uid = some old ∧ (ws.isCreated = old.isCreated ∨
      ∃ version status, c = .patchStatus name version status ∧ ws.isCreated = status.isCreated) := by
  obtain ⟨hws, huid⟩ := object?_eq_some.1 h
  have hrw := workspace_handle c w name
  rw [hws] at hrw
  obtain ⟨old, hold, hc⟩ := hrw.continues
  refine ⟨old, object?_eq_some.2 ⟨hold, hc.uid.symm.trans huid⟩, ?_⟩
  rw [hold] at hrw
  generalize hx : (⟨c, (handle c w).1⟩ : Answered) = x at hrw
  cases hrw with
  | kept | guarded => exact .inl rfl
  | reported => exact .inr ⟨_, _, congrArg Answered.call hx, rfl⟩

/-- A call that writes no status leaves the mark alone, as others do. -/
theorem elsewhere_handle (c : Call) (hc : c.topic ≠ .status) (w : World) :
    Elsewhere name uid w (handle c w).2 := by
  refine ⟨fun ws hws => ?_, fun hw => hw.handle c⟩
  obtain ⟨old, hold, he | ⟨version, status, rfl, -⟩⟩ := object_handle c hws
  · exact ⟨old, hold, he⟩
  · exact absurd rfl hc

/-- So does a trace without writes of a status. -/
theorem Plays.elsewhere (h : Plays (Elsewhere name uid) w t w') (ht : ∀ x ∈ t, x.call.topic ≠ .status) :
    Elsewhere name uid w w' := by
  apply h.keeps (P := Elsewhere name uid w) (fun n m ho hn => hn.trans ho) _ (.refl name uid w)
  intro x hx m _ hm
  exact hm.trans (elsewhere_handle x.call (ht x hx) m)

theorem Plays.named (h : Plays (Elsewhere name uid) w t w') (hw : Named w) : Named w' :=
  h.keeps (fun _ _ ho => ho.named) (fun x _ _ _ hm => hm.handle x.call) hw

/-! ## Everything in order -/

/-- A pass that starts in `w` has found everything in order: the settings could be used, each child of the plan
was there, the runtime was ready, and the work on the models ended well, with all of them there if no
runtime lies and others spare them. -/
structure InOrder (config : Config) (ws : Workspace) (w : World) (t : Trace) : Prop where
  children : ∃ x settings, ⟨.configMap config.settingsNamespace config.settingsConfigMap, x⟩ ∈ t ∧
    settingsOf config x = .ok settings ∧
    ∀ child, .ensure child ∈ plan ws settings config → ⟨.childExists child, .ok true⟩ ∈ t
  models : ∃ t₁ n t₂ t₃,
    t = t₁ ++ ⟨.readyReplicas ws.workspaceName (runtimeName ws.workspaceName), .ok n⟩ ::
      ⟨.openRuntime ws.workspaceName, ()⟩ :: (t₂ ++ t₃) ∧ 1 ≤ n ∧
    (syncModels ws.workspaceName ws.spec.promptPatterns config.pullLimit ws.spec.models).run.Yields t₂ (.ok ()) ∧
    (Honest w → ∀ m, Plays Sparing w
        (t₁ ++ ⟨.readyReplicas ws.workspaceName (runtimeName ws.workspaceName), .ok n⟩ ::
          ⟨.openRuntime ws.workspaceName, ()⟩ :: t₂) m →
      ∀ model ∈ ws.spec.models, Holds m ws.workspaceName model ∧
        ∀ pattern ∈ ws.spec.promptPatterns, (Model.variant? model pattern).isSome = true →
          Holds m ws.workspaceName (Model.variantName model pattern))

/-- A provisioning that ends complete has found everything in order, whatever stands around it. -/
theorem Provisions.inOrder (h : Provisions config ws t (.ok .complete)) (before after : Trace) :
    InOrder config ws w (before ++ (t ++ after)) := by
  have hgrows : ∀ tenant w m, Sparing w m → Grows tenant w m := fun tenant _ _ ho => ho.models tenant
  have hhonest : ∀ w m, Sparing w m → Honest w → Honest m := fun _ _ ho => ho.honest
  obtain ⟨x, settings, t, hx, rfl, hc⟩ := Provisions.cleared h
  have hgate : .readiness ∈ plan ws settings config := by simp [plan_eq]
  constructor
  · refine ⟨x, settings, by simp, hx, fun child hchild => ?_⟩
    have := hc.present hchild
    simp [this]
  · obtain ⟨t₁, n, t₂, t₃, rfl, hn, hs⟩ := hc.synced hgate
    refine ⟨before ++ ⟨.configMap config.settingsNamespace config.settingsConfigMap, x⟩ :: t₁, n, t₂, t₃ ++ after,
      by simp, hn, hs, ?_⟩
    intro hw m hp model hmodel
    obtain ⟨a, hbefore, hp⟩ := (plays_append ..).1 hp
    obtain ⟨b, hready, hsync⟩ := (plays_append a m [_, _] t₂).1 hp
    have hb := hready.honest hhonest (hbefore.honest hhonest hw)
    have hall := Syncs.holds (hgrows ws.workspaceName) hhonest (syncModels_yields hs) hsync hb
    refine ⟨hall (.base model) (mem_targets_base hmodel), fun pattern hp hv => ?_⟩
    obtain ⟨file, hfile⟩ := Option.isSome_iff_exists.1 hv
    exact hall (.variant _ file) (mem_targets_variant hmodel hp hfile)

/-- A write that marks the workspace or calls it ready is made when everything is in order. -/
theorem Informed.inOrder {key n : String} {s : Status} (h : Informed config key t n s) :
    ∃ t₀ read latest now mark c, t = t₀ ++ [⟨.workspace read, .ok (some latest)⟩, ⟨.now, now⟩] ∧
      n = latest.name ∧ s = Reported latest now mark (some c) ∧ c.type = Condition.readyType ∧
      (mark = true ∨ c.status = .yes → ∃ ws, t.snapshot? = some ws ∧
        ∀ w, InOrder config ws w t) := by
  obtain ⟨t₀, read, latest, now, mark, c, rfl, hn, hs, hc, hcomplete⟩ := h
  refine ⟨t₀, read, latest, now, mark, c, rfl, hn, hs, hc, fun hready => ?_⟩
  obtain ⟨ws, t', rfl, hp⟩ := hcomplete hready
  refine ⟨ws, rfl, fun w => ?_⟩
  have horder : InOrder config ws w ([⟨.workspace key, .ok (some ws)⟩] ++
      (t' ++ [⟨.workspace read, .ok (some latest)⟩, ⟨.now, now⟩])) := Provisions.inOrder hp ..
  simpa using horder

/-! ## Writes of a status -/

/-- What is written is made of a reading that had the mark which the object has now. -/
theorem Plays.based {key now : String} {latest : Workspace} {n : World} (hw : Named w)
    (hp : Plays (Elsewhere name uid) w (t ++ [⟨.workspace key, .ok (some latest)⟩, ⟨.now, now⟩]) n)
    (ho : Elsewhere name uid n m) (hm : m.object? name uid = some ws) (hn : latest.name = name) :
    latest.isCreated = ws.isCreated := by
  obtain ⟨a, hbefore, b, hab, hread, hp⟩ := (plays_append ..).1 hp
  have hstored := workspace_answer hread
  have hkey : key = name := by
    rw [← hn, Workspace.name_of_some (hab.named (hbefore.named hw) key latest hstored)]
  -- from the reading to the write nobody wrote a status
  have hsince : Elsewhere name uid b m := by
    apply (elsewhere_handle (.workspace key) nofun b).trans
    apply Elsewhere.trans _ ho
    exact Plays.elsewhere hp (by simp [Call.topic])
  obtain ⟨old, hold, he⟩ := hsince.object ws hm
  have hold := (object?_eq_some.1 hold).1
  rw [← hkey, hstored] at hold
  rw [he, Option.some.inj hold]

/-- What a call of a pass makes of the mark: it leaves it alone, or sets it when everything is in order. -/
theorem Leg.Happens.marks {p : Leg} (h : p.Happens (Elsewhere name uid)) (hstart : Named p.start) {x : Answered}
    {n : World} (ht : p.trace = t₁ ++ x :: t₂) (hp : Plays (Elsewhere name uid) p.start t₁ n)
    (ho : Elsewhere name uid n m) (hx : (handle x.call m).2.object? name uid = some ws) :
    ∃ old, m.object? name uid = some old ∧ (ws.isCreated = old.isCreated ∨ ws.isCreated = true ∧
      ∃ ws, p.trace.snapshot? = some ws ∧ InOrder p.config ws p.start t₁) := by
  obtain ⟨old, hold, he⟩ := object_handle x.call hx
  refine ⟨old, hold, ?_⟩
  rcases he with he | ⟨version, status, hc, he⟩
  · exact .inl he
  · obtain ⟨c, y⟩ := x
    obtain rfl : c = _ := hc
    obtain ⟨t₀, read, latest, now, mark, c, rfl, hn, rfl, -, hready⟩ := Informed.inOrder (h.trace.informed ht)
    rw [isCreated_reported, Plays.based hstart hp ho hold hn.symm] at he
    cases mark with
    | false => exact .inl (by simpa using he)
    | true =>
      obtain ⟨ws', hsnap, horder⟩ := hready (.inl rfl)
      exact .inr ⟨by simpa using he, ws', ht ▸ Trace.snapshot?_append hsnap _, horder p.start⟩

theorem Leg.Happens.keeps_marked {p : Leg} (h : p.Happens (Elsewhere name uid)) (hstart : Named p.start) {n : World}
    (ht : p.trace = t₁ ++ t₂) (hp : Plays (Elsewhere name uid) p.start t₁ n) (hm : Marked name uid p.start) :
    Marked name uid n := by
  refine hp.steps (fun _ _ ho => ho.marked) (fun u x u' a b hu ha hb _ hmarked ws hws => ?_) hm
  rw [hu, List.append_assoc, List.cons_append] at ht
  obtain ⟨old, hold, he | ⟨hc, -⟩⟩ := h.marks hstart ht ha hb hws
  · rw [he]
    exact hmarked old hold
  · exact hc

/-! ## Announcements -/

/-- A report with the mark that ends well leaves the object marked, or gone. -/
theorem Reports.marked {c : Condition} (h : Reports name true (some c) t (.ok ()))
    (hp : Plays (Elsewhere name uid) w t w') (hw : Named w) : Marked name uid w' := by
  -- calls that write no status keep it so
  have later : ∀ {t : Trace} {w w' : World}, Plays (Elsewhere name uid) w t w' →
      (∀ x ∈ t, x.call.topic ≠ .status) → Marked name uid w → Marked name uid w' :=
    fun hp ht => (hp.elsewhere ht).marked
  cases h with
  | gone =>
    obtain ⟨m, ho, hx, rfl⟩ := hp
    refine (elsewhere_handle (.workspace name) nofun m).marked fun ws hws => ?_
    have hread := workspace_answer hx
    rw [(object?_eq_some.1 hws).1] at hread
    cases hread
  | @unchanged latest now hs =>
    obtain ⟨m, ho, hx, hp⟩ := hp
    have hcreated : latest.isCreated = true := by
      rw [← latest.isCreated_getD]
      exact (Status.sameIgnoringTime_merge_iff.1 hs).1 rfl
    refine later hp (by simp [Call.topic]) ((elsewhere_handle (.workspace name) nofun m).marked fun ws hws => ?_)
    have hread := workspace_answer hx
    rw [(object?_eq_some.1 hws).1] at hread
    cases hread
    exact hcreated
  | @written latest now _ hs =>
    obtain ⟨m, ho, hx, n, hn, -, k, hk, hy, rfl⟩ := hp
    have hname : latest.name = name := Workspace.name_of_some (ho.named hw name latest (workspace_answer hx))
    intro ws hws
    have hrw := workspace_handle (.patchStatus latest.name latest.metadata.resourceVersion
      (Reported latest now true (some c))) k name
    change Rewrites name ⟨_, (handle _ k).1⟩ _ ((handle _ k).2.workspace? name) at hrw
    rw [(object?_eq_some.1 hws).1, hy, hname] at hrw
    generalize k.workspace? name = before at hrw
    cases hrw with
    | kept _ _ _ hstatus => exact absurd rfl (hstatus _ _)
    | reported =>
      show (Reported latest now true (some c)).isCreated = true
      rw [isCreated_reported, Bool.or_true]

/-- A pass that announces the object found it without the mark, does so once, as its last call and after its
report ended well, and leaves it marked or gone. -/
theorem Leg.Happens.announced {p : Leg} (h : p.Happens (Elsewhere name uid)) (hstart : Named p.start) {x : Answered}
    (hx : x ∈ p.trace) (hk : x.announces name uid = true) :
    ¬Marked name uid p.start ∧ Marked name uid p.stop ∧
      List.countP (Answered.announces name uid) p.trace = 1 ∧ ∃ ws t₁ t₂,
        p.trace = t₁ ++ (t₂ ++ [⟨.publish (createdEvent ws), ()⟩]) ∧
        Reports ws.name true (some .ready) t₂ (.ok ()) := by
  obtain ⟨ws, t₁, t₂, hcreated, hname, huid, ht, hp, hr⟩ := h.trace.announces hx hk
  have hplays := h.plays
  rw [ht] at hplays
  obtain ⟨m, ho, hread, hplays⟩ := hplays
  obtain ⟨a, hprovision, hplays⟩ := (plays_append ..).1 hplays
  obtain ⟨b, hreport, hpublish⟩ := (plays_append ..).1 hplays
  have hm := ho.named hstart
  refine ⟨fun hmarked => ?_, ?_, ?_, ws, ⟨.workspace p.name, .ok (some ws)⟩ :: t₁, t₂, ht, hr⟩
  · have hstored := workspace_answer hread
    have hself : p.name = name := Option.some.inj ((hm _ _ hstored).symm.trans hname)
    have hthere := ho.marked hmarked ws (object?_eq_some.2 ⟨hself ▸ hstored, huid⟩)
    rw [hcreated] at hthere
    cases hthere
  · have ha := hprovision.named (hm.handle _)
    rw [Workspace.name_of_some hname] at hr
    exact (hpublish.elsewhere (by simp [Call.topic])).marked (Reports.marked hr hreport ha)
  · have quiet : ∀ {u : Trace} {topics : List Topic}, u.About topics → .events ∉ topics →
        List.countP (Answered.announces name uid) u = 0 := by
      intro u topics hu hevents
      rw [List.countP_eq_zero]
      intro y hy
      rw [hu.not_announces hevents hy]
      decide
    have hlast : (⟨.publish (createdEvent ws), ()⟩ : Answered).announces name uid = true :=
      decide_eq_true ⟨rfl, hname, huid⟩
    rw [ht, List.countP_cons_of_neg (by exact Bool.false_ne_true), List.countP_append, List.countP_append,
      quiet hp.about (by decide), quiet hr.about (by decide), List.countP_cons_of_pos hlast, List.countP_nil]

variable {ps : List Leg}

theorem Run.named (h : Run (Elsewhere name uid) (Elsewhere name uid) w ps w') (hw : Named w) : Named w' :=
  h.keeps (fun _ _ ho => ho.named) (fun _ _ hp => hp.plays.named) hw

/-- A run announces the object once at most, and not at all if it was marked before. -/
theorem Run.announced (h : Run (Elsewhere name uid) (Elsewhere name uid) w ps w') (hw : Named w) :
    (Marked name uid w → List.countP (Answered.announces name uid) (calls ps) = 0) ∧
      List.countP (Answered.announces name uid) (calls ps) ≤ 1 := by
  induction h with
  | rest => simp [calls]
  | @pass w w' p ps hb hp _ ih =>
    have hstart := hb.named hw
    obtain ⟨hnone, hone⟩ := ih (hp.plays.named hstart)
    rw [calls_cons, List.countP_append]
    by_cases hex : ∃ x ∈ p.trace, x.announces name uid = true
    · -- it is marked when the pass ends, so no later pass announces it
      obtain ⟨x, hx, hk⟩ := hex
      obtain ⟨hnot, hstop, hcount, -⟩ := hp.announced hstart hx hk
      rw [hcount, hnone hstop]
      exact ⟨fun hmarked => absurd (hb.marked hmarked) hnot, le_refl 1⟩
    · have hcount : List.countP (Answered.announces name uid) p.trace = 0 := by
        rw [List.countP_eq_zero]
        exact fun x hx hk => hex ⟨x, hx, hk⟩
      rw [hcount, Nat.zero_add]
      refine ⟨fun hmarked => hnone ?_, hone⟩
      exact hp.keeps_marked hstart (List.append_nil _).symm hp.plays (hb.marked hmarked)

/-! ## What it comes to -/

/-- The mark and the announcement are sound, and never taken back. Of one object, in a run in which others do not
touch its mark: once marked it stays so, at every call of every pass; a call that sets the mark, or calls a
workspace ready, comes when its pass has found everything in order, with all models there if others have spared
them; and it is announced once at most, by a pass whose report with the mark ended well, so that it is marked or
gone when the pass ends. A pass of which the write of a status failed announces nothing. -/
theorem creation_sound (h : Run (Elsewhere name uid) (Elsewhere name uid) w ps w') (hw : Named w) :
    (Marked name uid w → Marked name uid w') ∧
    (∀ p ∈ ps, ∀ t₁ x t₂ n m, p.trace = t₁ ++ x :: t₂ → Plays (Elsewhere name uid) p.start t₁ n →
      Elsewhere name uid n m →
      (∀ ws ws', m.object? name uid = some ws → (handle x.call m).2.object? name uid = some ws' →
        ws.isCreated = true → ws'.isCreated = true) ∧
      ((∃ ws ws', m.object? name uid = some ws ∧ (handle x.call m).2.object? name uid = some ws' ∧
          ws.isCreated = false ∧ ws'.isCreated = true) ∨
        (∃ n v s c, x.call = .patchStatus n v s ∧
          s.conditions.find? (·.type = Condition.readyType) = some c ∧ c.status = .yes) →
        ∃ ws, p.trace.snapshot? = some ws ∧ InOrder p.config ws p.start t₁)) ∧
    List.countP (Answered.announces name uid) (calls ps) ≤ 1 ∧
    (∀ p ∈ ps, ∀ x ∈ p.trace, x.announces name uid = true → Marked name uid p.stop ∧ ∃ ws t₁ t₂,
      p.trace = t₁ ++ (t₂ ++ [⟨.publish (createdEvent ws), ()⟩]) ∧
      (report ws.name true (some .ready)).run.Yields t₂ (.ok ())) ∧
    (∀ p ∈ ps, ∀ n v s e, ⟨.patchStatus n v s, .error e⟩ ∈ p.trace → ∀ x ∈ p.trace,
      x.announces name uid = false) := by
  have started : ∀ p ∈ ps, p.Happens (Elsewhere name uid) ∧ Named p.start := by
    intro p hp
    obtain ⟨hhap, ps₁, ps₂, -, hr, -⟩ := h.upto (Elsewhere.refl name uid) hp
    exact ⟨hhap, hr.named hw⟩
  refine ⟨?_, ?_, (h.announced hw).2, ?_, ?_⟩
  · intro hmarked
    have hkeep := h.keeps (P := fun w => Named w ∧ Marked name uid w)
      (fun _ _ ho hm => ⟨ho.named hm.1, ho.marked hm.2⟩)
      (fun p _ hp hm => ⟨hp.plays.named hm.1, hp.keeps_marked hm.1 (List.append_nil _).symm hp.plays hm.2⟩)
      ⟨hw, hmarked⟩
    exact hkeep.2
  · intro p hp t₁ x t₂ n m ht hplays ho
    obtain ⟨hhap, hstart⟩ := started p hp
    refine ⟨fun ws ws' hws hws' hc => ?_, ?_⟩
    · obtain ⟨old, hold, he | ⟨he, -⟩⟩ := hhap.marks hstart ht hplays ho hws'
      · rw [he, Option.some.inj (hold.symm.trans hws)]
        exact hc
      · exact he
    · rintro (⟨ws, ws', hws, hws', hc, hc'⟩ | ⟨k, v, s, c, hcall, hfind, hyes⟩)
      · obtain ⟨old, hold, he | ⟨-, horder⟩⟩ := hhap.marks hstart ht hplays ho hws'
        · rw [hc', Option.some.inj (hold.symm.trans hws), hc] at he
          cases he
        · exact horder
      · obtain ⟨call, y⟩ := x
        obtain rfl : call = _ := hcall
        obtain ⟨t₀, read, latest, now, mark, c', rfl, -, rfl, htype, hready⟩ :=
          Informed.inOrder (hhap.trace.informed ht)
        rw [← htype] at hfind
        obtain ⟨ws, hsnap, horder⟩ := hready (.inr ((status_reported hfind).symm.trans hyes))
        exact ⟨ws, ht ▸ Trace.snapshot?_append hsnap _, horder p.start⟩
  · intro p hp x hx hk
    obtain ⟨hhap, hstart⟩ := started p hp
    obtain ⟨-, hstop, -, ws, t₁, t₂, ht, hr⟩ := hhap.announced hstart hx hk
    exact ⟨hstop, ws, t₁, t₂, ht, hr.yields⟩
  · intro p hp n v s e he x hx
    exact (started p hp).1.trace.silent he hx

/-- In fourteen passes a new workspace is provisioned and announced, once. -/
theorem creation_sound_newcomer :
    List.countP (Answered.announces "team" (some "u1")) (calls (passes {} "team" 14 (outpost newcomer)).1) = 1 ∧
      ∀ p ∈ (passes {} "team" 14 (outpost newcomer)).1, ∀ x ∈ p.trace,
        x.announces "team" (some "u1") = true → Marked "team" (some "u1") p.stop := by
  have hrun := run_passes (Elsewhere.refl "team" (some "u1")) (Elsewhere.refl "team" (some "u1")) {} "team" 14
    (outpost newcomer)
  obtain ⟨-, -, hone, hannounced, -⟩ := creation_sound hrun (named_outpost rfl)
  exact ⟨le_antisymm hone (by decide +kernel), fun p hp x hx hk => (hannounced p hp x hx hk).1⟩

end Tenancy.Simulation
