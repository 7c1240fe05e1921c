/-
What passes write on workspaces while others write on them too. A write rests on a reading of the same pass and
asks for the version that was read (`PassTrace.founded`), so it is done only on the object that was read, and then
it changes the guard alone, or the first condition that says whether the workspace is ready and the mark; a write
that comes too late changes nothing and ends what it belongs to (`no_lost_update`).
-/
import Tenancy.Proofs.Run.Reports
import Tenancy.Proofs.Run.Version
import Tenancy.Proofs.Workspace.Patch

namespace Tenancy

/-! ## Conditions -/

/-- Two lists of conditions are the same but for the first of a type, which may be new, and is then the last. -/
inductive Condition.Swaps (type : String) : List Condition → List Condition → Prop
  | appended {l : List Condition} {c : Condition} : (∀ old ∈ l, old.type ≠ type) → c.type = type →
      Swaps type l (l ++ [c])
  | replaced {a b : List Condition} {old c : Condition} : (∀ o ∈ a, o.type ≠ type) → old.type = type → c.type = type →
      Swaps type (a ++ old :: b) (a ++ c :: b)

theorem Condition.swaps_upsert (now : String) (c : Condition) (l : List Condition) :
    Condition.Swaps c.type l (c.upsert now l) := by
  induction l with
  | nil => exact .appended (List.forall_mem_nil _) rfl
  | cons old rest ih =>
    unfold upsert
    split
    next h => exact .replaced (a := []) (List.forall_mem_nil _) h rfl
    next h =>
      generalize upsert now c rest = rest' at ih
      cases ih with
      | appended hl hc => exact .appended (List.forall_mem_cons.2 ⟨h, hl⟩) hc
      | replaced ha ho hc => exact .replaced (a := old :: _) (List.forall_mem_cons.2 ⟨h, ha⟩) ho hc

/-- A status amended by a report: the mark is not taken back, and of the conditions only the first that says
whether the workspace is ready is another. -/
structure Status.Amends (old new : Status) : Prop where
  created : old.isCreated = true → new.isCreated = true
  conditions : Condition.Swaps Condition.readyType old.conditions new.conditions

namespace Operator

open Lifecycle

variable {config : Config} {name key : String} {t t₁ t₂ : Trace} {r : Except Error Requeue} {x : Answered}
  {ws : Workspace}

theorem amends_reported {latest : Workspace} {now : String} {mark : Bool} {c : Condition}
    (hc : c.type = Condition.readyType) : (latest.status.getD {}).Amends (Reported latest now mark (some c)) := by
  refine ⟨fun h => ?_, ?_⟩
  · show (_ || mark) = true
    rw [h, Bool.true_or]
  · rw [← hc]
    exact Condition.swaps_upsert now { c with observedGeneration := latest.metadata.generation } _

/-! ## What a write rests on -/

/-- The call has been a write on the workspace `key`, and it was done. -/
def Answered.Revised (key : String) (x : Answered) : Prop :=
  ∃ version, x.call.revises? = some (key, version) ∧ x.refusal? = none

/-- A write on a workspace and what the pass has called before it. -/
inductive Founded (name : String) : Trace → Call → Prop
  | attach {ws : Workspace} : ws.hasFinalizer = false → Founded name [⟨.workspace name, .ok (some ws)⟩]
      (.setFinalizers ws.name ws.metadata.resourceVersion (ws.finalizers ++ [Workspace.finalizer]))
  | release {ws : Workspace} : ws.pendingDeletion = true → Founded name [⟨.workspace name, .ok (some ws)⟩,
      ⟨.deleteNamespace ws.workspaceName, .ok ()⟩, ⟨.publish (deletingEvent ws), ()⟩]
      (.setFinalizers ws.name ws.metadata.resourceVersion (ws.finalizers.filter (· ≠ Workspace.finalizer)))
  | report {t : Trace} {key : String} {latest : Workspace} {now : String} {mark : Bool} {c : Condition} :
      (key = name ∨ ∃ ws, ⟨.workspace name, .ok (some ws)⟩ ∈ t ∧ key = ws.name) → c.type = Condition.readyType →
      Founded name (t ++ [⟨.workspace key, .ok (some latest)⟩, ⟨.now, now⟩])
        (.patchStatus latest.name latest.metadata.resourceVersion (Reported latest now mark (some c)))

/-- A report reads under the name of the pass, or that of its snapshot. -/
theorem Founded.of_pass {y : Except Error (Option Workspace)} {now n : String} {v : Option String}
    {s : Status} (h : Founded name (t ++ [⟨.workspace key, y⟩, ⟨.now, now⟩]) (.patchStatus n v s)) :
    key = name ∨ ∃ ws, ⟨.workspace name, .ok (some ws)⟩ ∈ t ∧ key = ws.name := by
  generalize ht : t ++ [⟨.workspace key, y⟩, ⟨.now, now⟩] = t' at h
  cases h with
  | report hkey hc =>
    obtain ⟨rfl, hlast⟩ := List.append_inj' ht rfl
    cases hlast
    exact hkey

/-- What becomes of a pass after a write that failed with `e`. If the step made it, the step has failed and only
its failure is reported; if the report of a failure made it, nothing more is called. -/
inductive Aftermath (name : String) (e : Error) (t₁ : Trace) (x : Answered) (t₂ : Trace) :
    Except Error Requeue → Prop
  | step : FailureReports name e t₂ → Aftermath name e t₁ x t₂ (.error e)
  | report {e' : Error} {u v : Trace} : t₁ = u ++ v → FailureReports name e' (v ++ [x]) → t₂ = [] →
      Aftermath name e t₁ x t₂ (.error e')

theorem Call.topic_of_revises {c : Call} (h : c.revises?.isSome = true) : c.topic = .guards ∨ c.topic = .status := by
  cases c <;> first | exact .inl rfl | exact .inr rfl | cases h

theorem Call.apart_of_revises {c : Call} (h : c.revises? = none) : c.topic ≠ .guards ∧ c.topic ≠ .status := by
  cases c with
  | setFinalizers | patchStatus => cases h
  | _ => exact ⟨nofun, nofun⟩

/-- A write on a workspace is not in a trace about other things. -/
theorem Trace.About.not_revises {topics : List Topic} (h : t.About topics) (hg : .guards ∉ topics)
    (hs : .status ∉ topics) (hx : x.call.revises?.isSome = true) : x ∉ t := fun hm =>
  (Call.topic_of_revises hx).elim (h.ne hg x hm) (h.ne hs x hm)

/-- A report makes its only write at its end, on what it has just read. -/
theorem Reports.founded (name : String) {mark : Bool} {c : Condition} {r : Except Error Unit} (hc : c.type = Condition.readyType)
    (h : Reports key mark (some c) t r) (ht : t = t₁ ++ x :: t₂) (hx : x.call.revises?.isSome = true) :
    (∀ t₀, (key = name ∨ ∃ ws, ⟨.workspace name, .ok (some ws)⟩ ∈ t₀ ∧ key = ws.name) →
      Founded name (t₀ ++ t₁) x.call) ∧ t₂ = [] ∧ ∀ e, x.refusal? = some e → r = .error e := by
  have hm : x ∈ t := ht ▸ List.mem_append_right _ (List.mem_cons_self ..)
  have reading : ∀ y, x ≠ ⟨.workspace key, y⟩ := by rintro y rfl; cases hx
  have clock : ∀ now, x ≠ ⟨.now, now⟩ := by rintro now rfl; cases hx
  cases h with
  | unread | gone | unchanged => simp [reading, clock] at hm
  | @written latest now y hs =>
    have hlast : x = ⟨.patchStatus latest.name latest.metadata.resourceVersion (Reported latest now mark (some c)), r⟩ := by
      simpa [reading, clock] using hm
    subst hlast
    have hbefore : ⟨.patchStatus latest.name latest.metadata.resourceVersion (Reported latest now mark (some c)), r⟩ ∉
      ([⟨.workspace key, .ok (some latest)⟩, ⟨.now, now⟩] : Trace) := by simp
    change [_, _] ++ _ :: [] = _ at ht
    obtain ⟨rfl, -, rfl⟩ := (List.append_cons_inj_of_notMem hbefore List.not_mem_nil).1 ht
    refine ⟨fun t₀ hkey => .report hkey hc, rfl, fun e he => ?_⟩
    cases r with
    | ok u => cases he
    | error e' => cases he; rfl

/-- The only write of a pass that provisions is that of its report; if it fails, it is the last call. -/
theorem ProvisionPass.founded (name : String) {step : Step} (h : ProvisionPass config ws step t r) (ht : t = t₁ ++ x :: t₂)
    (hx : x.call.revises?.isSome = true) :
    (∀ t₀, ⟨.workspace name, .ok (some ws)⟩ ∈ t₀ → Founded name (t₀ ++ t₁) x.call) ∧
      ∀ e, x.refusal? = some e → r = .error e ∧ t₂ = [] := by
  have hm : x ∈ t := ht ▸ List.mem_append_right _ (List.mem_cons_self ..)
  have within : ∀ {a b : Trace} {o : Outcome} {mark : Bool} {c : Condition} {y : Except Error Unit} {d : Trace},
      Provisions config ws a (.ok o) → Reports ws.name mark (some c) b y → c.type = Condition.readyType →
      d.About [.events] → a ++ (b ++ d) = t₁ ++ x :: t₂ →
      (∀ t₀, ⟨.workspace name, .ok (some ws)⟩ ∈ t₀ → Founded name (t₀ ++ t₁) x.call) ∧ t₂ = d ∧
        ∀ e, x.refusal? = some e → y = .error e := by
    intro a b o mark c y d hp hr hc hd ht
    have hmem : ∀ {u u' : Trace}, x ∈ u ++ x :: u' := List.mem_append_right _ (List.mem_cons_self ..)
    rcases Trace.split ht with ⟨u, rfl, -⟩ | ⟨u, rfl, hb⟩
    · exact absurd hmem (hp.about.not_revises (by decide) (by decide) hx)
    · rcases Trace.split hb with ⟨u', rfl, rfl⟩ | ⟨u', rfl, rfl⟩
      · obtain ⟨hf, rfl, he⟩ := hr.founded name hc rfl hx
        refine ⟨fun t₀ ht₀ => ?_, rfl, he⟩
        rw [← List.append_assoc]
        exact hf _ (.inr ⟨ws, List.mem_append_left _ ht₀, rfl⟩)
      · exact absurd hmem (hd.not_revises (by decide) (by decide) hx)
  have hnone := Trace.about_nil [.events]
  cases h with
  | failed hp => exact absurd hm (hp.about.not_revises (by decide) (by decide) hx)
  | created hp hr | awaiting hp hr =>
    rw [← List.append_nil (_ ++ _), List.append_assoc] at ht
    obtain ⟨hf, rfl, he⟩ := within hp hr rfl hnone ht
    exact ⟨hf, fun e hxe => ⟨by rw [he e hxe]; rfl, rfl⟩⟩
  | unmarked hp hr =>
    rw [← List.append_nil (_ ++ _), List.append_assoc] at ht
    obtain ⟨hf, rfl, he⟩ := within hp hr rfl hnone ht
    exact ⟨hf, fun e hxe => ⟨by rw [Except.error.inj (he e hxe)], rfl⟩⟩
  | complete hp hr =>
    obtain ⟨hf, -, he⟩ := within hp hr rfl (published_about ws step) ht
    exact ⟨hf, fun e hxe => nomatch he e hxe⟩

/-- The only write of a step rests on the snapshot, or on the reading of the report; if it fails, it is the last
call, and the step fails. -/
theorem StepTrace.founded (name : String) {step : Step} (h : StepTrace config ws step t r) (hs : select (.of ws) = some step)
    (ht : t = t₁ ++ x :: t₂) (hx : x.call.revises?.isSome = true) :
    Founded name (⟨.workspace name, .ok (some ws)⟩ :: t₁) x.call ∧ ∀ e, x.refusal? = some e → r = .error e ∧ t₂ = [] := by
  have hm : x ∈ t := ht ▸ List.mem_append_right _ (List.mem_cons_self ..)
  cases h with
  | guarded | abandoned => cases hm
  | undeleted =>
    cases List.mem_singleton.1 hm
    cases hx
  | attached y hf =>
    cases List.mem_singleton.1 hm
    obtain ⟨rfl, -, rfl⟩ := (List.append_cons_inj_of_notMem List.not_mem_nil List.not_mem_nil).1 (show [] ++ _ :: [] = _ from ht)
    refine ⟨.attach hf, fun e he => ⟨?_, rfl⟩⟩
    cases y with
    | ok u => cases he
    | error e' => cases he; rfl
  | created hp | updated hp =>
    obtain ⟨hf, he⟩ := hp.founded name ht hx
    exact ⟨hf [_] (List.mem_singleton_self _), he⟩
  | deleted y =>
    have hpending := ((select_iff .delete).1 hs).2.2
    obtain rfl : x = ⟨.setFinalizers ws.name ws.metadata.resourceVersion
        (ws.finalizers.filter (· ≠ Workspace.finalizer)), y⟩ := by
      simp only [List.mem_cons, List.not_mem_nil, or_false] at hm
      rcases hm with rfl | rfl | rfl
      · cases hx
      · cases hx
      · rfl
    have hbefore : ⟨.setFinalizers ws.name ws.metadata.resourceVersion
        (ws.finalizers.filter (· ≠ Workspace.finalizer)), y⟩ ∉ ([⟨.deleteNamespace ws.workspaceName, .ok ()⟩,
          ⟨.publish (deletingEvent ws), ()⟩] : Trace) := by simp
    change [_, _] ++ _ :: [] = _ at ht
    obtain ⟨rfl, -, rfl⟩ := (List.append_cons_inj_of_notMem hbefore List.not_mem_nil).1 ht
    refine ⟨.release hpending, fun e he => ⟨?_, rfl⟩⟩
    cases y with
    | ok u => cases he
    | error e' => cases he; rfl

/-- Every write of a pass on a workspace rests on a reading, and if it fails, the pass fails. -/
theorem PassTrace.founded (h : PassTrace config name t r) (ht : t = t₁ ++ x :: t₂)
    (hx : x.call.revises?.isSome = true) :
    Founded name t₁ x.call ∧ ∀ e, x.refusal? = some e → Aftermath name e t₁ x t₂ r := by
  obtain ⟨y, rfl⟩ | ⟨ws, step, u, v, hs, hstep, hv, rfl⟩ := h.steps
  · have hm : x ∈ ([⟨.workspace name, y⟩] : Trace) := ht ▸ List.mem_append_right _ (List.mem_cons_self ..)
    cases List.mem_singleton.1 hm
    cases hx
  obtain ⟨t₁, rfl⟩ : ∃ t', t₁ = ⟨.workspace name, .ok (some ws)⟩ :: t' := by
    cases t₁ with
    | nil => cases ht; cases hx
    | cons z t₁ => exact ⟨t₁, by rw [(List.cons.inj ht).1]⟩
  rcases Trace.split (List.cons.inj ht).2 with ⟨s, hu, rfl⟩ | ⟨s, rfl, hv'⟩
  · -- the write belongs to the step
    obtain ⟨hf, he⟩ := hstep.founded name hs hu hx
    refine ⟨hf, fun e hxe => ?_⟩
    obtain ⟨rfl, rfl⟩ := he e hxe
    cases hv with
    | report hr => exact .step hr
  · -- the write is that of the report of a failure
    cases hv with
    | nothing => simp at hv'
    | report hr =>
      have hreport := hr
      cases hr with
      | silent => simp at hv'
      | made _ hr =>
        obtain ⟨hf, rfl, -⟩ := hr.founded name rfl hv' hx
        subst hv'
        exact ⟨hf (⟨.workspace name, .ok (some ws)⟩ :: u) (.inl rfl), fun e _ =>
          .report (u := ⟨.workspace name, .ok (some ws)⟩ :: u) rfl hreport rfl⟩

end Operator

/-! ## Writes in a world -/

namespace Simulation

open Operator

variable {w m n w' : World} {k v key name : String} {t t₁ t₂ : Trace} {ws : Workspace} {x : Answered}

/-- What others may do: anything, as long as they give what they store a new version and store it under its name. -/
structure Contends (w m : World) : Prop where
  renews : Renews w m
  named : Named w → Named m

theorem Contends.refl (w : World) : Contends w w := ⟨.refl w, id⟩

theorem Contends.trans (h : Contends w m) (h' : Contends m n) : Contends w n :=
  ⟨h.renews.trans h'.renews, fun hw => h'.named (h.named hw)⟩

theorem Plays.contends (h : Plays Contends w t w') : Contends w w' :=
  h.keeps (P := Contends w) (fun _ _ ho hm => hm.trans ho)
    (fun x _ _ _ hm => hm.trans ⟨renews_handle x.call _, fun hn => hn.handle x.call⟩) (.refl w)

theorem Run.contends {ps : List Leg} (h : Run Contends Contends w ps w') : Contends w w' :=
  h.keeps (P := Contends w) (fun _ _ hb hm => hm.trans hb) (fun _ _ hp hm => hm.trans hp.plays.contends) (.refl w)

/-- What is stored under the name that was read has another version, unless it is what was read. -/
theorem Plays.reading (h : Plays Contends w t w') (hn : Named w) (hv : Versioned w) {read : Workspace}
    (hr : ⟨.workspace key, .ok (some read)⟩ ∈ t) : read.metadata.name = some key ∧
      ∃ v, read.metadata.resourceVersion = some v ∧ Spent w' v ∧
        ∀ ws, w'.workspace? key = some ws → ws.metadata.resourceVersion = some v → ws = read := by
  obtain ⟨t₁, t₂, n, m, rfl, h₁, ho, hx, h₂⟩ := h.moment hr
  have hm : Contends w m := h₁.contends.trans ho
  have hstored : m.workspace? key = some read := workspace_answer hx
  obtain ⟨v, hread, hspent⟩ := hv.renews hm.renews key read hstored
  have hafter : Renews m w' := (renews_handle ..).trans h₂.contends.renews
  refine ⟨hm.named hn key read hstored, v, hread, hspent.later hafter, fun ws hws hwv => ?_⟩
  exact Option.some.inj ((hafter.same hspent hws hwv).symm.trans hstored)

/-- What a call of a pass may make of the workspace stored under `k`. -/
inductive Mends (k : String) : Answered → Option Workspace → Option Workspace → Prop
  | untouched {x : Answered} {stored : Option Workspace} : ¬x.Revised k → Mends k x stored stored
  /-- A write was refused because another writer came before it, who gave the workspace a new version. -/
  | overtaken {x : Answered} {ws : Workspace} {v : Option String} : x.refusal?.isSome = true →
      Mends k x (some ws) (some (revise ws v))
  | guarded {ws : Workspace} {version v : Option String} : ws.hasFinalizer = false →
      Mends k ⟨.setFinalizers k version (ws.finalizers ++ [Workspace.finalizer]), .ok ()⟩ (some ws)
        (some (revise { ws with metadata :=
          { ws.metadata with finalizers := some (ws.finalizers ++ [Workspace.finalizer]) } } v))
  | released {ws : Workspace} {version v : Option String} : ws.pendingDeletion = true →
      Mends k ⟨.setFinalizers k version (ws.finalizers.filter (· ≠ Workspace.finalizer)), .ok ()⟩ (some ws)
        (some (revise { ws with metadata :=
          { ws.metadata with finalizers := some (ws.finalizers.filter (· ≠ Workspace.finalizer)) } } v))
  /-- The last guard of a workspace that is to be deleted comes off. -/
  | gone {ws : Workspace} {version : Option String} : ws.pendingDeletion = true →
      (∀ f ∈ ws.finalizers, f = Workspace.finalizer) → Mends k ⟨.setFinalizers k version [], .ok ()⟩ (some ws) none
  | reported {ws : Workspace} {version v : Option String} {status : Status} : (ws.status.getD {}).Amends status →
      Mends k ⟨.patchStatus k version status, .ok ()⟩ (some ws) (some (revise { ws with status := some status } v))

/-- A write that was refused leaves what is stored, or what another writer made of it. -/
theorem mends_refused {key : String} (hx : x.refusal?.isSome = true)
    (h : Alike w m ∨ Alike (w.interfere key) m) (k : String) : Mends k x (w.workspace? k) (m.workspace? k) := by
  rcases h with h | h
  · rw [h.workspace?]
    refine .untouched fun ⟨_, _, hnone⟩ => ?_
    rw [hnone] at hx
    cases hx
  · obtain ⟨v, hv⟩ := (overtaken_interfere w key).workspace? k
    rw [h.workspace?, hv]
    cases w.workspace? k with
    | none =>
      refine .untouched fun ⟨_, _, hnone⟩ => ?_
      rw [hnone] at hx
      cases hx
    | some ws => exact .overtaken hx

/-- A write of guards on the workspace that was read. -/
theorem mends_writeFinalizers {finalizers : List String} {version : Option String} (hws : m.workspace? key = some ws)
    (hf : ws.hasFinalizer = false ∧ finalizers = ws.finalizers ++ [Workspace.finalizer] ∨
      ws.pendingDeletion = true ∧ finalizers = ws.finalizers.filter (· ≠ Workspace.finalizer)) (k : String) :
    Mends k ⟨.setFinalizers key version finalizers, .ok ()⟩ (m.workspace? k)
      ((writeFinalizers m key finalizers).workspace? k) := by
  by_cases hk : k = key
  · subst hk
    obtain ⟨v, hv⟩ := workspace?_writeFinalizers_self hws finalizers
    rw [hv, hws]
    rcases hf with ⟨hf, rfl⟩ | ⟨hp, rfl⟩
    · rw [if_neg (by simp)]
      exact .guarded hf
    · by_cases hnone : ws.finalizers.filter (· ≠ Workspace.finalizer) = []
      · rw [hnone, hp, List.isEmpty_nil, Bool.and_self, if_pos rfl]
        exact .gone hp fun f hmem => by simpa using List.filter_eq_nil_iff.1 hnone f hmem
      · rw [if_neg fun h => hnone (List.isEmpty_iff.1 (Bool.and_eq_true_iff.1 h).1)]
        exact .released hp
  · rw [workspace?_writeFinalizers m key finalizers k hk]
    refine .untouched fun ⟨_, hr, _⟩ => ?_
    cases hr
    exact hk rfl

/-- A write of a status that amends the one that was read. -/
theorem mends_patchStatus {status : Status} {version : Option String} (hws : m.workspace? key = some ws)
    (hs : (ws.status.getD {}).Amends status) (k : String) :
    Mends k ⟨.patchStatus key version status, .ok ()⟩ (m.workspace? k)
      (((m.modifyWorkspace key fun ws => { ws with status := some status }).bump key).workspace? k) := by
  rw [workspace?_bump, workspace?_modify]
  by_cases hk : k = key
  · subst hk
    rw [if_pos rfl, if_pos rfl, hws]
    exact .reported hs
  · rw [if_neg hk, if_neg hk]
    refine .untouched fun ⟨_, hr, _⟩ => ?_
    cases hr
    exact hk rfl

/-- How a write went that rests on the reading `read` of the workspace `name`. -/
structure Went (name : String) (read : Workspace) (x : Answered) (m m' : World) : Prop where
  mends : ∀ k, Mends k x (m.workspace? k) (m'.workspace? k)
  done : x.refusal? = none → m.workspace? name = some read
  refused : x.refusal?.isSome = true → Alike m m' ∨ Alike (m.interfere name) m'

theorem Commits.went {f : Except Error Unit → Answered} {commit : World → World} {r : Except Error Unit × World}
    {read : Workspace} (h : Commits name (some v) m commit r) (hspent : Spent m v)
    (hread : ∀ ws, m.workspace? name = some ws → ws.metadata.resourceVersion = some v → ws = read)
    (herror : ∀ e, (f (.error e)).refusal? = some e) (hok : (f (.ok ())).refusal? = none)
    (hcommit : ∀ m : World, m.workspace? name = some read → ∀ k,
      Mends k (f (.ok ())) (m.workspace? k) ((commit m).workspace? k)) : Went name read (f r.1) m r.2 := by
  rcases h.fresh hspent with ⟨e, m', rfl, hm⟩ | ⟨ws, m', rfl, hm, hws, hv⟩
  · have hrefused : (f (.error e)).refusal?.isSome = true := by rw [herror e]; rfl
    exact ⟨mends_refused hrefused hm, fun hnone => (nomatch (herror e).symm.trans hnone), fun _ => hm⟩
  · obtain rfl := hread ws hws hv
    refine ⟨fun k => ?_, fun _ => hws, fun he => ?_⟩
    · rw [← hm.workspace?]
      exact hcommit m' ((hm.workspace? name).trans hws) k
    · rw [hok] at he
      cases he

/-- A write of a pass is done on the object that was read, or refused. -/
theorem Founded.went (h : Founded name t x.call) (hp : Plays Contends w t n) (ho : Contends n m) (hn : Named w)
    (hv : Versioned w) (hx : (handle x.call m).1 = x.answer) : ∃ read, ⟨.workspace name, .ok (some read)⟩ ∈ t ∧
      x.call.revises? = some (name, read.metadata.resourceVersion) ∧ Went name read x m (handle x.call m).2 := by
  have reading : ∀ {key : String} {read : Workspace}, ⟨.workspace key, .ok (some read)⟩ ∈ t → read.name = key ∧
      ∃ v, read.metadata.resourceVersion = some v ∧ Spent m v ∧
        ∀ ws, m.workspace? key = some ws → ws.metadata.resourceVersion = some v → ws = read := by
    intro key read hr
    obtain ⟨hname, v, hread, hspent, honly⟩ := hp.reading hn hv hr
    refine ⟨Workspace.name_of_some hname, v, hread, hspent.later ho.renews, fun ws hws hwv => ?_⟩
    exact honly ws (ho.renews.same hspent hws hwv) hwv
  obtain ⟨c, a⟩ := x
  change (handle c m).1 = a at hx
  subst hx
  change Founded name t c at h
  cases h with
  | @attach ws hf =>
    obtain ⟨hname, v, hread, hspent, honly⟩ := reading (List.mem_singleton_self _)
    have hcommits := setFinalizers_commits name (some v) (ws.finalizers ++ [Workspace.finalizer]) m
    refine ⟨ws, List.mem_singleton_self _, by rw [hname]; rfl, ?_⟩
    rw [hname, hread]
    exact hcommits.went (f := fun a => ⟨.setFinalizers name (some v) _, a⟩) hspent honly (fun _ => rfl) rfl
      fun m hm => mends_writeFinalizers hm (.inl ⟨hf, rfl⟩)
  | @release ws hpending =>
    obtain ⟨hname, v, hread, hspent, honly⟩ := reading (List.mem_cons_self ..)
    have hcommits := setFinalizers_commits name (some v) (ws.finalizers.filter (· ≠ Workspace.finalizer)) m
    refine ⟨ws, List.mem_cons_self .., by rw [hname]; rfl, ?_⟩
    rw [hname, hread]
    exact hcommits.went (f := fun a => ⟨.setFinalizers name (some v) _, a⟩) hspent honly (fun _ => rfl) rfl
      fun m hm => mends_writeFinalizers hm (.inr ⟨hpending, rfl⟩)
  | @report t₀ key latest now mark c hkey hc =>
    -- the report reads under the name of the snapshot, which is the name of the pass
    obtain rfl : key = name := by
      rcases hkey with rfl | ⟨ws, hws, rfl⟩
      · rfl
      · exact (reading (List.mem_append_left _ hws)).1
    have hmem : ⟨.workspace key, .ok (some latest)⟩ ∈ t₀ ++ [⟨.workspace key, .ok (some latest)⟩, ⟨.now, now⟩] := by simp
    obtain ⟨hname, v, hread, hspent, honly⟩ := reading hmem
    have hcommits := patchStatus_commits key (some v) (Reported latest now mark (some c)) m
    refine ⟨latest, hmem, by rw [hname]; rfl, ?_⟩
    rw [hname, hread]
    exact hcommits.went (f := fun a => ⟨.patchStatus key (some v) _, a⟩) hspent honly (fun _ => rfl) rfl
      fun m hm => mends_patchStatus hm (amends_reported hc)

/-! ## What it comes to -/

/-- No update is lost, whoever else writes on the workspaces. Each call of a pass changes a stored workspace only
as `Mends` says, so a write of guards puts on or takes off the guard of the pass and leaves those of others, and
a write of a status leaves every condition but the first that says whether the workspace is ready, and does not
take the mark back. A write is done only on just the object that the pass had read; if anything has been written
since, it is refused, nothing is stored, and the step or the report that made it ends there with the error. Over the
network it is a merge patch that asks for the version that was read and changes nothing but its own part of an object,
and a server that has another version refuses it (`Remote.Heeds`). -/
theorem no_lost_update {ps : List Leg} (h : Run Contends Contends w ps w') (hn : Named w) (hv : Versioned w)
    {p : Leg} (hp : p ∈ ps) (ht : p.trace = t₁ ++ x :: t₂) (hbefore : Plays Contends p.start t₁ n)
    (hothers : Contends n m) (hx : (handle x.call m).1 = x.answer) :
    (∀ k, Mends k x (m.workspace? k) ((handle x.call m).2.workspace? k)) ∧
    ∀ k version, x.call.revises? = some (k, version) → k = p.name ∧
      (∃ read, ⟨.workspace k, .ok (some read)⟩ ∈ t₁ ∧ read.metadata.resourceVersion = version ∧
        (m.workspace? k ≠ some read → ∃ e, x.refusal? = some e)) ∧
      (∀ e, x.refusal? = some e → (Alike m (handle x.call m).2 ∨ Alike (m.interfere k) (handle x.call m).2) ∧
        Aftermath p.name e t₁ x t₂ p.result) ∧
      Remote.Heeds x.call k version := by
  obtain ⟨hhap, ps₁, ps₂, -, hstart, -⟩ := h.upto Contends.refl hp
  have hw : Contends w p.start := hstart.contends
  have hn := hw.named hn
  have hv := hv.renews hw.renews
  cases hr : x.call.revises? with
  | none =>
    refine ⟨fun k => ?_, fun k version hk => by cases hk⟩
    rw [World.workspace?, World.workspace?, workspaces_handle x.call (Call.apart_of_revises hr).1 (Call.apart_of_revises hr).2]
    refine .untouched ?_
    rintro ⟨version, hk, -⟩
    cases hr.symm.trans hk
  | some kv =>
    obtain ⟨hfounded, hafter⟩ := PassTrace.founded hhap.trace ht (by rw [hr]; rfl)
    obtain ⟨read, hmem, hcall, hwent⟩ := Founded.went hfounded hbefore hothers hn hv hx
    refine ⟨hwent.mends, fun k version hk => ?_⟩
    obtain ⟨rfl, rfl⟩ : p.name = k ∧ read.metadata.resourceVersion = version := by
      simpa using (hcall.symm.trans hr).trans hk
    refine ⟨rfl, ⟨read, hmem, rfl, fun hne => ?_⟩, fun e he => ⟨hwent.refused (by rw [he]; rfl), hafter e he⟩,
      Remote.heeds_of_revises hcall⟩
    cases he : x.refusal? with
    | none => exact absurd (hwent.done he) hne
    | some e => exact ⟨e, rfl⟩

/-- A workspace with a guard and conditions of others. -/
def visited : Workspace :=
  { newcomer with
    metadata := { newcomer.metadata with resourceVersion := some (issued 0), finalizers := some ["backup/hold"] }
    status := some { conditions := [{ type := "Stored", status := .yes, reason := "Copied" }, .progressing "waiting"] } }

/-- A world in which another writer will come before the next write on that workspace. -/
def contested : World := { outpost visited with interference := 1 }

theorem versioned_contested : Versioned contested := by
  intro k ws hws
  change (if "team" = k then some visited else none) = some ws at hws
  split at hws
  · cases hws
    exact ⟨issued 0, rfl, spent_issued (Nat.zero_le _)⟩
  · cases hws

/-- The write of the first pass is refused, and that of the second is done; over the network it would have heeded the
version that had been read. -/
theorem no_lost_update_contested : ∃ p q, (passes {} "team" 2 contested).1 = [p, q] ∧
    (∃ t₁ x t₂ e, p.trace = t₁ ++ x :: t₂ ∧ x.refusal? = some e ∧ Aftermath "team" e t₁ x t₂ p.result) ∧
    ∃ x ∈ q.trace, x.Revised "team" ∧
      (∃ m, Mends "team" x (m.workspace? "team") ((handle x.call m).2.workspace? "team")) ∧
      ∃ version, x.call.revises? = some ("team", version) ∧ Remote.Heeds x.call "team" version := by
  have hrun := run_passes Contends.refl Contends.refl {} "team" 2 contested
  have hnamed : Named contested := named_outpost rfl
  have hrefused : (transcript (Operator.pass {} "team").run contested).any
      (fun x => x.call.revises?.isSome && x.refusal?.isSome) = true := by decide +kernel
  have hdone : (transcript (Operator.pass {} "team").run (pass {} "team" contested).2).any
      (fun x => decide (x.call.revises?.map (·.1) = some "team") && x.refusal?.isNone) = true := by decide +kernel
  -- at the moment of each call the theorem says how it goes
  have each : ∀ p ∈ (passes {} "team" 2 contested).1, ∀ x ∈ p.trace, ∃ t₁ t₂ m, p.trace = t₁ ++ x :: t₂ ∧
      (∀ k, Mends k x (m.workspace? k) ((handle x.call m).2.workspace? k)) ∧
      ∀ k version, x.call.revises? = some (k, version) → Remote.Heeds x.call k version ∧
        ∀ e, x.refusal? = some e → Aftermath p.name e t₁ x t₂ p.result := by
    intro p hp x hx
    obtain ⟨t₁, t₂, n, m, ht, hbefore, hothers, hanswer, -⟩ := (hrun.happens hp).plays.moment hx
    obtain ⟨hmends, hwrite⟩ := no_lost_update hrun hnamed versioned_contested hp ht hbefore hothers hanswer
    refine ⟨t₁, t₂, m, ht, hmends, fun k version hk => ?_⟩
    obtain ⟨-, -, hafter, hheeds⟩ := hwrite k version hk
    exact ⟨hheeds, fun e he => (hafter e he).2⟩
  refine ⟨_, _, rfl, ?_, ?_⟩
  · obtain ⟨x, hx, hboth⟩ := List.any_eq_true.1 hrefused
    obtain ⟨hrevises, hrefusal⟩ := Bool.and_eq_true_iff.1 hboth
    obtain ⟨⟨k, version⟩, hcall⟩ := Option.isSome_iff_exists.1 hrevises
    obtain ⟨e, he⟩ := Option.isSome_iff_exists.1 hrefusal
    obtain ⟨t₁, t₂, m, ht, -, hwrite⟩ := each _ (List.mem_cons_self ..) x hx
    exact ⟨t₁, x, t₂, e, ht, he, (hwrite k version hcall).2 e he⟩
  · obtain ⟨x, hx, hboth⟩ := List.any_eq_true.1 hdone
    obtain ⟨hrevises, hrefusal⟩ := Bool.and_eq_true_iff.1 hboth
    obtain ⟨⟨k, version⟩, hcall, rfl⟩ := Option.map_eq_some_iff.1 (of_decide_eq_true hrevises)
    obtain ⟨t₁, t₂, m, -, hmends, hwrite⟩ := each _ (List.mem_cons_of_mem _ (List.mem_cons_self ..)) x hx
    exact ⟨x, hx, ⟨version, hcall, Option.isNone_iff_eq_none.1 hrefusal⟩, ⟨m, hmends "team"⟩, version, hcall,
      (hwrite "team" version hcall).1⟩

end Simulation
end Tenancy
