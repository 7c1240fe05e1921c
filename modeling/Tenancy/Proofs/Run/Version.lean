/-
Versions of stored workspaces. A world gives out versions by number and none twice, so as long as others give
what they store a new version too, an object is told by its version: what is stored with the version that was
read is what was read (`Renews.same`). Hence a write that asks for the version that was read either takes place
on just the object that was read, or is refused (`Commits`).
-/
import Tenancy.Proofs.Run.Frame

namespace Tenancy.Simulation

open Operator

variable {w m n : World} {k v : String} {i : Nat}

/-! ## Versions -/

/-- The version that a world gives out under a number. -/
def issued (n : Nat) : String := toString (n + 100)

theorem issued_injective : Function.Injective issued := by
  intro a b h
  have hdigits : Nat.toDigits 10 (a + 100) = Nat.toDigits 10 (b + 100) := by
    have := congrArg String.toList h
    simpa [issued, Nat.repr] using this
  have hnumber := congrArg (fun ds => Nat.ofDigitChars 10 ds 0) hdigits
  simp only [Nat.ofDigitChars_ten_toDigits] at hnumber
  omega

/-- The world will not give this version out any more. -/
def Spent (w : World) (v : String) : Prop := ∀ n, w.versions < n → issued n ≠ v

theorem spent_issued (h : i ≤ w.versions) : Spent w (issued i) := by
  intro n hn he
  have := issued_injective he
  omega

/-- Every stored workspace has a version, which will not be given out again. -/
def Versioned (w : World) : Prop :=
  ∀ k ws, w.workspace? k = some ws → ∃ v, ws.metadata.resourceVersion = some v ∧ Spent w v

/-- What is stored afterwards was stored before, or has a version given out in between. -/
structure Renews (w m : World) : Prop where
  versions : w.versions ≤ m.versions
  stored : ∀ k ws, m.workspace? k = some ws → w.workspace? k = some ws ∨
    ∃ n, ws.metadata.resourceVersion = some (issued n) ∧ w.versions < n ∧ n ≤ m.versions

theorem Renews.refl (w : World) : Renews w w := ⟨le_rfl, fun _ _ h => .inl h⟩

theorem Renews.trans (h : Renews w m) (h' : Renews m n) : Renews w n := by
  refine ⟨h.versions.trans h'.versions, fun k ws hws => ?_⟩
  rcases h'.stored k ws hws with hm | ⟨i, hi, hlt, hle⟩
  · rcases h.stored k ws hm with hw | ⟨i, hi, hlt, hle⟩
    · exact .inl hw
    · exact .inr ⟨i, hi, hlt, hle.trans h'.versions⟩
  · exact .inr ⟨i, hi, h.versions.trans_lt hlt, hle⟩

theorem Spent.later (h : Spent w v) (hr : Renews w m) : Spent m v := fun i hi => h i (hr.versions.trans_lt hi)

theorem Versioned.renews (h : Versioned w) (hr : Renews w m) : Versioned m := by
  intro k ws hws
  rcases hr.stored k ws hws with hw | ⟨i, hi, -, hle⟩
  · obtain ⟨v, hv, hs⟩ := h k ws hw
    exact ⟨v, hv, hs.later hr⟩
  · exact ⟨issued i, hi, spent_issued hle⟩

/-- What is stored with the version that was stored before is what was stored before. -/
theorem Renews.same (h : Renews w m) (hspent : Spent w v) {ws : Workspace} (hws : m.workspace? k = some ws)
    (hv : ws.metadata.resourceVersion = some v) : w.workspace? k = some ws := by
  rcases h.stored k ws hws with hw | ⟨i, hi, hlt, -⟩
  · exact hw
  · exact absurd (Option.some.inj (hi.symm.trans hv)) (hspent i hlt)

/-! ## Calls -/

theorem versions_giveUp (w : World) (limit : Nat) : (giveUp w limit).2.versions = w.versions := by
  unfold giveUp
  split
  · split <;> rfl
  · rfl

theorem versions_pull (tenant model : String) (limit : Duration) (w : World) :
    (pull tenant model limit w).2.versions = w.versions := by
  unfold pull
  simp only [strike_eq]
  split
  · rfl
  split
  · rfl
  rcases hs : (meet .pull model (World.record { w with tasks := w.tasks + 1 } (.pulled tenant model)).faults).1
    with _ | s <;> rw [hs]
  · rfl
  cases s with
  | hang => exact versions_giveUp ..
  | delay ms =>
    show (awaitPull ..).2.versions = _
    unfold awaitPull
    split
    · rfl
    · exact versions_giveUp ..
  | _ => rfl

/-- Only writes on workspaces take versions. -/
theorem versions_handle (c : Call) (hg : c.topic ≠ .guards) (hs : c.topic ≠ .status) (w : World) :
    (handle c w).2.versions = w.versions := by
  have guarded {α : Type} (target : Target) (argument : String) (w : World) (go : World → Except Error α × World)
      (hgo : ∀ m, (go m).2.versions = m.versions) : (guarded target argument w go).2.versions = w.versions := by
    rcases guarded_cases target argument w go with ⟨e, h⟩ | h <;> rw [h]
    · rfl
    · exact hgo _
  have runtimeCall {α : Type} (target : Target) (argument : String) (w : World) (go : Bool → World → α × World)
      (hgo : ∀ b m, (go b m).2.versions = m.versions) : (runtimeCall target argument w go).2.versions = w.versions := by
    rcases runtimeCall_cases target argument w go with ⟨e, h⟩ | ⟨b, ms, -, h⟩ <;> rw [h]
    · rfl
    · exact hgo _ _
  cases c with
  | setFinalizers => exact absurd rfl hg
  | patchStatus => exact absurd rfl hs
  | publish | openRuntime | now => rfl
  | pull tenant model limit => exact versions_pull ..
  | createModel tenant model file => exact runtimeCall _ _ _ _ fun b m => by cases b <;> rfl
  | listModels | listRunning => exact runtimeCall _ _ _ _ fun _ _ => rfl
  | _ => exact guarded _ _ _ _ fun _ => rfl

theorem renews_bump (w : World) (k : String) : Renews w (w.bump k) := by
  refine ⟨Nat.le_succ _, fun j ws hws => ?_⟩
  rw [workspace?_bump] at hws
  split at hws
  · obtain ⟨old, -, rfl⟩ := Option.map_eq_some_iff.1 hws
    exact .inr ⟨w.versions + 1, rfl, Nat.lt_succ_self _, le_rfl⟩
  · exact .inl hws

/-- What is changed and then given a new version is renewed. -/
theorem renews_modify (w : World) (k : String) (f : Workspace → Workspace) :
    Renews w ((w.modifyWorkspace k f).bump k) := by
  refine ⟨Nat.le_succ _, fun j ws hws => ?_⟩
  rw [workspace?_bump, workspace?_modify] at hws
  split at hws
  · obtain ⟨old, -, rfl⟩ := Option.map_eq_some_iff.1 hws
    exact .inr ⟨w.versions + 1, rfl, Nat.lt_succ_self _, le_rfl⟩
  · exact .inl hws

theorem renews_of_eq (hw : m.workspaces = w.workspaces) (hv : m.versions = w.versions) : Renews w m := by
  refine ⟨hv.ge, fun k ws hws => .inl ?_⟩
  rwa [World.workspace?, ← hw]

theorem renews_interfere (w : World) (k : String) : Renews w (w.interfere k) := by
  unfold World.interfere
  split
  · exact .refl w
  · exact (renews_of_eq rfl rfl : Renews w { w with interference := w.interference - 1 }).trans (renews_bump _ k)

theorem renews_remove (w : World) (k : String) : Renews w (w.remove k) := by
  refine ⟨le_rfl, fun j ws hws => .inl ?_⟩
  have hj : (if j = k then none else w.workspace? j) = some ws := (Dict.get?_erase ..).symm.trans hws
  split at hj
  · cases hj
  · exact hj

theorem renews_writeFinalizers (w : World) (k : String) (finalizers : List String) :
    Renews w (writeFinalizers w k finalizers) := by
  unfold writeFinalizers
  split
  · exact .refl w
  · split
    · exact renews_remove ..
    · exact renews_modify ..

/-! ## Writes on workspaces -/

/-- How a write on the workspace `k` goes that asks for a version. It is refused, and then nothing is stored but
what another writer stored who came before it; or it is done as `commit` says, after that other writer. -/
inductive Commits (k : String) (version : Option String) (w : World) (commit : World → World) :
    Except Error Unit × World → Prop
  | refused {m : World} (e : Error) : Alike w m ∨ Alike (w.interfere k) m → Renews w m →
      Commits k version w commit (.error e, m)
  | done {m : World} : Alike (w.interfere k) m → Renews w m → m.stale k version = false →
      Commits k version w commit (.ok (), commit m)

theorem interfere_struck (w : World) (target : Target) (k : String) :
    (w.struck target k).interfere k = (w.interfere k).struck target k := by
  unfold World.interfere
  by_cases hi : w.interference = 0
  · rw [if_pos hi, if_pos (show (w.struck target k).interference = 0 from hi)]
  · rw [if_neg hi, if_neg (show ¬(w.struck target k).interference = 0 from hi)]
    rfl

/-- Both writes on workspaces have this shape. -/
theorem commits (target : Target) (k : String) (version : Option String) (w : World) (late done : Effect)
    (commit : World → World) : Commits k version w commit (guarded target k w fun w =>
      let w := w.interfere k
      if w.stale k version then (conflict k, w.record late) else (.ok (), commit (w.record done))) := by
  rcases guarded_cases target k w _ with ⟨e, h⟩ | h <;> rw [h]
  · exact .refused e (.inl (.struck ..)) (renews_of_eq rfl rfl)
  dsimp only
  rw [interfere_struck]
  have hm : ∀ effect, Alike (w.interfere k) (((w.interfere k).struck target k).record effect) ∧
      Renews w (((w.interfere k).struck target k).record effect) := fun effect =>
    ⟨(Alike.struck ..).trans (.record ..), (renews_interfere w k).trans (renews_of_eq rfl rfl)⟩
  split
  next => exact .refused _ (.inr (hm _).1) (hm _).2
  next hs => exact .done (hm _).1 (hm _).2 (Bool.eq_false_iff.2 hs)

theorem setFinalizers_commits (k : String) (version : Option String) (finalizers : List String) (w : World) :
    Commits k version w (writeFinalizers · k finalizers) (handle (.setFinalizers k version finalizers) w) :=
  commits ..

theorem patchStatus_commits (k : String) (version : Option String) (status : Status) (w : World) :
    Commits k version w (fun m => (m.modifyWorkspace k fun ws => { ws with status := some status }).bump k)
      (handle (.patchStatus k version status) w) :=
  commits ..

theorem Commits.renews {version : Option String} {commit : World → World} {r : Except Error Unit × World}
    (h : Commits k version w commit r) (hcommit : ∀ m, Renews m (commit m)) : Renews w r.2 := by
  cases h with
  | refused _ _ hm => exact hm
  | done _ hm _ => exact hm.trans (hcommit _)

theorem stale_eq_false : w.stale k (some v) = false ↔
    ∃ ws, w.workspace? k = some ws ∧ ws.metadata.resourceVersion = some v := by
  unfold World.stale
  simp [Option.bind_eq_some_iff]

/-- A write that asks for a version which will not come again is done only on the object that has it, and then
no other writer has come before it. -/
theorem Commits.fresh {commit : World → World} {r : Except Error Unit × World}
    (h : Commits k (some v) w commit r) (hspent : Spent w v) :
    (∃ e m, r = (.error e, m) ∧ (Alike w m ∨ Alike (w.interfere k) m)) ∨
      ∃ ws m, r = (.ok (), commit m) ∧ Alike w m ∧ w.workspace? k = some ws ∧ ws.metadata.resourceVersion = some v := by
  cases h with
  | refused e hm => exact .inl ⟨e, _, rfl, hm⟩
  | @done m hm hr hs =>
    obtain ⟨ws, hws, hv⟩ := stale_eq_false.1 hs
    refine .inr ⟨ws, m, rfl, ?_, hr.same hspent hws hv, hv⟩
    by_cases hi : w.interference = 0
    · rwa [World.interfere, if_pos hi] at hm
    · -- what another writer has left has a version that had not been given out
      rw [hm.workspace?, World.interfere, if_neg hi, workspace?_bump, if_pos rfl] at hws
      obtain ⟨old, -, rfl⟩ := Option.map_eq_some_iff.1 hws
      exact absurd (Option.some.inj hv) (hspent _ (Nat.lt_succ_self w.versions))

/-- No call takes a version back. -/
theorem renews_handle (c : Call) (w : World) : Renews w (handle c w).2 := by
  cases c with
  | setFinalizers k version finalizers =>
    exact (setFinalizers_commits ..).renews fun m => renews_writeFinalizers m k finalizers
  | patchStatus k version status => exact (patchStatus_commits ..).renews fun m => renews_modify m k _
  | _ => exact renews_of_eq (workspaces_handle _ (by nofun) (by nofun) w) (versions_handle _ (by nofun) (by nofun) w)

end Tenancy.Simulation
