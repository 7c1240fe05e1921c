/-
Bringing the models of a runtime up to date again and again, with any lists, wherever a sync stops and whatever
others add in between. Nothing is brought that was there, so over all syncs no model is brought twice
(`Upkeep.fresh`), and a sync that repeats one that ended well only looks (`upkeep_complete_once`).
-/
import Tenancy.Proofs.Run.Models

namespace Tenancy.Operator

variable {tenant : String} {limit : Duration} {t t' : Trace} {inv inv' inv'' : List Model.Entry}

/-! ## Fresh models -/

/-- What the trace has brought was missing before it and is there after it, and no two are the same model. -/
structure Fresh (inv : List Model.Entry) (t : Trace) (inv' : List Model.Entry) : Prop where
  nodup : ((brought t).map (Model.canonical ·.name)).Nodup
  missing : ∀ target ∈ brought t, Model.present inv target.name = false
  present : ∀ target ∈ brought t, Model.present inv' target.name = true

theorem Fresh.of_nothing (h : brought t = []) : Fresh inv t inv' := by
  refine ⟨?_, ?_, ?_⟩ <;> rw [h]
  · exact List.nodup_nil
  · exact List.forall_mem_nil _
  · exact List.forall_mem_nil _

theorem Fresh.widen {m m' : List Model.Entry} (h : Fresh m t m') (hle : inv ⊆ m) (hle' : m' ⊆ inv') :
    Fresh inv t inv' where
  nodup := h.nodup
  missing target ht := Model.present_anti hle (h.missing target ht)
  present target ht := Model.present_mono hle' (h.present target ht)

/-- What the first part has brought is there when the second begins, so that does not bring it again. -/
theorem Fresh.append (h : Fresh inv t inv') (h' : Fresh inv' t' inv'') (hle : inv ⊆ inv') (hle' : inv' ⊆ inv'') :
    Fresh inv (t ++ t') inv'' := by
  have hw := h.widen (List.Subset.refl _) hle'
  have hw' := h'.widen hle (List.Subset.refl _)
  refine ⟨?_, ?_, ?_⟩ <;> rw [brought_append]
  · rw [List.map_append]
    refine h.nodup.append h'.nodup fun name hn hn' => ?_
    obtain ⟨target, ht, rfl⟩ := List.mem_map.1 hn
    obtain ⟨target', ht', hc⟩ := List.mem_map.1 hn'
    have hp := h.present target ht
    rw [← Model.present_congr hc, h'.missing target' ht'] at hp
    cases hp
  · exact List.forall_mem_append.2 ⟨hw.missing, hw'.missing⟩
  · exact List.forall_mem_append.2 ⟨hw.present, hw'.present⟩

theorem Fresh.cons {x : Answered} {target : Target} (hx : x.brought? = some target)
    (hn : Model.present inv target.name = false) (hp : Model.present inv' target.name = true)
    (h : Fresh inv' t inv'') (hle : inv ⊆ inv') (hle' : inv' ⊆ inv'') : Fresh inv (x :: t) inv'' := by
  have hb : brought [x] = [target] := List.filterMap_cons_some hx
  refine Fresh.append (t := [x]) ⟨?_, ?_, ?_⟩ h hle hle' <;> rw [hb]
  · exact List.nodup_singleton _
  · exact List.forall_mem_singleton.2 hn
  · exact List.forall_mem_singleton.2 hp

/-- A sync brings what it has not found. -/
theorem Syncs.fresh {ts : List Target} {r : Except Error Unit} (h : Syncs tenant limit ts t r)
    (hc : Course (Serves tenant) inv t inv') : Fresh inv t inv' := by
  induction h generalizing inv with
  | done => exact .of_nothing rfl
  | unlisted e => exact .of_nothing rfl
  | held _ _ ih =>
    obtain ⟨m, n, hm, hx, hc⟩ := hc
    have h := (ih hc).widen (List.Subset.trans hm hx.keeps) (List.Subset.refl _)
    exact ⟨h.nodup, h.missing, h.present⟩
  | @brought target rest entries x t r hp hb _ ih =>
    obtain ⟨m, n, hm, hl, m', n', hm', hx, hc⟩ := hc
    -- it was missing in the listing, and so at the start
    rw [hl.lists entries rfl] at hp
    have hle : inv ⊆ n' := List.Subset.trans hm (List.Subset.trans hl.keeps (List.Subset.trans hm' hx.keeps))
    have h := Fresh.cons hb.brought? (Model.present_anti hm hp) (hb.present hx) (ih hc) hle hc.grows
    exact ⟨h.nodup, h.missing, h.present⟩
  | failed _ hb => exact .of_nothing (List.filterMap_cons_none hb.brought?)

/-! ## Syncs one after the other -/

/-- One sync as it went, with what the runtime held before and after it. -/
structure Sync where
  models : List String
  patterns : List String
  limit : Duration
  start : List Model.Entry
  trace : Trace
  result : Except Error Unit
  stop : List Model.Entry

namespace Sync

/-- What the sync is to bring, in order: each model, followed by its known variants. -/
def targets (s : Sync) : List Target := Operator.targets s.patterns s.models

/-- The sync may go so on a runtime that serves. -/
structure Happens (tenant : String) (s : Sync) : Prop where
  yields : (syncModels tenant s.patterns s.limit s.models).run.Yields s.trace s.result
  course : Course (Serves tenant) s.start s.trace s.stop

variable {s : Sync}

theorem Happens.syncs (h : s.Happens tenant) : Syncs tenant s.limit s.targets s.trace s.result :=
  syncModels_yields h.yields

end Sync

/-- A sequence of syncs on one runtime; before, between and after them others may add models. -/
inductive Upkeep (tenant : String) : List Model.Entry → List Sync → List Model.Entry → Prop
  | rest {inv inv' : List Model.Entry} : inv ⊆ inv' → Upkeep tenant inv [] inv'
  | sync {inv inv' : List Model.Entry} {s : Sync} {ss : List Sync} : inv ⊆ s.start → s.Happens tenant →
      Upkeep tenant s.stop ss inv' → Upkeep tenant inv (s :: ss) inv'

namespace Upkeep

variable {ss : List Sync}

theorem grows (h : Upkeep tenant inv ss inv') : inv ⊆ inv' := by
  induction h with
  | rest hle => exact hle
  | sync hle hs _ ih => exact List.Subset.trans hle (List.Subset.trans hs.course.grows ih)

theorem happens (h : Upkeep tenant inv ss inv') {s : Sync} (hs : s ∈ ss) : inv ⊆ s.start ∧ s.Happens tenant := by
  induction h with
  | rest => cases hs
  | @sync inv inv' s' ss hle hs' _ ih =>
    rcases List.mem_cons.1 hs with rfl | hs
    · exact ⟨hle, hs'⟩
    · obtain ⟨hstart, hh⟩ := ih hs
      exact ⟨List.Subset.trans hle (List.Subset.trans hs'.course.grows hstart), hh⟩

/-- All syncs together bring only what was missing, and nothing twice. -/
theorem fresh (h : Upkeep tenant inv ss inv') : Fresh inv (ss.flatMap (·.trace)) inv' := by
  induction h with
  | rest => exact .of_nothing rfl
  | sync hle hs h ih =>
    exact ((hs.syncs.fresh hs.course).widen hle (List.Subset.refl _)).append ih
      (List.Subset.trans hle hs.course.grows) h.grows

/-- After a sync that ended well, one for the same models in any spelling only looks. -/
theorem looks (h : Upkeep tenant inv ss inv') : ss.Pairwise fun s s' => s.result = .ok () →
    (∀ target' ∈ s'.targets, ∃ target ∈ s.targets, Model.canonical target'.name = Model.canonical target.name) →
    attempts s'.trace = [] := by
  induction h with
  | rest => exact .nil
  | @sync inv inv' s ss _ hs h ih =>
    refine List.pairwise_cons.2 ⟨fun s' hs' hok hsame => ?_, ih⟩
    obtain ⟨hle, hh⟩ := h.happens hs'
    have hsyncs := hs.syncs
    rw [hok] at hsyncs
    refine attempts_eq_nil (hh.syncs.looks (hh.course.mono fun _ _ _ hx => hx.toLists) fun target' ht' => ?_)
    obtain ⟨target, ht, hc⟩ := hsame target' ht'
    rw [Model.present_congr hc]
    exact Model.present_mono hle (hsyncs.present hs.course target ht)

end Upkeep

/-- Over any sequence of syncs: one that ends well leaves every target there; one that fails leaves every target
before the one it failed at there and has tried to bring none after it; and each model is brought at most once,
and never if it was there from the start, so that a sync for what an earlier one ended well for brings nothing. -/
theorem upkeep_complete_once {ss : List Sync} (h : Upkeep tenant inv ss inv') :
    (∀ s ∈ ss, match s.result with
      | .ok _ => (∀ target ∈ s.targets, Model.present s.stop target.name = true) ∧
          (attempts s.trace).Sublist s.targets
      | .error _ => ∃ done target rest, s.targets = done ++ target :: rest ∧
          (∀ earlier ∈ done, Model.present s.stop earlier.name = true) ∧
          (brought s.trace).Sublist done ∧ (attempts s.trace).Sublist (done ++ [target])) ∧
    ((ss.flatMap fun s => brought s.trace).map (Model.canonical ·.name)).Nodup ∧
    (∀ target ∈ ss.flatMap fun s => brought s.trace, Model.present inv target.name = false) ∧
    ss.Pairwise fun s s' => s.result = .ok () →
      (∀ target' ∈ s'.targets, ∃ target ∈ s.targets, Model.canonical target'.name = Model.canonical target.name) →
      attempts s'.trace = [] := by
  have hall : (ss.flatMap fun s => brought s.trace) = brought (ss.flatMap (·.trace)) :=
    List.filterMap_flatMap.symm
  rw [hall]
  refine ⟨fun s hs => ?_, h.fresh.nodup, h.fresh.missing, h.looks⟩
  have hh := (h.happens hs).2
  obtain ⟨done, rest, hts, hd⟩ := hh.syncs.reaches hh.course
  cases hr : s.result with
  | ok u =>
    obtain rfl := hd.ok.1 hr
    rw [List.append_nil] at hts
    rw [hts]
    exact ⟨hd.present, by simpa using hd.attempts⟩
  | error e =>
    cases rest with
    | nil => cases hr.symm.trans (hd.ok.2 rfl)
    | cons target rest => exact ⟨done, target, rest, hts, hd.present, hd.brought, hd.attempts⟩

end Tenancy.Operator

namespace Tenancy.Simulation

open Operator

/-! ## Simulated syncs -/

/-- Syncs that the simulation makes one after the other for the given models and patterns, and the world that they
leave. -/
def upkeep (tenant : String) (limit : Duration) : List (List String × List String) → World → List Sync × World
  | [], w => ([], w)
  | (models, patterns) :: rest, w =>
    let sync := (syncModels tenant patterns limit models).run
    let (result, w') := sync.run handle w
    let (ss, last) := upkeep tenant limit rest w'
    (⟨models, patterns, limit, w.inventory tenant, transcript sync w, result, w'.inventory tenant⟩ :: ss, last)

/-- Syncs that are simulated are syncs on a runtime that serves. -/
theorem upkeep_happens {tenant : String} {limit : Duration} {w : World} (hw : Honest w)
    (lists : List (List String × List String)) :
    Upkeep tenant (w.inventory tenant) (upkeep tenant limit lists w).1
      ((upkeep tenant limit lists w).2.inventory tenant) := by
  induction lists generalizing w with
  | nil => exact .rest (List.Subset.refl _)
  | cons list rest ih =>
    obtain ⟨models, patterns⟩ := list
    -- nobody else is at work in the simulation
    let alone : World → World → Prop := fun w m => m = w
    have hgrows : ∀ w m, alone w m → Grows tenant w m := by
      rintro w m rfl e he
      exact he
    have hhonest : ∀ w m, alone w m → Honest w → Honest m := by
      rintro w m rfl hw
      exact hw
    have halone : ∀ w, alone w w := fun _ => rfl
    have hgoes := goes_transcript halone (syncModels tenant patterns limit models).run w
    have hcourse := hgoes.plays.course hgrows hhonest (fun c m hm => ⟨hm.handle c, serves_handle c hm⟩) hw
    exact .sync (List.Subset.refl _) ⟨hgoes.yields, hcourse⟩ (ih (hgoes.plays.honest hhonest hw))

/-- A runtime that has one variant from the start, cannot make another one at first, and then lets a pull hang. -/
def laggard : World :=
  { outpost newcomer with
    runtimes := [("team-a", [.named "tiny-ai:latest"])]
    faults := [{ target := .createModel, argument := some "tiny-translate", strike := .failRuntime (.http "down") },
      { target := .pull, argument := some "big", strike := .hang }] }

/-- The same lists three times, with an unknown pattern and a model in two spellings, and then a part of them. -/
def wanted : List (List String × List String) :=
  List.replicate 3 (["tiny", "tiny:latest", "big"], ["ai", "nope", "translate"]) ++
    [(["big:latest", "tiny:latest"], ["nope"])]

/-- The syncs by which that runtime comes to hold what is wanted. -/
def catchingUp : List Sync := (upkeep "team-a" (.ofSeconds 60) wanted laggard).1

theorem upkeep_complete_once_laggard :
    catchingUp.map (·.result.isOk) = [false, false, true, true] ∧
    catchingUp.map (fun s => (attempts s.trace).map (·.name)) = [["tiny", "tiny-translate"],
      ["tiny-translate", "tiny:latest-ai", "tiny:latest-translate", "big"],
      ["big", "big-ai", "big-translate"], []] ∧
    ((catchingUp.flatMap fun s => brought s.trace).map (Model.canonical ·.name)).Nodup ∧
    ∀ target ∈ catchingUp.flatMap fun s => brought s.trace,
      Model.present [.named "tiny-ai:latest"] target.name = false := by
  have honest : .pretend ∉ laggard.faults.map (·.strike) := by decide
  obtain ⟨-, hnodup, hmissing, -⟩ := upkeep_complete_once (upkeep_happens honest wanted)
  exact ⟨by decide +kernel, by decide +kernel, hnodup, hmissing⟩

end Tenancy.Simulation
