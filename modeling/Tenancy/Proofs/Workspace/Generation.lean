/-
The generation that a report is stamped with. What a pass provisions is what it read at its start, but the
generation that it reports as observed is that of the reading right before the write (`observed_generation`). The
two are the same as long as nobody changes the specification during the pass; if somebody does, the workspace is
reported ready in a generation that no pass has looked at (`generation_ahead`).
-/
import Tenancy.Proofs.Run.Schedule
import Tenancy.Proofs.Workspace.Writes

namespace Tenancy.Operator

variable {config : Config} {name : String} {t t₁ t₂ : Trace} {r : Except Error Requeue} {x : Answered} {c : Condition}

/-- The first condition that says whether the workspace is ready, in a status that is being written. -/
def Answered.verdict? : Answered → Option Condition
  | ⟨.patchStatus _ _ status, _⟩ => status.conditions.find? (·.type = Condition.readyType)
  | _ => none

/-- The condition of a report bears the generation that was read for it. -/
theorem generation_reported {latest : Workspace} {now : String} {mark : Bool} {c c' : Condition}
    (h : (Reported latest now mark (some c)).conditions.find? (·.type = c.type) = some c') :
    c'.observedGeneration = latest.metadata.generation := by
  have htells : (Reported latest now mark (some c)).Tells c latest.metadata.generation := Status.tells_merge
  obtain ⟨_, hc, he⟩ := htells.find?
  cases hc.symm.trans h
  have hgeneration : c'.untimed.observedGeneration = latest.metadata.generation := by rw [he]; rfl
  exact hgeneration

/-- A pass that calls a workspace ready has provisioned its snapshot, and reports the generation of the reading
right before. -/
theorem PassTrace.verdict (h : PassTrace config name t r) (ht : t = t₁ ++ x :: t₂) (hx : x.verdict? = some c)
    (hyes : c.status = .yes) : ∃ ws key latest now, ∃ u : Trace,
      t₁ = ⟨.workspace name, .ok (some ws)⟩ :: (u ++ [⟨.workspace key, .ok (some latest)⟩, ⟨.now, now⟩]) ∧
      Provisions config ws u (.ok .complete) ∧ (key = name ∨ key = ws.name) ∧
      c.observedGeneration = latest.metadata.generation := by
  obtain ⟨call, y⟩ := x
  cases call with
  | patchStatus n v s =>
    obtain ⟨t₀, key, latest, now, mark, c', rfl, -, rfl, hc, hready⟩ := h.informed ht
    change (Reported latest now mark (some c')).conditions.find? (·.type = Condition.readyType) = some c at hx
    rw [← hc] at hx
    obtain ⟨ws, u, rfl, hp⟩ := hready (.inr ((status_reported hx).symm.trans hyes))
    refine ⟨ws, key, latest, now, u, rfl, hp, ?_, generation_reported hx⟩
    -- the report reads the workspace that the pass has read
    have hkey := Founded.of_pass (h.founded ht rfl).1
    rcases hkey with hkey | ⟨ws', hws, hkey⟩
    · exact .inl hkey
    · rcases List.mem_cons.1 hws with he | hu
      · cases he
        exact .inr hkey
      · exact absurd hu (hp.about.not_mem (by simp [Call.topic]))
  | _ => cases hx

end Tenancy.Operator

namespace Tenancy.Simulation

open Operator

variable {others : World → World → Prop} {name : String} {w m w' : World} {t t₁ t₂ : Trace} {x : Answered}
  {c : Condition}

/-! ## In a world -/

/-- The generation of a stored workspace. -/
def generation? (w : World) (name : String) : Option (Option Int) :=
  (w.workspace? name).map (·.metadata.generation)

/-- Others leave the specification of the workspace as it is, and every workspace under its name. -/
structure Steady (name : String) (w m : World) : Prop where
  generation : generation? m name = generation? w name
  named : Named w → Named m

theorem Steady.refl (name : String) (w : World) : Steady name w w := ⟨rfl, id⟩

/-- What has been read last is of the generation that was read first, if nobody changed it in between. -/
theorem Plays.generation (h : Plays (Steady name) w t w') (ht : ∀ x ∈ t, x.call.topic ≠ .guards ∧ x.call.topic ≠ .status) :
    generation? w' name = generation? w name := by
  refine h.keeps (P := fun m => generation? m name = generation? w name)
    (fun _ _ ho hm => ho.generation.trans hm) (fun x hx m _ hm => ?_) rfl
  unfold generation? World.workspace?
  rw [workspaces_handle x.call (ht x hx).1 (ht x hx).2]
  exact hm

/-- When a pass calls a workspace ready, it has provisioned the workspace that it read first, and the generation that
it reports is that of the workspace as it is stored right before the write. So it has provisioned at least the
generation that it reports exactly if the second reading is not newer than the first, and the two are of the same
generation if nobody changes the specification during the pass. -/
theorem observed_generation {p : Leg} (h : p.Happens others) (ht : p.trace = t₁ ++ x :: t₂)
    (hx : x.verdict? = some c) (hyes : c.status = .yes) :
    ∃ ws latest key now, ∃ u : Trace, p.trace.snapshot? = some ws ∧
      t₁ = ⟨.workspace p.name, .ok (some ws)⟩ :: (u ++ [⟨.workspace key, .ok (some latest)⟩, ⟨.now, now⟩]) ∧
      (key = p.name ∨ key = ws.name) ∧ Provisions p.config ws u (.ok .complete) ∧
      c.observedGeneration = latest.metadata.generation ∧
      (∀ g old, c.observedGeneration = some g → ws.metadata.generation = some old →
        (g ≤ old ↔ ∀ new, latest.metadata.generation = some new → new ≤ old)) ∧
      (p.Happens (Steady p.name) → Named p.start → c.observedGeneration = ws.metadata.generation) := by
  obtain ⟨ws, key, latest, now, u, rfl, hp, hkey, hgeneration⟩ := PassTrace.verdict h.trace ht hx hyes
  refine ⟨ws, latest, key, now, u, by rw [ht]; rfl, rfl, hkey, hp, hgeneration, fun g old hg hold => ?_,
    fun hsteady hnamed => ?_⟩
  · rw [hgeneration] at hg
    simp [hg]
  · have hplays := hsteady.plays
    rw [ht] at hplays
    -- the first reading, the provisioning, and the second reading
    obtain ⟨a, hfirst, hrest⟩ := (plays_append _ _ (⟨.workspace p.name, .ok (some ws)⟩ :: (u ++ [_, _])) _).1 hplays
    obtain ⟨start, hstart, hread, hmiddle⟩ := hfirst
    obtain ⟨b, hprovision, stop, hstop, hreread, -⟩ := (plays_append ..).1 hmiddle
    have hstored : start.workspace? p.name = some ws := workspace_answer hread
    obtain rfl : key = p.name := by
      rcases hkey with rfl | rfl
      · rfl
      · exact Workspace.name_of_some (hstart.named hnamed _ _ hstored)
    have hlatest : stop.workspace? p.name = some latest := workspace_answer hreread
    have hafter : generation? (handle (.workspace p.name) start).2 p.name = generation? start p.name := by
      unfold generation? World.workspace?
      rw [workspaces_handle _ (by simp [Call.topic]) (by simp [Call.topic])]
    have hkept := hstop.generation.trans ((hprovision.generation (hp.about.apart (by decide) (by decide))).trans hafter)
    unfold generation? at hkept
    rw [hstored, hlatest] at hkept
    rw [hgeneration]
    exact Option.some.inj hkept

/-! ## An edit during a pass -/

/-- A workspace of the first generation. -/
def firstling : Workspace := { newcomer with metadata := { newcomer.metadata with generation := some 1 } }

/-- Somebody replaces the specification of a workspace. -/
def Edits (w m : World) : Prop := m = w ∨ ∃ name spec, m = (w.replaceSpec name spec).bump name

/-- The specification with one more model. -/
def wish : Spec := { newcomer.spec with models := ["tiny", "late"] }

/-- The passes over a workspace until it is provisioned, with an edit during the last one. -/
def overtaken : List Visit := List.replicate 13 { name := "team" } ++ [{
  name := "team"
  amid := fun c w => match c with
    | .listRunning _ => (w.replaceSpec "team" wish).bump "team"
    | _ => w }]

/-- Whether a pass reports a generation that is later than that of the workspace it has read. -/
def Leg.ahead (p : Leg) (x : Answered) : Bool :=
  p.trace.snapshot?.any fun ws => x.verdict?.any fun c =>
    decide (c.status = .yes ∧ ws.metadata.generation = some 1 ∧ c.observedGeneration = some 2 ∧ ws.spec ≠ wish)

/-- If the specification is edited while a pass provisions what it read, the pass reports the workspace ready in the
generation of the edit. -/
theorem generation_ahead : Run Edits Alone (outpost firstling)
      (tour {} overtaken (outpost firstling)).1 (tour {} overtaken (outpost firstling)).2 ∧
    ∃ p ∈ (tour {} overtaken (outpost firstling)).1, ∃ ws, p.trace.snapshot? = some ws ∧
      ∃ x ∈ p.trace, ∃ c, x.verdict? = some c ∧ c.status = .yes ∧ ws.metadata.generation = some 1 ∧
        c.observedGeneration = some 2 ∧ ws.spec ≠ wish := by
  refine ⟨run_tour Alone.refl {} ?_ ?_ _, ?_⟩
  · simp [overtaken, Alone.refl]
  · intro visit ht c w
    simp only [overtaken, List.mem_append, List.mem_replicate, List.mem_singleton] at ht
    rcases ht with ⟨-, rfl⟩ | rfl
    · exact .inl rfl
    · show Edits w (match c with | .listRunning _ => _ | _ => w)
      split
      · exact .inr ⟨_, _, rfl⟩
      · exact .inl rfl
  · have hahead : (tour {} overtaken (outpost firstling)).1.any (fun p => p.trace.any p.ahead) = true := by
      decide +kernel
    obtain ⟨p, hp, hany⟩ := List.any_eq_true.1 hahead
    obtain ⟨x, hx, hany⟩ := List.any_eq_true.1 hany
    obtain ⟨ws, hsnap, hany⟩ := (Option.any_eq_true _ _).1 hany
    obtain ⟨c, hc, hall⟩ := (Option.any_eq_true _ _).1 hany
    exact ⟨p, hp, ws, hsnap, x, hx, c, hc, of_decide_eq_true hall⟩

/-- Without an edit it is the generation that was provisioned. -/
theorem observed_generation_firstling : ∃ p ∈ (passes {} "team" 14 (outpost firstling)).1, ∃ ws,
    p.trace.snapshot? = some ws ∧ ∃ x ∈ p.trace, ∃ c, x.verdict? = some c ∧ c.status = .yes ∧
      c.observedGeneration = ws.metadata.generation := by
  have hrun : Run (Steady "team") Alone (outpost firstling) (passes {} "team" 14 (outpost firstling)).1 _ :=
    run_passes (Steady.refl "team") Alone.refl {} "team" 14 _
  have hready : (passes {} "team" 14 (outpost firstling)).1.any (fun p => p.trace.any fun x =>
      x.verdict?.any fun c => decide (c.status = .yes)) = true := by
    decide +kernel
  obtain ⟨p, hp, hany⟩ := List.any_eq_true.1 hready
  obtain ⟨x, hx, hany⟩ := List.any_eq_true.1 hany
  obtain ⟨c, hc, hyes⟩ := (Option.any_eq_true _ _).1 hany
  obtain ⟨t₁, t₂, ht⟩ := List.append_of_mem hx
  obtain ⟨hhap, _, _, -, hbefore, -⟩ := hrun.upto Alone.refl hp
  have hnamed : Named p.start := hbefore.keeps (fun _ _ hb hm => hb ▸ hm)
    (fun q _ hq hm => hq.plays.keeps (fun _ _ ho => ho.named) (fun x _ _ _ hm => hm.handle x.call) hm) (named_outpost rfl)
  obtain ⟨ws, -, -, -, -, hsnap, -, -, -, -, -, hsame⟩ := observed_generation hhap ht hc (of_decide_eq_true hyes)
  have hname : p.name = "team" := (passes_mem hp).2
  refine ⟨p, hp, ws, hsnap, x, hx, c, hc, of_decide_eq_true hyes, hsame ?_ hnamed⟩
  rw [hname]
  exact hhap

end Tenancy.Simulation
