/-
Reports that say nothing new. A report is left out if the status says it already, times apart. Nothing is lost by
that: an update that changes no more than times changes not even these (`merge_eq_self_iff`), since a condition takes
over the time of the one it replaces unless its truth is another. And whether a status says a report does not depend
on the clock (`sameIgnoringTime_merge`), so a report that went well leaves a workspace that has nothing more to learn
from it (`told_of_reports`), and made again it writes nothing (`repeated_report`).
-/
import Tenancy.Proofs.Run.Frame
import Tenancy.Proofs.Workspace.Status

namespace Tenancy

/-! ## Conditions -/

namespace Condition

variable {now : String} {c old : Condition} {l : List Condition}

/-- Two conditions that differ in their times only are the same once they have the same time. -/
theorem eq_of_untimed (h : c.untimed = old.untimed) :
    { c with lastTransitionTime := old.lastTransitionTime } = old := by
  obtain ⟨type, status, reason, message, generation, time⟩ := c
  obtain ⟨type', status', reason', message', generation', time'⟩ := old
  simp only [untimed, Condition.mk.injEq] at h ⊢
  exact ⟨h.1, h.2.1, h.2.2.1, h.2.2.2.1, h.2.2.2.2.1, trivial⟩

/-- Putting a condition in its place changes more than times, or nothing. -/
theorem upsert_eq_self (h : (upsert now c l).map untimed = l.map untimed) : upsert now c l = l := by
  induction l with
  | nil => cases h
  | cons old rest ih =>
    rw [upsert] at h ⊢
    split at h
    next htype =>
      obtain ⟨hhead, -⟩ := List.cons.inj h
      have hsame : c.untimed = old.untimed := hhead
      have hstatus : old.status = c.status := (congrArg Condition.status hsame).symm
      rw [if_pos htype, if_pos hstatus, eq_of_untimed hsame]
    next htype =>
      obtain ⟨-, htail⟩ := List.cons.inj h
      rw [if_neg htype, ih htail]

end Condition

/-! ## Statuses -/

namespace Status

variable {s : Status} {now : String} {mark : Bool} {c : Option Condition} {generation : Option Int}

/-- An update that says nothing new changes nothing, times included. -/
theorem merge_eq_self_iff :
    s.sameIgnoringTime (s.merge now mark c generation) = true ↔ s.merge now mark c generation = s := by
  rw [sameIgnoringTime_iff]
  constructor
  · rintro ⟨hcreated, hconditions⟩
    obtain ⟨created, conditions⟩ := s
    have hlist : (merge now ⟨created, conditions⟩ mark c generation).conditions = conditions := by
      cases c with
      | none => rfl
      | some c => exact Condition.upsert_eq_self hconditions.symm
    exact congr (congrArg Status.mk hcreated.symm) hlist
  · intro h
    rw [h]
    exact ⟨rfl, rfl⟩

/-- The status says what a report says, as of the generation, and has the mark if the report sets it. -/
def Holds (s : Status) (mark : Bool) (c : Option Condition) (generation : Option Int) : Prop :=
  (mark = true → s.isCreated = true) ∧ ∀ c' ∈ c, s.Tells c' generation

/-- Whatever the clock shows, a report is left out exactly if the status says it. -/
theorem sameIgnoringTime_merge :
    s.sameIgnoringTime (s.merge now mark c generation) = true ↔ s.Holds mark c generation := by
  cases c with
  | none =>
    rw [sameIgnoringTime_iff, Holds]
    show s.isCreated = (s.isCreated || mark) ∧ s.conditions.map _ = s.conditions.map _ ↔ _
    cases s.isCreated <;> cases mark <;> simp
  | some c => simp only [sameIgnoringTime_merge_iff, Holds, Option.mem_some_iff, forall_eq']

/-- What has been merged is said. -/
theorem holds_merge : (s.merge now mark c generation).Holds mark c generation := by
  refine ⟨fun hmark => ?_, ?_⟩
  · show (s.isCreated || mark) = true
    rw [hmark, Bool.or_true]
  · rintro c' ⟨⟩
    exact tells_merge

end Status

namespace Simulation

open Operator

variable {name : String} {mark : Bool} {c : Option Condition} {w w' m m' : World} {t t' : Trace}
  {r : Except Error Unit}

/-! ## One report -/

/-- Others may do anything but write the workspace `name`. -/
def Bypasses (name : String) (w m : World) : Prop := m.workspace? name = w.workspace? name

theorem Bypasses.refl (name : String) (w : World) : Bypasses name w w := rfl

/-- The workspace under `name`, if there is one, goes by this name. -/
def Filed (name : String) (w : World) : Prop := ∀ ws, w.workspace? name = some ws → ws.name = name

/-- The workspace under `name`, if there is one, has nothing to learn from a report. -/
def Told (name : String) (mark : Bool) (c : Option Condition) (w : World) : Prop :=
  ∀ ws, w.workspace? name = some ws → (ws.status.getD {}).Holds mark c ws.metadata.generation

/-- What a trace reads first is what was stored at its start. -/
theorem stored_of_reading {x : Option Workspace} (h : Plays (Bypasses name) w (⟨.workspace name, .ok x⟩ :: t) w') :
    w.workspace? name = x := by
  obtain ⟨a, ha, hread, -⟩ := h
  exact ha.symm.trans (workspace_answer hread)

/-- A trace that writes on no workspace leaves this one. -/
theorem Plays.bypasses (h : Plays (Bypasses name) w t w') (ht : t.About [.reading, .clock]) : Bypasses name w w' :=
  h.workspace? (fun _ _ ho => ho) (ht.apart (by decide) (by decide))

/-- A status that is written is what is then stored. -/
theorem workspace?_patched {version : Option String} {status : Status} {latest : Workspace}
    (hstored : m.workspace? name = some latest) (h : (handle (.patchStatus name version status) m).1 = .ok ()) :
    ∃ v, (handle (.patchStatus name version status) m).2.workspace? name =
      some (revise { latest with status := some status } v) := by
  have hrewrites := patchStatus_rewrites name version status m name
  generalize (handle (.patchStatus name version status) m).2.workspace? name = after at hrewrites ⊢
  rw [h, hstored] at hrewrites
  cases hrewrites with
  | kept _ _ _ hno => exact absurd rfl (hno version status)
  | reported _ v => exact ⟨v, rfl⟩

theorem about_reading (x : Except Error (Option Workspace)) : Trace.About [.reading, .clock] [⟨.workspace name, x⟩] := by
  simp [Trace.About, Call.topic]

theorem about_readings (x : Except Error (Option Workspace)) (now : String) :
    Trace.About [.reading, .clock] [⟨.workspace name, x⟩, ⟨.now, now⟩] := by
  simp [Trace.About, Call.topic]

/-- A report that went well has told the workspace. -/
theorem told_of_reports (h : Reports name mark c t (.ok ())) (hplays : Plays (Bypasses name) w t w')
    (hfiled : Filed name w) : Told name mark c w' := by
  intro ws hws
  cases h with
  | gone =>
    have hsame := hplays.bypasses (about_reading _)
    cases (hsame.symm.trans hws).symm.trans (stored_of_reading hplays)
  | @unchanged latest now hsays =>
    have hsame := hplays.bypasses (about_readings _ _)
    cases (hsame.symm.trans hws).symm.trans (stored_of_reading hplays)
    exact Status.sameIgnoringTime_merge.1 hsays
  | @written latest now _ _ =>
    have hstored := stored_of_reading hplays
    obtain ⟨a, hreads, b, hb, hpatch, rfl⟩ := (plays_append _ _ [_, _] [_]).1 hplays
    have hbefore : b.workspace? name = some latest := (hb.trans (hreads.bypasses (about_readings _ _))).trans hstored
    obtain rfl : latest.name = name := hfiled latest hstored
    obtain ⟨v, hpatched⟩ := workspace?_patched hbefore hpatch
    cases hpatched.symm.trans hws
    exact Status.holds_merge

/-- A report to a workspace that was told writes nothing. -/
theorem quiet_of_told (h : Reports name mark c t r) (hplays : Plays (Bypasses name) w t w') (htold : Told name mark c w) :
    t.About [.reading, .clock] := by
  cases h with
  | unread | gone => exact about_reading _
  | unchanged => exact about_readings _ _
  | @written latest now _ hdiffers =>
    have hholds := htold latest (stored_of_reading hplays)
    cases hdiffers.symm.trans (Status.sameIgnoringTime_merge.2 hholds)

/-! ## Reports made again -/

/-- A report is left out only where the status that it would have written is the stored one, whatever its conditions
and whatever the clock shows. And once a report has gone well, the same report writes nothing, at whatever time it is
made and whatever happens meanwhile, as long as nobody else writes the workspace. -/
theorem repeated_report :
    (∀ (s : Status) (now : String) (mark : Bool) (c : Option Condition) (generation : Option Int),
      s.sameIgnoringTime (s.merge now mark c generation) = true ↔ s.merge now mark c generation = s) ∧
    ∀ {name : String} {mark : Bool} {c : Option Condition} {w w' m m' : World} {t t' : Trace} {r : Except Error Unit},
      Filed name w → Goes (Bypasses name) (report name mark c).run w t (.ok ()) w' → Bypasses name w' m →
        Goes (Bypasses name) (report name mark c).run m t' r m' →
          (∀ x ∈ t', x.call.topic ≠ .status) ∧ Bypasses name m m' := by
  refine ⟨fun _ _ _ _ _ => Status.merge_eq_self_iff, fun hfiled hfirst hmeanwhile hagain => ?_⟩
  have htold := told_of_reports (report_yields hfirst.yields) hfirst.plays hfiled
  have hstill : Told _ _ _ _ := fun ws hws => htold ws (hmeanwhile.symm.trans hws)
  have hquiet := quiet_of_told (report_yields hagain.yields) hagain.plays hstill
  exact ⟨hquiet.ne (by decide), hagain.plays.bypasses hquiet⟩

/-- A workspace that lists two conditions of one type, neither of which says that it is ready. -/
def doubtful : Workspace :=
  { metadata := { newcomer.metadata with generation := some 3 }
    spec := newcomer.spec
    status := some { conditions := [
      { Condition.progressing "created Namespace" with lastTransitionTime := some "2020" },
      { Condition.progressing "created Service" with lastTransitionTime := some "2021" }] } }

def dawn : World := { outpost doubtful with clock := "2024" }

/-- The report that a workspace is there and ready. -/
def verdict : Operation Unit := report "team" true (some Condition.ready)

/-- Years after the report, when children have come and gone. -/
def dusk : World := { (perform verdict dawn).2 with clock := "2030", children := [] }

/-- What a workspace says whose first condition was replaced. -/
def settledStatus : Status :=
  { isCreated := true
    conditions := [{ Condition.ready with observedGeneration := some 3, lastTransitionTime := some "2024" },
      { Condition.progressing "created Service" with lastTransitionTime := some "2021" }] }

/-- A doubtful workspace is reported ready with a write, and again years later without one; another generation would
be news. -/
theorem repeated_report_doubtful :
    (perform verdict dawn).1 = .ok () ∧ (transcript verdict.run dawn).any (·.call.topic = .status) = true ∧
    (dusk.workspace? "team").bind (·.status) = some settledStatus ∧
    (∀ x ∈ transcript verdict.run dusk, x.call.topic ≠ .status) ∧
    settledStatus.merge "2030" true (some Condition.ready) (some 3) = settledStatus ∧
    settledStatus.merge "2030" true (some Condition.ready) (some 4) ≠ settledStatus := by
  obtain ⟨hlossless, hagain⟩ := repeated_report
  have hok : (verdict.run.run handle dawn).1 = .ok () := by decide +kernel
  have hfiled : Filed "team" dawn := by
    rintro ws ⟨⟩
    rfl
  have hfirst := goes_transcript (Bypasses.refl "team") verdict.run dawn
  rw [hok] at hfirst
  obtain ⟨hquiet, -⟩ := hagain hfiled hfirst (m := dusk) rfl (goes_transcript (Bypasses.refl "team") verdict.run dusk)
  exact ⟨hok, by decide +kernel, by decide +kernel, hquiet, (hlossless ..).1 (by decide +kernel),
    fun h => absurd ((hlossless ..).2 h) (by decide +kernel)⟩

end Simulation
end Tenancy
