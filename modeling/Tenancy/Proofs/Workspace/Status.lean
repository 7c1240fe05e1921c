/-
What a report does to a status. Without the times, putting a condition in its place depends on the
conditions without their times only, and doing it twice is doing it once (`place_place`). So a status that
says it already (`Tells`) is one that the report leaves alone, whatever the clock shows.
-/
import Tenancy.Operator.Report
import Mathlib.Tactic

namespace Tenancy

/-! ## Conditions without their times -/

namespace Condition

def untimed (c : Condition) : Condition := { c with lastTransitionTime := none }

/-- Puts a condition in place of the first of its type, or at the end. -/
def place (c : Condition) : List Condition → List Condition
  | [] => [c]
  | old :: rest => if old.type = c.type then c :: rest else old :: place c rest

theorem untimed_upsert (now : String) (c : Condition) (l : List Condition) :
    (upsert now c l).map untimed = place c.untimed (l.map untimed) := by
  induction l with
  | nil => rfl
  | cons old rest ih =>
    by_cases h : old.type = c.type
    · rw [upsert, if_pos h, List.map_cons, List.map_cons, place, if_pos (show old.untimed.type = c.untimed.type from h)]
      rfl
    · rw [upsert, if_neg h, List.map_cons, List.map_cons, place, if_neg (show ¬old.untimed.type = c.untimed.type from h),
        ih]

theorem place_place (c : Condition) (l : List Condition) : place c (place c l) = place c l := by
  induction l with
  | nil => rw [place, place, if_pos rfl]
  | cons old rest ih =>
    by_cases h : old.type = c.type
    · rw [place, if_pos h, place, if_pos rfl]
    · rw [place, if_neg h, place, if_neg h, ih]

/-- The condition is then the first of its type. -/
theorem find?_place (c : Condition) (l : List Condition) : (place c l).find? (·.type = c.type) = some c := by
  induction l with
  | nil => exact List.find?_cons_of_pos (decide_eq_true rfl)
  | cons old rest ih =>
    by_cases h : old.type = c.type
    · rw [place, if_pos h]
      exact List.find?_cons_of_pos (decide_eq_true rfl)
    · rw [place, if_neg h, List.find?_cons_of_neg (by simpa using h)]
      exact ih

end Condition

/-! ## Statuses -/

namespace Status

open Condition

/-- The status says what the condition says, as of the generation. -/
def Tells (s : Status) (c : Condition) (generation : Option Int) : Prop :=
  place { c with observedGeneration := generation }.untimed (s.conditions.map untimed) = s.conditions.map untimed

theorem sameIgnoringTime_iff (a b : Status) : a.sameIgnoringTime b = true ↔
    a.isCreated = b.isCreated ∧ a.conditions.map untimed = b.conditions.map untimed := by
  unfold sameIgnoringTime
  rw [decide_eq_true_iff]
  constructor
  · intro h
    have hc : a.timeless.isCreated = b.timeless.isCreated := by rw [h]
    have hl : a.timeless.conditions = b.timeless.conditions := by rw [h]
    exact ⟨hc, hl⟩
  · rintro ⟨h, h'⟩
    show Status.mk a.isCreated (a.conditions.map untimed) = Status.mk b.isCreated (b.conditions.map untimed)
    rw [h, h']

variable {s : Status} {now : String} {mark : Bool} {c : Condition} {generation : Option Int}

/-- A report is left out exactly if the status says it already and the mark is there if it is to be set. -/
theorem sameIgnoringTime_merge_iff : s.sameIgnoringTime (s.merge now mark (some c) generation) = true ↔
    (mark = true → s.isCreated = true) ∧ s.Tells c generation := by
  rw [sameIgnoringTime_iff]
  refine and_congr ?_ ?_
  · show s.isCreated = (s.isCreated || mark) ↔ _
    cases s.isCreated <;> cases mark <;> decide
  · show s.conditions.map untimed = (upsert now _ s.conditions).map untimed ↔ _
    rw [untimed_upsert]
    exact eq_comm

/-- What has been reported is said. -/
theorem tells_merge : (s.merge now mark (some c) generation).Tells c generation := by
  show place _ ((upsert now _ s.conditions).map untimed) = (upsert now _ s.conditions).map untimed
  rw [untimed_upsert, place_place]

/-- A status that says a condition has it as the first of its type. -/
theorem Tells.find? (h : s.Tells c generation) : ∃ c', s.conditions.find? (·.type = c.type) = some c' ∧
    c'.untimed = { c with observedGeneration := generation }.untimed := by
  have hfind := find?_place { c with observedGeneration := generation }.untimed (s.conditions.map untimed)
  rw [show place _ _ = _ from h, List.find?_map] at hfind
  obtain ⟨c', hc', he⟩ := Option.map_eq_some_iff.1 hfind
  exact ⟨c', hc', he⟩

end Status

/-! ## Workspaces -/

theorem Workspace.isCreated_getD (ws : Workspace) : (ws.status.getD {}).isCreated = ws.isCreated := by
  unfold isCreated
  cases ws.status <;> rfl

theorem Workspace.name_of_some {ws : Workspace} {name : String} (h : ws.metadata.name = some name) :
    ws.name = name := by
  unfold Workspace.name Object.Meta.displayName
  rw [h]
  rfl

end Tenancy
