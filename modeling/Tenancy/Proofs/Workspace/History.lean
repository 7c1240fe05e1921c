/-
What a status says after any number of updates. An update gives a condition for at most one type and leaves the
conditions of all other types alone, so each type has a history of its own (`Update.given?`), and the time of its
condition is that of the last turn of its truth in this history (`lastTurn`), whatever times the updates brought with
them. What one update does is said once (`condition?_apply`); the law of a whole history (`replay_history`) follows
by induction on the updates.
-/
import Tenancy.Operator.Report
import Mathlib.Tactic

namespace Tenancy

/-! ## Turns -/

namespace Condition

/-- The types of conditions, in their order. -/
def types (l : List Condition) : List String := l.map (·.type)

/-- The condition with another time of its last change of truth. -/
def since (c : Condition) (time : Option String) : Condition := { c with lastTransitionTime := time }

/-- The times at which conditions that follow an old truth are the first of theirs: a condition that is new, or of
another truth than the one before it. -/
def turns : Option Truth → List (String × Condition) → List String
  | _, [] => []
  | truth, (now, c) :: rest =>
    if truth = some c.status then turns truth rest else now :: turns (some c.status) rest

/-- The time of the last turn in a history that follows an old condition, or the old time if nothing turned. -/
def lastTurn (old : Option Condition) (history : List (String × Condition)) : Option String :=
  (turns (old.map (·.status)) history).getLast?.or (old.bind (·.lastTransitionTime))

theorem turns_cons (truth : Option Truth) (now : String) (c : Condition) (rest : List (String × Condition)) :
    turns truth ((now, c) :: rest) =
      if truth = some c.status then turns truth rest else now :: turns (some c.status) rest := rfl

/-- The first condition of a history can stand for what came before it. -/
theorem lastTurn_cons (old : Option Condition) (now : String) (c : Condition) (rest : List (String × Condition)) :
    lastTurn (some (c.since (lastTurn old [(now, c)]))) rest = lastTurn old ((now, c) :: rest) := by
  show (turns (some c.status) rest).getLast?.or (lastTurn old [(now, c)]) = _
  rw [lastTurn, lastTurn, turns_cons, turns_cons]
  by_cases h : old.map (·.status) = some c.status
  · rw [if_pos h, if_pos h, h]
    rfl
  · rw [if_neg h, if_neg h, @List.getLast?_cons _ (turns (some c.status) rest)]
    cases (turns (some c.status) rest).getLast? <;> rfl

/-! ## One condition -/

theorem upsert_nil (now : String) (c : Condition) : upsert now c [] = [c.since (lastTurn none [(now, c)])] := rfl

theorem upsert_cons (now : String) (c old : Condition) (rest : List Condition) : upsert now c (old :: rest) =
    if old.type = c.type then c.since (lastTurn (some old) [(now, c)]) :: rest else old :: upsert now c rest := by
  rw [upsert]
  by_cases hs : old.status = c.status <;> simp [lastTurn, turns, since, hs]

/-- The condition takes the place of the first of its type, and no other type has another first one. -/
theorem find?_upsert (now : String) (c : Condition) (l : List Condition) (k : String) :
    (upsert now c l).find? (·.type = k) =
      if c.type = k then some (c.since (lastTurn (l.find? (·.type = k)) [(now, c)])) else l.find? (·.type = k) := by
  induction l with
  | nil =>
    rw [upsert_nil, List.find?_singleton]
    by_cases hk : c.type = k <;> simp [since, hk]
  | cons old rest ih =>
    rw [upsert_cons]
    by_cases hc : old.type = c.type
    · by_cases hk : c.type = k <;> simp [since, hc, hk]
    · by_cases ho : old.type = k
      · have hk : c.type ≠ k := fun hk => hc (ho.trans hk.symm)
        rw [if_neg hc, if_neg hk]
        simp [ho]
      · simp [hc, ho, ih]

theorem types_upsert (now : String) (c : Condition) (l : List Condition) :
    types (upsert now c l) = if c.type ∈ types l then types l else types l ++ [c.type] := by
  induction l with
  | nil => rfl
  | cons old rest ih =>
    rw [upsert_cons]
    by_cases hc : old.type = c.type
    · rw [if_pos hc, if_pos (by simp [types, hc])]
      show c.type :: types rest = old.type :: types rest
      rw [hc]
    · rw [if_neg hc]
      show old.type :: types (upsert now c rest) = _
      have hmem : c.type ∈ types (old :: rest) ↔ c.type ∈ types rest := by
        simp [types, Ne.symm hc]
      rw [ih]
      simp only [hmem]
      split <;> rfl

end Condition

/-! ## One update -/

/-- An update of a status, with the time at which it is made. -/
structure Update where
  now : String
  mark : Bool := false
  condition : Option Condition := none
  generation : Option Int := none
  deriving DecidableEq, Repr

namespace Update

/-- What an update gives for a type, as of its generation, and when. -/
def given? (k : String) (u : Update) : Option (String × Condition) :=
  (u.condition.filter (·.type = k)).map fun c => (u.now, { c with observedGeneration := u.generation })

/-- The type for which an update gives a condition. -/
def type? (u : Update) : Option String := u.condition.map (·.type)

end Update

namespace Status

open Condition

variable {s : Status}

/-- The condition of a type. -/
def condition? (s : Status) (k : String) : Option Condition := s.conditions.find? (·.type = k)

def apply (s : Status) (u : Update) : Status := s.merge u.now u.mark u.condition u.generation

/-- An update puts what it gives for a type in the place of what the type had, and leaves all other types alone. -/
theorem condition?_apply (s : Status) (u : Update) (k : String) :
    (s.apply u).condition? k = match u.given? k with
      | none => s.condition? k
      | some (now, c) => some (c.since (lastTurn (s.condition? k) [(now, c)])) := by
  unfold condition? apply merge Update.given?
  cases hu : u.condition with
  | none => rfl
  | some c =>
    refine (find?_upsert u.now { c with observedGeneration := u.generation } s.conditions k).trans ?_
    by_cases hk : c.type = k
    · rw [if_pos hk, Option.filter_some_pos (by simpa using hk)]
      rfl
    · rw [if_neg hk, Option.filter_some_neg (by simpa using hk)]
      rfl

theorem types_apply (s : Status) (u : Update) : types (s.apply u).conditions =
    types s.conditions ++ u.type?.toList.filter (· ∉ types s.conditions) := by
  unfold apply merge Update.type?
  cases u.condition with
  | none => simp
  | some c =>
    refine (types_upsert u.now { c with observedGeneration := u.generation } s.conditions).trans ?_
    show (if c.type ∈ types s.conditions then _ else types s.conditions ++ [c.type]) = _
    by_cases hc : c.type ∈ types s.conditions <;> simp [hc]

theorem nodup_apply (h : (types s.conditions).Nodup) (u : Update) : (types (s.apply u).conditions).Nodup := by
  rw [types_apply]
  refine h.append ?_ fun k hk hf => ?_
  · exact ((Option.toList_nodup u.type?).filter _)
  · simpa [hk] using (List.mem_filter.1 hf).2

/-! ## Histories -/

/-- A status after updates, one after the other. -/
def replay (s : Status) (us : List Update) : Status := us.foldl apply s

theorem replay_cons (s : Status) (u : Update) (us : List Update) : s.replay (u :: us) = (s.apply u).replay us := rfl

theorem isCreated_replay (s : Status) (us : List Update) :
    (s.replay us).isCreated = (s.isCreated || us.any (·.mark)) := by
  induction us generalizing s with
  | nil => exact (Bool.or_false _).symm
  | cons u us ih =>
    rw [replay_cons, ih, List.any_cons, ← Bool.or_assoc]
    rfl

theorem nodup_replay (h : (types s.conditions).Nodup) (us : List Update) : (types (s.replay us).conditions).Nodup := by
  induction us generalizing s with
  | nil => exact h
  | cons u us ih => exact ih (nodup_apply h u)

/-- The types that are there stay where they are; behind them come the others in the order in which they are first
given. -/
theorem types_replay (s : Status) (us : List Update) : types (s.replay us).conditions =
    types s.conditions ++ ((us.filterMap Update.type?).filter (· ∉ types s.conditions)).eraseDups := by
  induction us generalizing s with
  | nil => exact (List.append_nil _).symm
  | cons u us ih =>
    rw [replay_cons, ih, types_apply]
    cases ht : u.type? with
    | none => simp [List.filterMap_cons_none ht]
    | some k =>
      rw [List.filterMap_cons_some ht]
      by_cases hk : k ∈ types s.conditions
      · simp [hk]
      · -- from now on the new type counts as one that is there
        have hrest : ((us.filterMap Update.type?).filter (· ∉ types s.conditions)).filter (fun k' => !k' == k) =
            (us.filterMap Update.type?).filter (· ∉ types s.conditions ++ [k]) := by
          rw [List.filter_filter]
          refine List.filter_congr fun k' _ => ?_
          rw [Bool.and_comm]
          simp [not_or, beq_eq_decide]
        rw [List.filter_cons_of_pos (by simpa using hk), List.eraseDups_cons, hrest, Option.toList_some,
          List.filter_cons_of_pos (by simpa using hk), List.filter_nil, List.append_assoc, List.singleton_append]

/-- The condition of a type is the last one given for it, since its last turn. -/
theorem condition?_replay (s : Status) (us : List Update) (k : String) :
    (s.replay us).condition? k = match (us.filterMap (Update.given? k)).getLast? with
      | none => s.condition? k
      | some (_, c) => some (c.since (lastTurn (s.condition? k) (us.filterMap (Update.given? k)))) := by
  induction us generalizing s with
  | nil => rfl
  | cons u us ih =>
    rw [replay_cons, ih, condition?_apply]
    cases hu : u.given? k with
    | none => rw [List.filterMap_cons_none hu]
    | some x =>
      obtain ⟨now, c⟩ := x
      rw [List.filterMap_cons_some hu, List.getLast?_cons]
      simp only [lastTurn_cons]
      cases h : (us.filterMap (Update.given? k)).getLast? with
      | none =>
        rw [List.getLast?_eq_none_iff.1 h]
        rfl
      | some last => rfl

/-- After any updates of a status with one condition for each type: there is still one for each type; those that
were there are in their old order, and new ones stand behind them in the order in which they were first given; the
mark is there if it was or if an update set it; a type for which no update gave a condition has what it had; and any
other has the last condition given for it, as of the generation of that update, with the time of the last update by
which the condition appeared or its truth changed, or with its old time if there was none. -/
theorem replay_history (h : (types s.conditions).Nodup) (us : List Update) :
    (types (s.replay us).conditions).Nodup ∧
    types (s.replay us).conditions =
      types s.conditions ++ ((us.filterMap Update.type?).filter (· ∉ types s.conditions)).eraseDups ∧
    (s.replay us).isCreated = (s.isCreated || us.any (·.mark)) ∧
    ∀ k, let history := us.filterMap (Update.given? k)
      (history = [] → (s.replay us).condition? k = s.condition? k) ∧
      ∀ now c, history.getLast? = some (now, c) →
        (s.replay us).condition? k = some (c.since (lastTurn (s.condition? k) history)) := by
  refine ⟨nodup_replay h us, types_replay s us, isCreated_replay s us, fun k => ⟨fun hnil => ?_, fun now c hlast => ?_⟩⟩
  · rw [condition?_replay, hnil]
    rfl
  · rw [condition?_replay, hlast]

/-- A status with a condition of the reconciler and one of another writer. -/
def shared : Status :=
  { conditions := [{ Condition.progressing "waiting" with lastTransitionTime := some "1" },
      { type := "Stored", status := .yes, reason := "Copied", lastTransitionTime := some "2" }] }

/-- A condition of another writer, who brings a time along. -/
def foreign (type : String) (status : Truth) (reason : String) : Condition :=
  { type, status, reason, lastTransitionTime := some "0" }

/-- Updates of both conditions and of a new one. -/
def restless : List Update :=
  [{ now := "3", condition := some .ready, generation := some 1 },
    { now := "4", condition := some (foreign "Stored" .yes "Checked"), generation := some 2 },
    { now := "5", mark := true },
    { now := "6", condition := some (foreign "Linked" .unknown "Asked") },
    { now := "7", condition := some (foreign "Ready" .yes "Again"), generation := some 3 }]

theorem replay_history_restless : (types shared.conditions).Nodup ∧
    types (shared.replay restless).conditions = ["Ready", "Stored", "Linked"] ∧
    (shared.replay restless).isCreated = true ∧
    (shared.replay restless).condition? "Ready" =
      some { foreign "Ready" .yes "Again" with observedGeneration := some 3, lastTransitionTime := some "3" } ∧
    (shared.replay restless).condition? "Stored" =
      some { foreign "Stored" .yes "Checked" with observedGeneration := some 2, lastTransitionTime := some "2" } ∧
    (shared.replay restless).condition? "Linked" =
      some { foreign "Linked" .unknown "Asked" with lastTransitionTime := some "6" } := by
  have hnodup : (types shared.conditions).Nodup := by decide
  obtain ⟨-, htypes, hcreated, hconditions⟩ := replay_history hnodup restless
  have last := fun k => (hconditions k).2
  exact ⟨hnodup, htypes.trans (by decide), hcreated.trans (by decide), (last "Ready" _ _ rfl).trans (by decide),
    (last "Stored" _ _ rfl).trans (by decide), (last "Linked" _ _ rfl).trans (by decide)⟩

end Status
end Tenancy
