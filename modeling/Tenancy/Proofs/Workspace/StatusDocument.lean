/-
Statuses as documents. What is written of a status is read back (`Status.decode_toJson`), and one that was read has
generations of 64 bits, so what a report makes of it can be written again. A status without conditions does not mention
them, and a patch leaves alone what it does not mention; but a report drops no condition, so there were none before
(`Status.conditions_merge`). Hence the status that a patch leaves behind is the one that was meant
(`decode_mergePatch`).
-/
import Tenancy.Operator.Report
import Tenancy.Proofs.Json.Records
import Tenancy.Proofs.Workspace.Patch

namespace Tenancy

open Decoder
open Dict (Once get? under)

/-! ## Generations -/

/-- A whole number of 64 bits, one of them for the sign. -/
def Signed64 (i : Int) : Prop := -2 ^ 63 ≤ i ∧ i < 2 ^ 63

theorem int64_int {i : Int} (h : Signed64 i) : int64 (.ofJson (.int i)) = some i := by
  have hrange : -Int.pow 2 63 ≤ i ∧ i ≤ Int.pow 2 63 - 1 := ⟨h.1, Int.le_sub_one_of_lt h.2⟩
  exact if_pos hrange

theorem signed64_of_int64 {w : Written} {i : Int} (h : int64 w = some i) : Signed64 i := by
  unfold int64 int at h
  split at h
  next j =>
    obtain ⟨hrange, ⟨⟩⟩ := Option.ite_none_right_eq_some.1 h
    exact ⟨hrange.1, Int.lt_of_le_sub_one hrange.2⟩
  · cases h

theorem Signed64.fits {i : Int} (h : Signed64 i) : Number.fits (.int i) = true := by
  obtain ⟨hlow, hhigh⟩ := h
  cases i with
  | ofNat n =>
    have hn : (n : Int) < 2 ^ 63 := hhigh
    rw [Number.fits, decide_eq_true_eq]
    omega
  | negSucc n =>
    rw [Number.fits, decide_eq_true_eq]
    omega

/-! ## Conditions -/

theorem Truth.decode_text (t : Truth) : decode (.ofJson (.str t.text)) = some t := by
  cases t <;> decide +kernel

namespace Condition

/-- The generation that a condition is about has 64 bits. -/
def InRange (c : Condition) : Prop := ∀ g ∈ c.observedGeneration, Signed64 g

variable {c : Condition} {w : Written}

/-- What is written of a condition. -/
def members (c : Condition) : List (String × Option Json) :=
  [("type", some (.str c.type)), ("status", some (.str c.status.text)), ("reason", some (.str c.reason)),
    ("message", some (.str c.message)), ("observedGeneration", c.observedGeneration.map .int),
    ("lastTransitionTime", c.lastTransitionTime.map .str)]

theorem toJson_eq (c : Condition) : c.toJson = .present c.members := rfl

theorem decode_toJson (h : c.InRange) : decode (.ofJson c.toJson) = some c := by
  have hnodup : (c.members.map (·.1)).Nodup := by simp [members]
  obtain ⟨s, hs, hslot⟩ :=
    slots_present hnodup ["type", "status", "reason", "message", "observedGeneration", "lastTransitionTime"]
  have htype := hslot "type" (by simp) (some (.str c.type)) (by simp [members, get?])
  have hstatus := hslot "status" (by simp) (some (.str c.status.text)) (by simp [members, get?])
  have hreason := hslot "reason" (by simp) (some (.str c.reason)) (by simp [members, get?])
  have hmessage := hslot "message" (by simp) (some (.str c.message)) (by simp [members, get?])
  have hgeneration := hslot "observedGeneration" (by simp) (c.observedGeneration.map .int) (by simp [members, get?])
  have htime := hslot "lastTransitionTime" (by simp) (c.lastTransitionTime.map .str) (by simp [members, get?])
  have hreads : ∀ g ∈ c.observedGeneration, nullable int64 (.ofJson (.int g)) = some (some g) := by
    intro g hg
    show (int64 (.ofJson (.int g))).map some = _
    rw [int64_int (h g hg)]
    rfl
  have htexts : ∀ time ∈ c.lastTransitionTime, nullable text (.ofJson (.str time)) = some (some time) := fun _ _ => rfl
  rw [toJson_eq]
  unfold decode
  rw [hs]
  simp only [Option.bind_eq_bind, Option.bind_some, required_of htype, required_of hstatus, required_of hreason,
    defaulted_of hmessage, Truth.decode_text, optional_of hgeneration hreads, optional_of htime htexts]
  rfl

/-- Whatever is read as a condition can be written. -/
theorem inRange_of_decode (h : decode w = some c) : c.InRange := by
  unfold decode at h
  simp only [Option.bind_eq_bind, Option.bind_eq_some_iff] at h
  obtain ⟨s, -, type, -, status, -, reason, -, message, -, generation, hgeneration, time, -, ⟨⟩⟩ := h
  intro g hg
  obtain rfl : generation = some g := hg
  obtain ⟨w, hw⟩ := optional_eq_some hgeneration
  exact signed64_of_int64 hw

theorem fits_toJson (h : c.InRange) (room : ℕ) : c.toJson.fits (room + 1) = true := by
  apply Json.fits_present
  intro f hf j hj
  simp only [List.mem_cons, List.not_mem_nil, or_false] at hf
  rcases hf with rfl | rfl | rfl | rfl | rfl | rfl
  case inr.inr.inr.inr.inl =>
    obtain ⟨g, hg, rfl⟩ := Option.map_eq_some_iff.1 hj
    exact (h g hg).fits
  case inr.inr.inr.inr.inr =>
    obtain ⟨time, -, rfl⟩ := Option.map_eq_some_iff.1 hj
    rfl
  -- the others are texts
  all_goals
    obtain rfl := Option.some.inj hj
    rfl

theorem InRange.upsert {now : String} {l : List Condition} (hc : c.InRange) (hl : ∀ old ∈ l, old.InRange) :
    ∀ new ∈ Condition.upsert now c l, new.InRange := by
  induction l with
  | nil =>
    intro new hnew
    obtain rfl := List.mem_singleton.1 hnew
    exact hc
  | cons old rest ih =>
    obtain ⟨hold, hrest⟩ := List.forall_mem_cons.1 hl
    rw [Condition.upsert]
    split
    · exact List.forall_mem_cons.2 ⟨hc, hrest⟩
    · exact List.forall_mem_cons.2 ⟨hold, ih hrest⟩

end Condition

/-! ## Statuses -/

namespace Status

/-- Every condition is about a generation of 64 bits. -/
def InRange (s : Status) : Prop := ∀ c ∈ s.conditions, c.InRange

variable {s current next : Status} {w : Written} {fields : List (String × Json)} {now : String} {mark : Bool}
  {condition : Option Condition} {generation : Option Int}

theorem toJson_bare (h : s.conditions = []) : s.toJson = .obj [("isCreated", .bool s.isCreated)] := by
  unfold toJson
  rw [h]
  rfl

theorem toJson_full (h : s.conditions ≠ []) : s.toJson =
    .obj [("conditions", .arr (s.conditions.map Condition.toJson)), ("isCreated", .bool s.isCreated)] := by
  have horder : "conditions" < "isCreated" := by decide +kernel
  simp [toJson, h, Json.present, Json.object, Dict.ofList, Dict.insert, Dict.place, Dict.erase, horder]

/-- A status is written as an object of no other fields than its own. -/
theorem toJson_keys (s : Status) :
    ∃ fields, s.toJson = .obj fields ∧ ∀ f ∈ fields, f.1 = "isCreated" ∨ f.1 = "conditions" := by
  by_cases hnone : s.conditions = []
  · exact ⟨_, toJson_bare hnone, by simp⟩
  · exact ⟨_, toJson_full hnone, by simp⟩

/-- An object says a status field by field. -/
theorem decode_obj_iff : decode (.ofJson (.obj fields)) = some s ↔
    Says bool false fields "isCreated" s.isCreated ∧
      Says (list Condition.decode) [] fields "conditions" s.conditions := by
  have hdecode : (∀ name ∈ ["isCreated", "conditions"], Once fields name) → decode (.ofJson (.obj fields)) =
      ((get? fields "isCreated").elim (some false) fun j => bool (.ofJson j)).bind fun isCreated =>
        ((get? fields "conditions").elim (some []) fun j => list Condition.decode (.ofJson j)).bind fun conditions =>
          some ⟨isCreated, conditions⟩ := by
    intro honce
    obtain ⟨s, hs, hslot⟩ := slots_obj honce
    unfold decode
    rw [hs]
    simp only [Option.bind_eq_bind, Option.bind_some, defaulted_of (hslot "isCreated" (by simp)),
      defaulted_of (hslot "conditions" (by simp))]
  constructor
  · intro h
    have honce : ∀ name ∈ ["isCreated", "conditions"], Once fields name := by
      unfold decode at h
      obtain ⟨_, hslots, -⟩ := Option.bind_eq_some_iff.1 h
      exact once_of_slots hslots
    rw [hdecode honce] at h
    obtain ⟨created, hcreated, h⟩ := Option.bind_eq_some_iff.1 h
    obtain ⟨conditions, hconditions, ⟨⟩⟩ := Option.bind_eq_some_iff.1 h
    exact ⟨⟨honce _ (by simp), hcreated⟩, honce _ (by simp), hconditions⟩
  · rintro ⟨⟨honceCreated, hcreated⟩, honceConditions, hconditions⟩
    have honce := List.forall_mem_cons.2 ⟨honceCreated, List.forall_mem_singleton.2 honceConditions⟩
    rw [hdecode honce, hcreated, hconditions]
    rfl

theorem decode_conditions (h : s.InRange) :
    list Condition.decode (.ofJson (.arr (s.conditions.map Condition.toJson))) = some s.conditions :=
  list_map fun c hc => Condition.decode_toJson (h c hc)

/-- What is written of a status is read back. -/
theorem decode_toJson (h : s.InRange) : decode (.ofJson s.toJson) = some s := by
  by_cases hnone : s.conditions = []
  · rw [toJson_bare hnone, decode_obj_iff, hnone]
    constructor
    · exact says_single (Dict.under_of_mem (by simp) (List.mem_singleton_self _)) rfl
    · exact ⟨by simp [Once, under], by simp [get?]⟩
  · rw [toJson_full hnone, decode_obj_iff]
    constructor
    · exact says_single (Dict.under_of_mem (by simp) (List.mem_cons_of_mem _ (List.mem_singleton_self _))) rfl
    · exact says_single (Dict.under_of_mem (by simp) (List.mem_cons_self ..)) (decode_conditions h)

/-- Whatever is read as a status can be written. -/
theorem inRange_of_decode (h : decode w = some s) : s.InRange := by
  unfold decode at h
  simp only [Option.bind_eq_bind, Option.bind_eq_some_iff] at h
  obtain ⟨_, -, created, -, conditions, hconditions, ⟨⟩⟩ := h
  intro c hc
  obtain rfl | ⟨w, hw⟩ := defaulted_eq_some hconditions
  · cases hc
  · obtain ⟨w, hw⟩ := list_eq_some hw c hc
    exact Condition.inRange_of_decode hw

theorem fits_toJson (h : s.InRange) (room : ℕ) : s.toJson.fits (room + 3) = true := by
  have hitems : Json.itemsFit (s.conditions.map Condition.toJson) (room + 1) = true := by
    rw [Json.itemsFit_iff]
    intro j hj
    obtain ⟨c, hc, rfl⟩ := List.mem_map.1 hj
    exact Condition.fits_toJson (h c hc) room
  by_cases hnone : s.conditions = []
  · rw [toJson_bare hnone]
    simp [Json.fits, Json.fieldsFit]
  · rw [toJson_full hnone]
    simp [Json.fits, Json.fieldsFit, hitems]

/-- The text of a status is read as the status. -/
theorem read?_text (h : s.InRange) : (Json.read? (Utf8.encode s.toJson.text)).bind decode = some s := by
  rw [Json.read?_text (fits_toJson h 124)]
  exact decode_toJson h

/-! ### Merging -/

theorem InRange.merge (h : current.InRange) (hgeneration : ∀ g ∈ generation, Signed64 g) :
    (current.merge now mark condition generation).InRange := by
  cases condition with
  | none => exact h
  | some c =>
    have hc : Condition.InRange { c with observedGeneration := generation } := hgeneration
    exact hc.upsert h

/-- A merge drops no condition. -/
theorem conditions_merge (h : (current.merge now mark condition generation).conditions = []) :
    current.conditions = [] := by
  cases condition with
  | none => exact h
  | some c =>
    obtain ⟨created, _ | ⟨old, rest⟩⟩ := current
    · rfl
    · have hcons : Condition.upsert now { c with observedGeneration := generation } (old :: rest) = [] := h
      rw [Condition.upsert] at hcons
      split at hcons <;> cases hcons

end Status

/-! ### Stored statuses -/

section Stored

variable {stored : Json} {current next : Status}

/-- What a stored document says as a status; the status of a new workspace if it is missing or null. -/
def storedStatus? (stored : Json) : Option Status :=
  (nullable Status.decode (.ofJson stored)).map (·.getD {})

theorem inRange_of_stored (h : storedStatus? stored = some current) : current.InRange := by
  unfold storedStatus? nullable at h
  obtain ⟨found, hfound, rfl⟩ := Option.map_eq_some_iff.1 h
  split at hfound
  · obtain ⟨⟩ := hfound
    intro c hc
    cases hc
  · obtain ⟨s, hs, rfl⟩ := Option.map_eq_some_iff.1 hfound
    exact Status.inRange_of_decode hs

/-- The fields of a stored document list the conditions of its status, unless they list none. -/
theorem lists_of_stored (hstored : storedStatus? stored = some current) (h : current.conditions = []) :
    Says (list Condition.decode) [] stored.fields "conditions" [] := by
  cases stored with
  | obj fields =>
    obtain ⟨found, hfound, rfl⟩ := Option.map_eq_some_iff.1 hstored
    obtain ⟨s, hs, rfl⟩ := Option.map_eq_some_iff.1 hfound
    obtain ⟨-, hconditions⟩ := Status.decode_obj_iff.1 hs
    rw [show s.conditions = [] from h] at hconditions
    exact hconditions
  | _ => exact ⟨Nat.zero_le 1, rfl⟩

/-- A status that drops no condition is what is read after it was merged into the stored one. -/
theorem decode_mergePatch (hstored : storedStatus? stored = some current) (hnext : next.InRange)
    (hkept : next.conditions = [] → current.conditions = []) :
    Status.decode (.ofJson (stored.mergePatch next.toJson)) = some next := by
  by_cases hnone : next.conditions = []
  · rw [Status.toJson_bare hnone, Json.mergePatch, Status.decode_obj_iff, hnone]
    constructor
    · exact says_single (Json.under_mergeFields_mem _ (by simp) (List.mem_singleton_self _) (by rintro ⟨⟩)) rfl
    · -- the patch does not name the conditions, so the stored ones stay, and these are none
      exact (lists_of_stored hstored (hkept hnone)).congr (Json.under_mergeFields _ (by simp))
  · rw [Status.toJson_full hnone, Json.mergePatch, Status.decode_obj_iff]
    constructor
    · exact says_single
        (Json.under_mergeFields_mem _ (by simp) (List.mem_cons_of_mem _ (List.mem_singleton_self _)) (by rintro ⟨⟩)) rfl
    · exact says_single (Json.under_mergeFields_mem _ (by simp) (List.mem_cons_self ..) (by rintro ⟨⟩))
        (Status.decode_conditions hnext)

end Stored

/-! ## Writing a status -/

namespace Operator.Remote

variable {name now : String} {version : Option String} {status current : Status} {object : Json} {mark : Bool}
  {condition : Option Condition} {generation : Option Int} {r : Http.Request}

/-- A write of a status sends the patch of the status, to be merged. -/
theorem patchStatus_request (h : (patchStatus name version status).request = .ok r) :
    r.body = some (statusPatch version status) ∧ r.contentType = some Cluster.mergePatchType := by
  obtain ⟨-, htype, hbody⟩ := patch_sends h
  exact ⟨hbody, htype⟩

/-- The patch of a status is read as it was written. -/
theorem read?_statusPatch (h : status.InRange) : Json.read? (Utf8.encode (statusPatch version status).text) =
    some (.ofJson (statusPatch version status)) := by
  have hstatus : status.toJson.fits 126 = true := Status.fits_toJson h 123
  have hversion : Json.fieldsFit (versionField version) 125 = true := by cases version <;> rfl
  apply Json.read?_text
  rw [statusPatch_eq]
  simp [Json.fits, Json.fieldsFit, hstatus, hversion]

/-- The patch writes a status into an object, and nothing besides but the version that it asks for. -/
structure WritesStatus (object patch : Json) (version : Option String) (status : Status) : Prop where
  decoded : Status.decode (.ofJson ((object.mergePatch patch).get "status")) = some status
  /-- What a status does not say stays, in the stored status as elsewhere. -/
  beside : ∀ key, key ≠ "isCreated" → key ≠ "conditions" →
    ((object.mergePatch patch).get "status").get? key = (object.get "status").get? key
  others : ∀ key, key ≠ "status" → key ≠ "metadata" → (object.mergePatch patch).get? key = object.get? key
  /-- Metadata keep all their fields but the version, and that too if none is asked for. -/
  metadata : ∃ fields, (object.mergePatch patch).get? "metadata" = some (.obj fields) ∧
    (∀ key ≠ "resourceVersion", get? fields key = (object.get "metadata").get? key) ∧
    get? fields "resourceVersion" =
      (version.map Json.str <|> (object.get "metadata").get? "resourceVersion")

/-- The patch of a status that drops no stored condition writes the status. -/
theorem writesStatus_of_kept (hstored : storedStatus? (object.get "status") = some current) (hstatus : status.InRange)
    (hkept : status.conditions = [] → current.conditions = []) :
    WritesStatus object (statusPatch version status) version status := by
  obtain ⟨fields, hfields, hkeys⟩ := status.toJson_keys
  cases mergePatch_status "" version status object with
  | status hothers hrest hversion hwritten =>
    obtain ⟨metadata, hmetadata⟩ : ∃ metadata,
        (object.mergePatch (statusPatch version status)).get? "metadata" = some (.obj metadata) := by
      have hmem : ("metadata", Json.obj (versionField version)) ∈
          [("metadata", .obj (versionField version)), ("status", status.toJson)] := List.mem_cons_self ..
      rw [statusPatch_eq, Json.get?_mergePatch_mem (by simp) hmem nofun, Json.mergePatch]
      exact ⟨_, rfl⟩
    rw [Json.get, hmetadata] at hversion
    refine ⟨?_, ?_, fun key hs hm => hothers key hm hs, _, hmetadata, fun key hkey => ?_, hversion⟩
    · rw [hwritten]
      exact decode_mergePatch hstored hstatus hkept
    · intro key hcreated hconditions
      rw [hwritten, hfields]
      apply Json.get?_mergePatch
      intro f hf hk
      exact (hkeys f hf).elim (fun h => hcreated (hk.symm.trans h)) fun h => hconditions (hk.symm.trans h)
    · have hsame := hrest key hkey
      rw [Json.get, hmetadata] at hsame
      exact hsame

/-- Any status is read back from what is written of it. And whatever stands beside a status in a stored object, the
document that is sent to write what a report makes of the status, merged into the object, writes that and nothing
besides but the version. -/
theorem merged_status_lands (hstored : storedStatus? (object.get "status") = some current)
    (hgeneration : ∀ g ∈ generation, Signed64 g)
    (hr : (patchStatus name version (current.merge now mark condition generation)).request = .ok r) :
    (∀ s : Status, s.InRange → Status.decode (.ofJson s.toJson) = some s ∧
      (Json.read? (Utf8.encode s.toJson.text)).bind Status.decode = some s) ∧
    ∃ patch, r.body = some patch ∧ r.contentType = some Cluster.mergePatchType ∧
      Json.read? (Utf8.encode patch.text) = some (.ofJson patch) ∧
      WritesStatus object patch version (current.merge now mark condition generation) := by
  have hrange : (current.merge now mark condition generation).InRange := (inRange_of_stored hstored).merge hgeneration
  obtain ⟨hbody, htype⟩ := patchStatus_request hr
  constructor
  · intro s hs
    exact ⟨Status.decode_toJson hs, Status.read?_text hs⟩
  · refine ⟨_, hbody, htype, read?_statusPatch hrange, ?_⟩
    exact writesStatus_of_kept hstored hrange Status.conditions_merge

/-- What was told of a workspace that is not ready yet. -/
def waiting : Condition :=
  { Condition.progressing "waiting for pods" with observedGeneration := some 1, lastTransitionTime := some "then" }

/-- What is told of it once it is ready. -/
def arrived : Condition :=
  { Condition.ready with observedGeneration := some 2, lastTransitionTime := some "now" }

/-- The workspace as it is stored, with a remark of somebody else in its status. -/
def delayed : Json :=
  .obj [("metadata", .obj [("name", .str "team"), ("resourceVersion", .str "6")]),
    ("spec", .obj [("workspaceName", .str "team-a")]),
    ("status", .obj [("conditions", .arr [waiting.toJson]), ("remark", .str "slow")])]

/-- What is delayed is reported as ready, and marked. -/
theorem merged_status_lands_delayed :
    let next := Status.merge "now" ⟨false, [waiting]⟩ true (some Condition.ready) (some 2)
    storedStatus? (delayed.get "status") = some ⟨false, [waiting]⟩ ∧ next = ⟨true, [arrived]⟩ ∧
      ∃ r patch, (patchStatus "team" (some "6") next).request = .ok r ∧ r.body = some patch ∧
        WritesStatus delayed patch (some "6") next := by
  have hstored : storedStatus? (delayed.get "status") = some ⟨false, [waiting]⟩ := by decide +kernel
  have hgeneration : ∀ g ∈ some (2 : Int), Signed64 g := by
    rintro g ⟨⟩
    exact ⟨by decide, by decide⟩
  obtain ⟨r, hr⟩ : ∃ r, (patchStatus "team" (some "6")
      (Status.merge "now" ⟨false, [waiting]⟩ true (some Condition.ready) (some 2))).request = .ok r := ⟨_, rfl⟩
  obtain ⟨-, patch, hbody, -, -, hwrites⟩ := merged_status_lands hstored hgeneration hr
  exact ⟨hstored, by decide +kernel, r, patch, hr, hbody, hwrites⟩

end Operator.Remote
end Tenancy
