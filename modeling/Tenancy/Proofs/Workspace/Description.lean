/-
Workspaces as a cluster stores them. A document describes a workspace if it is read as it and has no field of its
metadata twice (`Describes`). The patch that is sent for a write on the workspace, merged into such a document, makes
it describe the workspace after the write, in the version that the cluster gives it (`Describes.guards`,
`Describes.reports`).
-/
import Tenancy.Proofs.Run.Frame
import Tenancy.Proofs.Workspace.StatusDocument

namespace Tenancy

open Decoder (dict int64 list member nullable required text Says says_single)
open Dict (Once get? under)
open Object (ManagedFields Meta OwnerReference decodeTime)
open Operator.Remote (finalizersPatch statusPatch versionField versionField_key finalizersPatch_eq statusPatch_eq)
open Simulation (Server revise)

/-! ## Fields -/

section

variable {α : Type} {d : Decoder α} {fields fields' : List (String × Json)} {name : String} {a : α} {o : Option α}
  {j : Json} {s : Decoder.Slots}

/-- The field of an object says a value, and is there once. -/
def Declares (d : Decoder α) (fields : List (String × Json)) (name : String) (a : α) : Prop :=
  ∃ j, under fields name = [(name, j)] ∧ d (.ofJson j) = some a

theorem Declares.congr (h : Declares d fields name a) (hunder : under fields' name = under fields name) :
    Declares d fields' name a := by
  obtain ⟨j, hj, ha⟩ := h
  exact ⟨j, hunder.trans hj, ha⟩

theorem under_of_once (h : Once fields name) (hj : get? fields name = some j) : under fields name = [(name, j)] := by
  unfold Once at h
  rw [Dict.get?_eq_under] at hj
  have hkeys : ∀ e ∈ under fields name, e.1 = name := fun e he => by simpa using (List.mem_filter.1 he).2
  match hunder : under fields name, h with
  | [], _ =>
    rw [hunder] at hj
    cases hj
  | [(k, j')], _ =>
    rw [hunder] at hj hkeys
    cases hj
    obtain rfl : k = name := hkeys _ (List.mem_singleton_self _)
    rfl
  | _ :: _ :: _, h => exact absurd h (by simp)

theorem declares_of_required (h : required s name d = some a) (hslot : Decoder.slot s name = .of (get? fields name))
    (honce : Once fields name) : Declares d fields name a := by
  cases hj : get? fields name with
  | none =>
    rw [required, hslot, hj] at h
    cases h
  | some j =>
    rw [hj] at hslot
    rw [Decoder.required_of hslot] at h
    exact ⟨j, under_of_once honce hj, h⟩

theorem Declares.required (h : Declares d fields name a) (hslot : Decoder.slot s name = .of (get? fields name)) :
    required s name d = some a := by
  obtain ⟨j, hj, ha⟩ := h
  rw [Dict.get?_eq_under, hj] at hslot
  rw [Decoder.required_of hslot, ha]

theorem optional_eq (hslot : Decoder.slot s name = .of (get? fields name)) :
    Decoder.optional s name d = (get? fields name).elim (some none) fun j => nullable d (.ofJson j) := by
  rw [Decoder.optional, hslot]
  cases get? fields name <;> rfl

theorem Declares.once (h : Declares d fields name a) : Once fields name := by
  obtain ⟨j, hj, -⟩ := h
  unfold Once
  rw [hj]
  exact le_refl 1

/-- What a tolerant record reads of a field that stands at most once. -/
theorem member_eq (h : Once fields name) : member (fields.map fun f => (f.1, .ofJson f.2)) name d =
    (get? fields name).elim (some none) fun j => nullable d (.ofJson j) := by
  unfold Once at h
  rw [Dict.get?_eq_under, member, Decoder.filter_ofJson]
  match under fields name, h with
  | [], _ => rfl
  | [(k, j)], _ =>
    rw [List.map_cons, List.map_nil, List.mapM_cons, List.mapM_nil]
    cases hj : nullable d (.ofJson j) <;> simp [hj]
  | _ :: _ :: _, h => exact absurd h (by simp)

theorem says_of_member (h : Once fields name)
    (ho : member (fields.map fun f => (f.1, .ofJson f.2)) name d = some o) : Says (nullable d) none fields name o :=
  ⟨h, (member_eq h).symm.trans ho⟩

/-- A field that may be null says nothing, or what it is read as. -/
theorem says_cases (h : Says (nullable d) none fields name o) :
    ((Json.obj fields).get name = .null ∧ o = none) ∨
      ∃ a, o = some a ∧ d (.ofJson ((Json.obj fields).get name)) = some a := by
  have ho := h.2
  rw [Json.get, Json.get?_obj]
  cases hj : get? fields name with
  | none =>
    rw [hj] at ho
    exact .inl ⟨rfl, (Option.some.inj ho).symm⟩
  | some j =>
    rw [hj] at ho
    by_cases hnull : j = .null
    · subst hnull
      exact .inl ⟨rfl, (Option.some.inj ho).symm⟩
    · have hvalue : nullable d (.ofJson j) = (d (.ofJson j)).map some := by
        cases j <;> first | rfl | exact absurd rfl hnull
      obtain ⟨a, ha, rfl⟩ := Option.map_eq_some_iff.1 (hvalue.symm.trans ho)
      exact .inr ⟨a, rfl, ha⟩

/-- Fields that are the same are read as the same. -/
theorem member_congr (h : under fields' name = under fields name) :
    member (fields'.map fun f => (f.1, .ofJson f.2)) name d =
      member (fields.map fun f => (f.1, .ofJson f.2)) name d := by
  rw [member, member, Decoder.filter_ofJson, Decoder.filter_ofJson, h]

end

/-! ## Metadata -/

namespace Object.Meta

/-- What is read of each field of metadata. -/
structure Reads (fields : List (String × Written)) (m : Meta) : Prop where
  annotations : member fields "annotations" (dict text) = some m.annotations
  creationTimestamp : member fields "creationTimestamp" decodeTime = some m.creationTimestamp
  deletionGracePeriodSeconds : member fields "deletionGracePeriodSeconds" int64 = some m.deletionGracePeriodSeconds
  deletionTimestamp : member fields "deletionTimestamp" decodeTime = some m.deletionTimestamp
  finalizers : member fields "finalizers" (list text) = some m.finalizers
  generateName : member fields "generateName" text = some m.generateName
  generation : member fields "generation" int64 = some m.generation
  labels : member fields "labels" (dict text) = some m.labels
  managedFields : member fields "managedFields" (list ManagedFields.decode) = some m.managedFields
  name : member fields "name" text = some m.name
  ns : member fields "namespace" text = some m.ns
  ownerReferences : member fields "ownerReferences" (list OwnerReference.decode) = some m.ownerReferences
  resourceVersion : member fields "resourceVersion" text = some m.resourceVersion
  selfLink : member fields "selfLink" text = some m.selfLink
  uid : member fields "uid" text = some m.uid

theorem decode_iff {w : Written} {m : Meta} :
    decode w = some m ↔ ∃ fields, Decoder.entries w = some fields ∧ Reads fields m := by
  unfold decode
  constructor
  · intro h
    obtain ⟨fields, hentries, h⟩ := Option.bind_eq_some_iff.1 h
    obtain ⟨_, hannotations, h⟩ := Option.bind_eq_some_iff.1 h
    obtain ⟨_, hcreationTimestamp, h⟩ := Option.bind_eq_some_iff.1 h
    obtain ⟨_, hdeletionGracePeriodSeconds, h⟩ := Option.bind_eq_some_iff.1 h
    obtain ⟨_, hdeletionTimestamp, h⟩ := Option.bind_eq_some_iff.1 h
    obtain ⟨_, hfinalizers, h⟩ := Option.bind_eq_some_iff.1 h
    obtain ⟨_, hgenerateName, h⟩ := Option.bind_eq_some_iff.1 h
    obtain ⟨_, hgeneration, h⟩ := Option.bind_eq_some_iff.1 h
    obtain ⟨_, hlabels, h⟩ := Option.bind_eq_some_iff.1 h
    obtain ⟨_, hmanagedFields, h⟩ := Option.bind_eq_some_iff.1 h
    obtain ⟨_, hname, h⟩ := Option.bind_eq_some_iff.1 h
    obtain ⟨_, hns, h⟩ := Option.bind_eq_some_iff.1 h
    obtain ⟨_, hownerReferences, h⟩ := Option.bind_eq_some_iff.1 h
    obtain ⟨_, hresourceVersion, h⟩ := Option.bind_eq_some_iff.1 h
    obtain ⟨_, hselfLink, h⟩ := Option.bind_eq_some_iff.1 h
    obtain ⟨_, huid, h⟩ := Option.bind_eq_some_iff.1 h
    obtain ⟨⟩ := h
    exact ⟨fields, hentries, by constructor <;> assumption⟩
  · rintro ⟨fields, hentries, h⟩
    refine Option.bind_eq_some_iff.2 ⟨fields, hentries, ?_⟩
    refine Option.bind_eq_some_iff.2 ⟨_, h.annotations, ?_⟩
    refine Option.bind_eq_some_iff.2 ⟨_, h.creationTimestamp, ?_⟩
    refine Option.bind_eq_some_iff.2 ⟨_, h.deletionGracePeriodSeconds, ?_⟩
    refine Option.bind_eq_some_iff.2 ⟨_, h.deletionTimestamp, ?_⟩
    refine Option.bind_eq_some_iff.2 ⟨_, h.finalizers, ?_⟩
    refine Option.bind_eq_some_iff.2 ⟨_, h.generateName, ?_⟩
    refine Option.bind_eq_some_iff.2 ⟨_, h.generation, ?_⟩
    refine Option.bind_eq_some_iff.2 ⟨_, h.labels, ?_⟩
    refine Option.bind_eq_some_iff.2 ⟨_, h.managedFields, ?_⟩
    refine Option.bind_eq_some_iff.2 ⟨_, h.name, ?_⟩
    refine Option.bind_eq_some_iff.2 ⟨_, h.ns, ?_⟩
    refine Option.bind_eq_some_iff.2 ⟨_, h.ownerReferences, ?_⟩
    refine Option.bind_eq_some_iff.2 ⟨_, h.resourceVersion, ?_⟩
    refine Option.bind_eq_some_iff.2 ⟨_, h.selfLink, ?_⟩
    refine Option.bind_eq_some_iff.2 ⟨_, h.uid, ?_⟩
    rfl

variable {fields fields' : List (String × Json)} {m : Meta} {finalizers : Option (List String)}
  {version : Option String}

theorem decode_obj_iff :
    decode (.ofJson (.obj fields)) = some m ↔ Reads (fields.map fun f => (f.1, .ofJson f.2)) m := by
  rw [decode_iff, Decoder.entries_obj]
  simp

/-- Metadata are read as before but for guards and version, if nothing else has changed. -/
theorem decode_changed (h : decode (.ofJson (.obj fields)) = some m)
    (hsame : ∀ key, key ≠ "finalizers" → key ≠ "resourceVersion" → under fields' key = under fields key)
    (hfinalizers : Says (nullable (list text)) none fields' "finalizers" finalizers)
    (hversion : Says (nullable text) none fields' "resourceVersion" version) :
    decode (.ofJson (.obj fields')) = some { m with finalizers, resourceVersion := version } := by
  rw [decode_obj_iff] at h ⊢
  have same : ∀ {α : Type} (d : Decoder α) {name : String} {o : Option α},
      name ≠ "finalizers" → name ≠ "resourceVersion" →
      member (fields.map fun f => (f.1, .ofJson f.2)) name d = some o →
        member (fields'.map fun f => (f.1, .ofJson f.2)) name d = some o := by
    intro α d name o hf hv ho
    exact (member_congr (hsame name hf hv)).trans ho
  exact {
    annotations := same _ (by decide) (by decide) h.annotations
    creationTimestamp := same _ (by decide) (by decide) h.creationTimestamp
    deletionGracePeriodSeconds := same _ (by decide) (by decide) h.deletionGracePeriodSeconds
    deletionTimestamp := same _ (by decide) (by decide) h.deletionTimestamp
    finalizers := (member_eq hfinalizers.1).trans hfinalizers.2
    generateName := same _ (by decide) (by decide) h.generateName
    generation := same _ (by decide) (by decide) h.generation
    labels := same _ (by decide) (by decide) h.labels
    managedFields := same _ (by decide) (by decide) h.managedFields
    name := same _ (by decide) (by decide) h.name
    ns := same _ (by decide) (by decide) h.ns
    ownerReferences := same _ (by decide) (by decide) h.ownerReferences
    resourceVersion := (member_eq hversion.1).trans hversion.2
    selfLink := same _ (by decide) (by decide) h.selfLink
    uid := same _ (by decide) (by decide) h.uid }

end Object.Meta

/-! ## Workspaces -/

theorem Workspace.decode_obj_iff {fields : List (String × Json)} {ws : Workspace} :
    decode (.ofJson (.obj fields)) = some ws ↔ Declares Meta.decode fields "metadata" ws.metadata ∧
      Declares Spec.decode fields "spec" ws.spec ∧ Says (nullable Status.decode) none fields "status" ws.status := by
  constructor
  · intro h
    unfold decode at h
    obtain ⟨s, hslots, h⟩ := Option.bind_eq_some_iff.1 h
    obtain ⟨_, hmetadata, h⟩ := Option.bind_eq_some_iff.1 h
    obtain ⟨_, hspec, h⟩ := Option.bind_eq_some_iff.1 h
    obtain ⟨_, hstatus, ⟨⟩⟩ := Option.bind_eq_some_iff.1 h
    have honce := Decoder.once_of_slots hslots
    obtain ⟨s', hslots', hslot⟩ := Decoder.slots_obj honce
    obtain rfl : s' = s := Option.some.inj (hslots'.symm.trans hslots)
    exact ⟨declares_of_required hmetadata (hslot _ (by simp)) (honce _ (by simp)),
      declares_of_required hspec (hslot _ (by simp)) (honce _ (by simp)),
      honce _ (by simp), (optional_eq (hslot _ (by simp))).symm.trans hstatus⟩
  · rintro ⟨hmetadata, hspec, hstatus⟩
    have honce : ∀ name ∈ ["metadata", "spec", "status"], Once fields name :=
      List.forall_mem_cons.2 ⟨hmetadata.once,
        List.forall_mem_cons.2 ⟨hspec.once, List.forall_mem_singleton.2 hstatus.1⟩⟩
    obtain ⟨s, hslots, hslot⟩ := Decoder.slots_obj honce
    unfold decode
    refine Option.bind_eq_some_iff.2 ⟨s, hslots, ?_⟩
    refine Option.bind_eq_some_iff.2 ⟨_, hmetadata.required (hslot _ (by simp)), ?_⟩
    refine Option.bind_eq_some_iff.2 ⟨_, hspec.required (hslot _ (by simp)), ?_⟩
    refine Option.bind_eq_some_iff.2 ⟨_, (optional_eq (hslot _ (by simp))).trans hstatus.2, ?_⟩
    rfl

/-! ## Documents -/

section

variable {fields parts : List (String × Json)} {object : Json} {ws : Workspace} {asked : Option String} {n : ℕ}

/-- What the fields of an object, with those of its metadata, say of a workspace. -/
structure Lays (fields parts : List (String × Json)) (ws : Workspace) : Prop where
  metadata : under fields "metadata" = [("metadata", .obj parts)]
  once : ∀ key, Once parts key
  identity : Meta.decode (.ofJson (.obj parts)) = some ws.metadata
  spec : Declares Spec.decode fields "spec" ws.spec
  status : Says (nullable Status.decode) none fields "status" ws.status
  /-- A reader takes objects only up to a depth. -/
  fits : Json.fieldsFit fields 126 = true

/-- A document that describes a workspace. -/
def Describes (object : Json) (ws : Workspace) : Prop := ∃ fields parts, object = .obj fields ∧ Lays fields parts ws

theorem Describes.decoded (h : Describes object ws) : Workspace.decode (.ofJson object) = some ws := by
  obtain ⟨fields, parts, rfl, h⟩ := h
  exact Workspace.decode_obj_iff.2 ⟨⟨_, h.metadata, h.identity⟩, h.spec, h.status⟩

/-- What is printed of a document is read as the workspace. -/
theorem Describes.read (h : Describes object ws) :
    (Json.read? (Utf8.encode object.text)).bind Workspace.decode = some ws := by
  have hfits : object.fits 127 = true := by
    obtain ⟨fields, parts, rfl, h⟩ := h
    exact Json.fits_obj.trans h.fits
  rw [Json.read?_text hfits]
  exact h.decoded

namespace Lays

theorem get (h : Lays fields parts ws) : (Json.obj fields).get "metadata" = .obj parts := by
  rw [Json.get, Json.get?_obj, Dict.get?_eq_under, h.metadata]
  rfl

theorem reads (h : Lays fields parts ws) : Meta.Reads (parts.map fun f => (f.1, .ofJson f.2)) ws.metadata :=
  Meta.decode_obj_iff.1 h.identity

theorem version (h : Lays fields parts ws) :
    Says (nullable text) none parts "resourceVersion" ws.metadata.resourceVersion :=
  says_of_member (h.once _) h.reads.resourceVersion

theorem guards (h : Lays fields parts ws) :
    Says (nullable (list text)) none parts "finalizers" ws.metadata.finalizers :=
  says_of_member (h.once _) h.reads.finalizers

theorem deletion (h : Lays fields parts ws) :
    Says (nullable decodeTime) none parts "deletionTimestamp" ws.metadata.deletionTimestamp :=
  says_of_member (h.once _) h.reads.deletionTimestamp

end Lays

/-- The version of the workspace is the one in its document. -/
theorem Describes.version (h : Describes object ws) :
    Json.Field.text? (object.get "metadata") "resourceVersion" = ws.metadata.resourceVersion := by
  obtain ⟨fields, parts, rfl, h⟩ := h
  rw [Json.Field.text?, h.get]
  obtain ⟨hnull, hnone⟩ | ⟨v, hsome, hv⟩ := says_cases h.version
  · rw [hnull, hnone]
    rfl
  · rw [hsome]
    cases hj : (Json.obj parts).get "resourceVersion" <;> rw [hj] at hv <;> exact hv

/-- It can be told from its document whether a workspace is to be deleted and has no guards. -/
theorem Describes.released (h : Describes object ws) :
    Server.released object = (ws.finalizers.isEmpty && ws.pendingDeletion) := by
  obtain ⟨fields, parts, rfl, h⟩ := h
  have hpending : ((Json.obj parts).get "deletionTimestamp").isNull = !ws.pendingDeletion := by
    rw [Workspace.pendingDeletion]
    obtain ⟨hnull, hnone⟩ | ⟨t, hsome, ht⟩ := says_cases h.deletion
    · rw [hnull, hnone]
      rfl
    · rw [hsome]
      cases hj : (Json.obj parts).get "deletionTimestamp" <;> first | rfl | (rw [hj] at ht; cases ht)
  have hguards : (Json.Field.items (.obj parts) "finalizers").isEmpty = ws.finalizers.isEmpty := by
    rw [Json.Field.items, Workspace.finalizers]
    obtain ⟨hnull, hnone⟩ | ⟨guards, hsome, hg⟩ := says_cases h.guards
    · rw [hnull, hnone]
      rfl
    · rw [hsome]
      cases hj : (Json.obj parts).get "finalizers" with
      | arr items =>
        rw [hj] at hg
        change (Written.ofItems items).mapM text = some guards at hg
        rw [Decoder.ofItems_eq] at hg
        cases items with
        | nil =>
          obtain ⟨⟩ := hg
          rfl
        | cons j rest =>
          rw [List.map_cons, List.mapM_cons] at hg
          obtain ⟨_, -, hg⟩ := Option.bind_eq_some_iff.1 hg
          obtain ⟨_, -, ⟨⟩⟩ := Option.bind_eq_some_iff.1 hg
          rfl
      | _ => rw [hj] at hg; cases hg
  rw [Server.released, h.get, hpending, hguards, Bool.not_not, Bool.and_comm]

/-- What is said of a workspace after its guards, its version and its status have changed. -/
theorem Lays.changed (h : Lays fields parts ws) {fields' parts' : List (String × Json)}
    {finalizers : Option (List String)} {version : Option String} {status : Option Status}
    (hmetadata : under fields' "metadata" = [("metadata", .obj parts')])
    (hspec : under fields' "spec" = under fields "spec")
    (hsame : ∀ key, key ≠ "finalizers" → key ≠ "resourceVersion" → under parts' key = under parts key)
    (hfinalizers : Says (nullable (list text)) none parts' "finalizers" finalizers)
    (hversion : Says (nullable text) none parts' "resourceVersion" version)
    (hstatus : Says (nullable Status.decode) none fields' "status" status) (hfits : Json.fieldsFit fields' 126 = true) :
    Lays fields' parts' ⟨{ ws.metadata with finalizers, resourceVersion := version }, ws.spec, status⟩ where
  metadata := hmetadata
  once key := by
    by_cases hf : key = "finalizers"
    · exact hf ▸ hfinalizers.1
    · by_cases hv : key = "resourceVersion"
      · exact hv ▸ hversion.1
      · rw [Once, hsame key hf hv]
        exact h.once key
  identity := Meta.decode_changed h.identity hsame hfinalizers hversion
  spec := h.spec.congr hspec
  status := hstatus
  fits := hfits

/-- What a patch of a workspace makes of its document, in the version that the cluster gives it. -/
theorem Lays.merged (h : Lays fields parts ws) {patch changes : List (String × Json)}
    {finalizers : Option (List String)} {status : Option Status} (hkeys : (patch.map (·.1)).Nodup)
    (hmem : ("metadata", .obj changes) ∈ patch) (hspec : ∀ e ∈ patch, e.1 ≠ "spec")
    (hchanges : ∀ e ∈ changes, e.1 = "finalizers" ∨ e.1 = "resourceVersion")
    (hfinalizers : Says (nullable (list text)) none (Json.mergeFields parts changes) "finalizers" finalizers)
    (hstatus : Says (nullable Status.decode) none (Json.mergeFields fields patch) "status" status)
    (hfits : Json.fieldsFit patch 126 = true) :
    Describes (Server.withVersion (.mergePatch (.obj fields) (.obj patch)) n)
      ⟨{ ws.metadata with finalizers, resourceVersion := some (toString n) }, ws.spec, status⟩ := by
  obtain ⟨merged, hmerged⟩ : ∃ merged, merged = Json.mergeFields fields patch := ⟨_, rfl⟩
  obtain ⟨parts', hparts⟩ : ∃ parts', parts' =
      Dict.insert (Json.mergeFields parts changes) "resourceVersion" (.str (toString n)) := ⟨_, rfl⟩
  have hinner : (Json.mergePatch (.obj fields) (.obj patch)).get "metadata" =
      .obj (Json.mergeFields parts changes) := by
    rw [Json.get_mergePatch hkeys hmem (by rintro ⟨⟩), h.get, Json.mergePatch]
    rfl
  have hdocument : Server.withVersion (.mergePatch (.obj fields) (.obj patch)) n =
      .obj (Dict.insert merged "metadata" (.obj parts')) := by
    rw [Server.withVersion, hinner, Json.mergePatch, hparts, hmerged]
    rfl
  have hothers : ∀ key ≠ "metadata", under (Dict.insert merged "metadata" (.obj parts')) key = under merged key :=
    fun key hkey => by rw [Dict.under_insert, if_neg hkey]
  have hrest : ∀ key ≠ "resourceVersion", under parts' key = under (Json.mergeFields parts changes) key :=
    fun key hkey => by rw [hparts, Dict.under_insert, if_neg hkey]
  have hmergedFits : Json.fieldsFit merged 126 = true := hmerged ▸ Json.fits_mergeFields fields patch 126 h.fits hfits
  refine ⟨_, parts', hdocument, h.changed ?_ ?_ ?_ ?_ ?_ ?_ ?_⟩
  · rw [Dict.under_insert, if_pos rfl]
  · rw [hothers "spec" (by decide), hmerged, Json.under_mergeFields _ hspec]
  · intro key hf hv
    rw [hrest key hv, Json.under_mergeFields]
    intro e he hk
    exact (hchanges e he).elim (fun h => hf (hk.symm.trans h)) fun h => hv (hk.symm.trans h)
  · exact hfinalizers.congr (hrest "finalizers" (by decide))
  · exact says_single (by rw [hparts, Dict.under_insert, if_pos rfl]) rfl
  · rw [hmerged] at hothers ⊢
    exact hstatus.congr (hothers "status" (by decide))
  · have hkept : ((Dict.get? merged "metadata").getD .null).fits 126 = true := Json.fits_get? hmergedFits
    have hlook : (Dict.get? merged "metadata").getD .null = .obj (Json.mergeFields parts changes) := by
      rw [← hinner, Json.mergePatch, hmerged]
      rfl
    rw [hlook, Json.fits_obj] at hkept
    refine Json.fieldsFit_insert hmergedFits ?_
    rw [Json.fits_obj, hparts]
    exact Json.fieldsFit_insert hkept rfl

/-! ## Writes -/

theorem storedStatus?_eq {o : Option Status} (h : Says (nullable Status.decode) none fields "status" o) :
    storedStatus? ((get? fields "status").getD .null) = some (o.getD {}) := by
  have ho := h.2
  unfold storedStatus?
  cases hj : get? fields "status" with
  | none =>
    rw [hj] at ho
    obtain ⟨⟩ := ho
    rfl
  | some j =>
    rw [hj] at ho
    exact congrArg (Option.map (·.getD {})) ho

/-- A patch of guards makes an object describe the workspace with these guards. -/
theorem Describes.guards (h : Describes object ws) (asked : Option String) (finalizers : List String) (n : ℕ) :
    Describes (Server.withVersion (object.mergePatch (finalizersPatch asked finalizers)) n)
      (revise { ws with metadata := { ws.metadata with finalizers := some finalizers } }
        (some (toString n))) := by
  obtain ⟨fields, parts, rfl, h⟩ := h
  rw [finalizersPatch_eq]
  refine h.merged (by simp) (List.mem_singleton_self _) (by simp) ?_ ?_ ?_ ?_
  · intro e he
    exact (List.mem_cons.1 he).imp (congrArg Prod.fst) versionField_key
  · have hkeys : (("finalizers", Json.strings finalizers) :: versionField asked |>.map (·.1)).Nodup := by
      cases asked <;> simp [versionField]
    have hlist : list text (.ofJson (.strings finalizers)) = some finalizers := Decoder.list_map fun _ _ => rfl
    have hgiven : Json.strings finalizers ≠ .null := by rintro ⟨⟩
    exact says_single (Json.under_mergeFields_mem _ hkeys (List.mem_cons_self ..) hgiven)
      (congrArg (Option.map some) hlist)
  · exact h.status.congr (Json.under_mergeFields _ (by simp))
  · have hitems : Json.itemsFit (finalizers.map .str) 124 = true := Json.itemsFit_iff.2 (by simp [Json.fits])
    have hversion : Json.fieldsFit (versionField asked) 125 = true := by cases asked <;> rfl
    simp [Json.fieldsFit, Json.fits, Json.strings, hitems, hversion]

/-- A patch of a status that drops no condition makes an object describe the workspace with this status. -/
theorem Describes.reports (h : Describes object ws) (asked : Option String) {status : Status} (hstatus : status.InRange)
    (hkept : status.conditions = [] → (ws.status.getD {}).conditions = []) (n : ℕ) :
    Describes (Server.withVersion (object.mergePatch (statusPatch asked status)) n)
      (revise { ws with status := some status } (some (toString n))) := by
  obtain ⟨fields, parts, rfl, h⟩ := h
  rw [statusPatch_eq]
  refine h.merged (by simp) (List.mem_cons_self ..) (by simp) ?_ ?_ ?_ ?_
  · exact fun e he => .inr (versionField_key he)
  · exact h.guards.congr (Json.under_mergeFields _ fun e he => by rw [versionField_key he]; decide)
  · obtain ⟨said, hsaid, -⟩ := status.toJson_keys
    have hread := decode_mergePatch (storedStatus?_eq h.status) hstatus hkept
    have hnull : status.toJson ≠ .null := by rw [hsaid]; rintro ⟨⟩
    refine says_single
      (Json.under_mergeFields_mem _ (by simp) (List.mem_cons_of_mem _ (List.mem_singleton_self _)) hnull) ?_
    rw [hsaid, Json.mergePatch] at hread ⊢
    exact congrArg (Option.map some) hread
  · have hsaid : status.toJson.fits 126 = true := Status.fits_toJson hstatus 123
    have hversion : Json.fieldsFit (versionField asked) 125 = true := by cases asked <;> rfl
    simp [Json.fieldsFit, Json.fits, hsaid, hversion]

end

end Tenancy
