/-
A cluster that keeps objects under the path of their collection and their name, as a map by kind, namespace and
name. Over such a cluster a reconciler that looks for children and creates them gets the answers of the map, and
the cluster goes on holding what the map holds (`errands_refine`).
-/
import Tenancy.Operator.Remote.Handler
import Tenancy.Proofs.Cluster.Address
import Tenancy.Proofs.Json.Reading
import Tenancy.Proofs.Run.Trace
import Tenancy.Simulation.Server

namespace Tenancy.Cluster

open Http (Reply Request Transport)
open Object (Child Key Kind)

variable {κ : Type}

/-! ## Clusters that keep -/

/-- A document that reads as an object of a kind. -/
def IsOf (kind : Kind) (body : Bytes) : Prop := ((Json.read? body).bind (Child.decode kind)).isSome = true

/-- An answer that gives an object: it is of every kind that the text of the object is of. -/
def Gives (object : Json) (reply : Reply) : Prop :=
  ∃ body, readBody reply = .ok body ∧ ∀ kind, IsOf kind (Utf8.encode object.text) → IsOf kind body

/-- A request for the object called `name` in the collection with the given path. -/
structure Asks (r : Request) (path name : String) : Prop where
  method : r.method = .get
  address : r.address = path ++ "/" ++ name
  query : r.query = ""

/-- A request to create an object called `name` in the collection with the given path. -/
structure Sends (r : Request) (path name : String) (object : Json) : Prop where
  method : r.method = .post
  address : r.address = path
  query : r.query = ""
  body : r.body = some object
  name : (object.get "metadata").get "name" = .str name

/-- A cluster that holds objects by path and name. It gives an object that is there, says of another one that it
is not found, and creates an object unless there is one already. -/
structure Keeps (t : Transport κ) (held : κ → String → String → Option Json) : Prop where
  found {r : Request} {s : κ} {path name : String} {object : Json} : Asks r path name → PathSafe name →
    held s path name = some object → Gives object (t r s).1
  missing {r : Request} {s : κ} {path name : String} : Asks r path name → PathSafe name →
    held s path name = none → ∃ refusal, readBody (t r s).1 = .error (.refused refusal) ∧ refusal.reason = "NotFound"
  asked {r : Request} {s : κ} {path name : String} : Asks r path name → PathSafe name →
    ∀ p n, PathSafe n → held (t r s).2 p n = held s p n
  created {r : Request} {s : κ} {path name : String} {object : Json} : Sends r path name object → PathSafe name →
    held s path name = none → Gives object (t r s).1 ∧
      ∀ p n, PathSafe n → held (t r s).2 p n = if p = path ∧ n = name then some object else held s p n
  taken {r : Request} {s : κ} {path name : String} {object old : Json} : Sends r path name object → PathSafe name →
    held s path name = some old →
      (∃ refusal, readBody (t r s).1 = .error (.refused refusal) ∧ refusal.reason = "AlreadyExists" ∧
        refusal.code = 409) ∧
      ∀ p n, PathSafe n → held (t r s).2 p n = held s p n

/-! ## Exchanges -/

section

variable {c : Collection} {name : String} {object : Json} {α : Type} {d : Decoder α}

theorem requestNamed_eq (h : name ≠ "") (r : Except Error Request) : requestNamed name r = r :=
  if_neg fun he => h (String.isEmpty_iff.1 he)

theorem get_request (hc : Plain c.path) (hn : PathSafe name)
    (hsize : (c.objectPath name).utf8ByteSize ≤ Target.maxSize) :
    (get c name d).request = .ok { method := .get, address := c.path ++ "/" ++ name } := by
  have hplain : Plain (c.objectPath name) := (hc.append (by decide)).append hn.plain
  have ht := Target.ofText_plain hplain (.inl rfl) (by simpa using hsize)
  rw [String.append_empty] at ht
  show requestNamed name (request .get (c.objectPath name) none none) = _
  rw [requestNamed_eq hn.1, request, ht]
  rfl

theorem create_request (hc : Plain c.path) (hsize : (c.path ++ "?").utf8ByteSize ≤ Target.maxSize) :
    (createOnce c object d).request =
      .ok { method := .post, address := c.path, contentType := some jsonType, body := some object } := by
  show request .post (c.path ++ "?") (some jsonType) (some object) = _
  rw [request, Target.ofText_plain hc (.inr rfl) hsize]

/-- The target of a request to merge a patch, which tells the writer. -/
def patchTarget (c : Collection) (name : String) (part : Option String) (writer : String) : String :=
  c.objectPath name ++ part.elim "" ("/" ++ ·) ++ "?" ++ ("&fieldManager=" ++ writer)

theorem patch_request {part : Option String} {writer : String} (change : Json) (hc : Plain c.path) (hn : PathSafe name)
    (hpart : ∀ p ∈ part, Plain p) (hwriter : Target.PlainQuery writer)
    (hsize : (patchTarget c name part writer).utf8ByteSize ≤ Target.maxSize) :
    (patch c name part (some writer) change d).request =
      .ok { method := .patch, address := c.path ++ "/" ++ name ++ part.elim "" ("/" ++ ·),
            query := "fieldManager=" ++ writer, contentType := some mergePatchType, body := some change } := by
  have hplain : Plain (c.objectPath name ++ part.elim "" ("/" ++ ·)) := by
    refine Plain.append ((hc.append (by decide)).append hn.plain) ?_
    cases part with
    | none => exact List.forall_mem_nil _
    | some p => exact Plain.append (by decide) (hpart p rfl)
  have hfixed : Target.PlainQuery "&fieldManager=" := by decide
  have hquery : Target.PlainQuery ("&fieldManager=" ++ writer) := by
    intro c hc
    rw [String.toList_append] at hc
    exact (List.mem_append.1 hc).elim (hfixed c) (hwriter c)
  have hdropped : Target.dropEmptyParameters ("&fieldManager=" ++ writer).toList =
      ("fieldManager=" ++ writer).toList := by
    simp [Target.dropEmptyParameters]
  show requestNamed name (request .patch (patchTarget c name part writer) (some mergePatchType) (some change)) = _
  rw [requestNamed_eq hn.1, request, patchTarget, Target.ofText_query hplain hquery hsize, hdropped,
    String.ofList_toList]
  rfl

theorem delete_request (hc : Plain c.path) (hn : PathSafe name)
    (hsize : (c.objectPath name ++ "?").utf8ByteSize ≤ Target.maxSize) : (delete c name d).request =
      .ok { method := .delete, address := c.path ++ "/" ++ name, contentType := some jsonType,
            body := some (.object [("propagationPolicy", .str "Background")]) } := by
  have hplain : Plain (c.objectPath name) := (hc.append (by decide)).append hn.plain
  show requestNamed name (request .delete (c.objectPath name ++ "?") (some jsonType)
    (some (.object [("propagationPolicy", .str "Background")]))) = _
  rw [requestNamed_eq hn.1, request, Target.ofText_plain hplain (.inr rfl) hsize]
  rfl

theorem get_tooLong (hn : name ≠ "") (hsize : Target.maxSize < (c.objectPath name).utf8ByteSize) :
    (get c name d).request = .error (.malformed .tooLong) := by
  show requestNamed name (request .get (c.objectPath name) none none) = _
  rw [requestNamed_eq hn, request, Target.ofText_tooLong hsize]

theorem patch_tooLong {part : Option String} {writer : String} {change : Json} (hn : name ≠ "")
    (hsize : Target.maxSize < (patchTarget c name part writer).utf8ByteSize) :
    (patch c name part (some writer) change d).request = .error (.malformed .tooLong) := by
  show requestNamed name (request .patch (patchTarget c name part writer) (some mergePatchType) (some change)) = _
  rw [requestNamed_eq hn, request, Target.ofText_tooLong hsize]

theorem delete_tooLong (hn : name ≠ "") (hsize : Target.maxSize < (c.objectPath name ++ "?").utf8ByteSize) :
    (delete c name d).request = .error (.malformed .tooLong) := by
  show requestNamed name (request .delete (c.objectPath name ++ "?") _ _) = _
  rw [requestNamed_eq hn, request, Target.ofText_tooLong hsize]

theorem create_tooLong (hsize : Target.maxSize < (c.path ++ "?").utf8ByteSize) :
    (createOnce c object d).request = .error (.malformed .tooLong) := by
  show request .post (c.path ++ "?") (some jsonType) (some object) = _
  rw [request, Target.ofText_tooLong hsize]

end

section

variable {kind : Kind} {reply : Reply} {object : Json}

/-- An object of the right kind is read. -/
theorem Gives.read (h : Gives object reply) (hk : IsOf kind (Utf8.encode object.text)) :
    ∃ child, readObject (Child.decode kind) reply = .ok child := by
  obtain ⟨body, hb, hkinds⟩ := h
  obtain ⟨child, hchild⟩ := Option.isSome_iff_exists.1 (hkinds kind hk)
  refine ⟨child, ?_⟩
  rw [readObject, hb]
  show decodeBody (Child.decode kind) body = _
  rw [decodeBody, hchild]

theorem readObject_refused {α : Type} {d : Decoder α} {refusal : Refusal}
    (h : readBody reply = .error (.refused refusal)) : readObject d reply = .error (.refused refusal) := by
  rw [readObject, h]
  rfl

end

section

variable {t : Transport κ} {k : κ} {held : κ → String → String → Option Json} {c : Collection} {kind : Kind}
  {name : String} {object : Json}

theorem Asks.of_address (path name : String) : Asks { method := .get, address := path ++ "/" ++ name } path name :=
  ⟨rfl, rfl, rfl⟩

/-- Looking an object up changes nothing. -/
theorem Keeps.get_same (hk : Keeps t held) (hc : Plain c.path) (hn : PathSafe name)
    (hsize : (c.objectPath name).utf8ByteSize ≤ Target.maxSize) {α : Type} (d : Decoder α) :
    ∀ p n, PathSafe n → held ((get c name d).perform t k).2 p n = held k p n := by
  rw [Http.Exchange.perform_ok (get_request hc hn hsize)]
  exact hk.asked (.of_address ..) hn

theorem Keeps.get_missing (hk : Keeps t held) (hc : Plain c.path) (hn : PathSafe name)
    (hsize : (c.objectPath name).utf8ByteSize ≤ Target.maxSize) {α : Type} (d : Decoder α)
    (hm : held k c.path name = none) : ((get c name d).perform t k).1 = .ok none := by
  obtain ⟨refusal, hr, hreason⟩ := hk.missing (.of_address ..) hn hm
  rw [Http.Exchange.perform_ok (get_request hc hn hsize)]
  show readObject? d _ = _
  rw [readObject?, readObject_refused hr]
  simp only [Refusal.isNotFound, hreason, decide_true, if_true]

theorem Keeps.get_found (hk : Keeps t held) (hc : Plain c.path) (hn : PathSafe name)
    (hsize : (c.objectPath name).utf8ByteSize ≤ Target.maxSize) (hm : held k c.path name = some object)
    (hkind : IsOf kind (Utf8.encode object.text)) :
    ∃ child, ((get c name (Child.decode kind)).perform t k).1 = .ok (some child) := by
  obtain ⟨child, hchild⟩ := (hk.found (.of_address ..) hn hm).read hkind
  rw [Http.Exchange.perform_ok (get_request hc hn hsize)]
  refine ⟨child, ?_⟩
  show readObject? _ _ = _
  rw [readObject?, hchild]

/-- Creating an object succeeds. If there was none, there is this one from then on, and else nothing changes. -/
theorem Keeps.create (hk : Keeps t held) (hc : Plain c.path) (hn : PathSafe name)
    (hsize : (c.path ++ "?").utf8ByteSize ≤ Target.maxSize) (hname : (object.get "metadata").get "name" = .str name)
    (hkind : IsOf kind (Utf8.encode object.text)) :
    ((createOnce c object (Child.decode kind)).perform t k).1 = .ok () ∧
      ∀ p n, PathSafe n → held ((createOnce c object (Child.decode kind)).perform t k).2 p n =
        if p = c.path ∧ n = name then some ((held k p n).getD object) else held k p n := by
  have hsends : Sends { method := .post, address := c.path, contentType := some jsonType, body := some object }
      c.path name object := ⟨rfl, rfl, rfl, rfl, hname⟩
  rw [Http.Exchange.perform_ok (create_request hc hsize)]
  cases hm : held k c.path name with
  | none =>
    obtain ⟨hgives, hnew⟩ := hk.created hsends hn hm
    obtain ⟨child, hchild⟩ := hgives.read hkind
    refine ⟨?_, fun p n hpn => ?_⟩
    · simp only [createOnce, hchild]
    · rw [hnew p n hpn]
      split_ifs with h
      · rw [h.1, h.2, hm]
        rfl
      · rfl
  | some old =>
    obtain ⟨⟨refusal, hr, -, hcode⟩, hsame⟩ := hk.taken hsends hn hm
    refine ⟨?_, fun p n hpn => ?_⟩
    · simp only [createOnce, readObject_refused hr, hcode, if_true]
    · rw [hsame p n hpn]
      split_ifs with h
      · rw [h.1, h.2, hm]
        rfl
      · rfl

end

end Tenancy.Cluster

namespace Tenancy.Simulation

open Cluster (Gives Refusal readBody)

/-! ## Answers of a server -/

theorem readBody_answer {status : Nat} (h : Http.Status.isFailure status = false) (object : Json) :
    readBody (Server.answer status object) = .ok (Utf8.encode object.text) := by
  have hbody : [Utf8.encode object.text].flatten = Utf8.encode object.text := List.append_nil _
  simp only [Server.answer, Http.Reply.of, readBody, hbody, Utf8.defect?_encode, h, Bool.not_true, Bool.false_eq_true,
    if_false]

theorem gives_answer {status : Nat} (h : Http.Status.isFailure status = false) (object : Json) :
    Gives object (Server.answer status object) :=
  ⟨_, readBody_answer h object, fun _ hkind => hkind⟩

/-- A failure as a document. -/
def failureDocument (code : Nat) (reason message : String) : Json :=
  .obj [("apiVersion", .str "v1"), ("code", .int code), ("kind", .str "Status"), ("message", .str message),
    ("metadata", .empty), ("reason", .str reason), ("status", .str "Failure")]

theorem failure_eq (code : Nat) (reason message : String) :
    Server.failure code reason message = Server.answer code (failureDocument code reason message) := by
  rw [Server.failure, failureDocument]
  congr 1
  cbv

section

variable {code : Nat} (reason message : String)

theorem fits_failureDocument (h : code < 600) : (failureDocument code reason message).fits 127 = true := by
  have hcode : Number.fits (.int code) = true := decide_eq_true (Nat.lt_trans h (by decide))
  simp [failureDocument, Json.fits, Json.fieldsFit, Json.int, Json.empty, hcode]

theorem decode_failureDocument (h : code < 600) :
    Refusal.decode (.ofJson (failureDocument code reason message)) = some ⟨"Failure", message, reason, code⟩ := by
  have hcode : code ≤ 65535 := by omega
  simp [failureDocument, Written.ofJson, Written.ofFields, Refusal.decode, Json.int, Decoder.slots, Decoder.entries,
    Decoder.slotOf, Decoder.required, Decoder.defaulted, Decoder.slot, Dict.get?, Decoder.text, Decoder.natural16,
    Decoder.natural, Decoder.int, hcode]

/-- A failure is read as what it says. -/
theorem readBody_failure (h : 400 ≤ code ∧ code < 600) :
    readBody (Server.failure code reason message) = .error (.refused ⟨"Failure", message, reason, code⟩) := by
  have hfailure : Http.Status.isFailure code = true := decide_eq_true h
  have hread := Json.read?_text (fits_failureDocument reason message h.2)
  have hbody : ∀ j : Json, [Utf8.encode j.text].flatten = Utf8.encode j.text := fun _ => List.append_nil _
  simp only [failure_eq, Server.answer, Http.Reply.of, readBody, hbody, Utf8.defect?_encode, hfailure, Bool.not_true,
    Bool.false_eq_true, if_false, if_true, Refusal.ofAnswer, hread, Option.bind_some,
    decode_failureDocument reason message h.2]

end

end Tenancy.Simulation
