/-
When a pull succeeds. A pull whose answer arrives whole is done exactly if every line of the answer can be read,
no record tells an error and one tells a success (`pull_ok_iff`); how the network cut the answer does not matter.
What a pull fails with may depend on the cuts, but only where a line that cannot be read comes behind one that
tells an error (`pull_judged`).
-/
import Tenancy.Proofs.Model.Stream

namespace Tenancy.Model

open Progress
open Http (Transport Request)

/-! ## Records -/

namespace Progress

/-- The records in a body. -/
def records (body : Bytes) : List Record := (lines body).filterMap fun line => Record.read? (trim line)

theorem legible_iff (line : Bytes) : Legible line ↔ trim line = [] ∨ (Record.read? (trim line)).isSome := by
  unfold Legible readLine
  cases htrim : trim line with
  | nil => simp
  | cons b rest => cases hr : Record.read? (b :: rest) <;> simp [hr]

/-- A line that can be read says what its record says, and nothing if it is blank. -/
theorem readLine_of_legible {line : Bytes} (h : Legible line) : readLine line = .ok (Record.read? (trim line)) := by
  rw [legible_iff] at h
  unfold readLine
  cases htrim : trim line with
  | nil => rfl
  | cons b rest =>
    rw [htrim] at h
    obtain ⟨r, hr⟩ := Option.isSome_iff_exists.1 (h.resolve_left fun hnil => by cases hnil)
    simp [hr]

theorem offence_eq_none_iff {line : Bytes} (h : Legible line) :
    offence line = none ↔ ∀ r, Record.read? (trim line) = some r → r.error = none := by
  rw [offence, readLine_of_legible h]
  cases Record.read? (trim line) <;> simp

theorem tellsSuccess_iff {line : Bytes} (h : Legible line) :
    tellsSuccess line = true ↔ ∃ r, Record.read? (trim line) = some r ∧ r.status = some "success" := by
  rw [tellsSuccess, readLine_of_legible h]
  cases Record.read? (trim line) <;> simp [Record.isSuccess]

theorem inoffensive_iff {ls : List Bytes} :
    (∀ line ∈ ls, offence line = none) ↔
      (∀ line ∈ ls, Legible line) ∧ ∀ r ∈ ls.filterMap fun line => Record.read? (trim line), r.error = none := by
  constructor
  · intro h
    have hlegible : ∀ line ∈ ls, Legible line := fun line hl => legible_of_offence (h line hl)
    refine ⟨hlegible, fun r hr => ?_⟩
    obtain ⟨line, hl, hr⟩ := List.mem_filterMap.1 hr
    exact (offence_eq_none_iff (hlegible line hl)).1 (h line hl) r hr
  · rintro ⟨hlegible, herror⟩ line hl
    exact (offence_eq_none_iff (hlegible line hl)).2 fun r hr => herror r (List.mem_filterMap.2 ⟨line, hl, hr⟩)

/-- A whole stream is done exactly if none of its lines offends and one tells a success. -/
theorem outcome_ok_iff (chunks : List Bytes) :
    outcome chunks true = .ok () ↔
      (∀ line ∈ lines chunks.flatten, offence line = none) ∧ (lines chunks.flatten).any tellsSuccess = true := by
  by_cases h : ∀ line ∈ lines chunks.flatten, offence line = none
  · rw [outcome_inoffensive h, and_iff_right h]
    cases (lines chunks.flatten).any tellsSuccess <;> simp [conclude]
  · obtain ⟨e, he⟩ := outcome_offended h
    simp [he, h]

theorem any_tellsSuccess_iff {ls : List Bytes} (h : ∀ line ∈ ls, Legible line) :
    ls.any tellsSuccess = true ↔
      ∃ r ∈ ls.filterMap fun line => Record.read? (trim line), r.status = some "success" := by
  rw [List.any_eq_true]
  constructor
  · rintro ⟨line, hl, hs⟩
    obtain ⟨r, hr, hs⟩ := (tellsSuccess_iff (h line hl)).1 hs
    exact ⟨r, List.mem_filterMap.2 ⟨line, hl, hr⟩, hs⟩
  · rintro ⟨r, hr, hs⟩
    obtain ⟨line, hl, hr⟩ := List.mem_filterMap.1 hr
    exact ⟨line, hl, (tellsSuccess_iff (h line hl)).2 ⟨r, hr, hs⟩⟩

end Progress

/-! ## Pulls -/

namespace Client

variable {σ : Type} {c : Client} {model : String} {r : Request} {t : Transport σ} {s : σ} {status : Nat}
  {chunks : List Bytes}

/-- An answer that arrives whole and is a success is judged by its stream. -/
theorem perform_pull (hr : (c.pull model).request = .ok r) (ht : (t r s).1 = .answer status chunks true)
    (hs : Http.Status.isSuccess status = true) : ((c.pull model).perform t s).1 = outcome chunks true := by
  rw [Http.Exchange.perform_ok hr, ht]
  show judge "/api/pull" outcome (.answer status chunks true) = _
  rw [judge, if_pos hs]

/-! ## A small network -/

/-- A client of some runtime. -/
def visitor : Client := .of "http://rt.test:11434"

theorem visitor_request : ∃ r, (visitor.pull "tiny").request = .ok r := ⟨_, rfl⟩

/-- A network in which every request is answered by the same body, in the given pieces. -/
def answering (chunks : List Bytes) : Transport Unit := fun _ s => (.answer 200 chunks true, s)

/-- A success without a line end behind it, cut in the middle of a record. -/
def unended : List Bytes :=
  [Utf8.encode "\x7b\"status\":\"pulling\"\x7d\n\n\x7b\"sta", [], Utf8.encode "tus\":\"success\"\x7d"]

/-- A line that tells an error. -/
def errorLine : Bytes := Utf8.encode "\x7b\"error\":\"gone\"\x7d\n"

/-- A line that cannot be read. -/
def badLine : Bytes := Utf8.encode "rest\n"

/-! ## What a pull comes to -/

/-- A pull that is answered as a whole is done exactly if every line of the answer is blank or can be read, no
record tells an error and some record tells a success, wherever it stands; if only the success is missing, the
pull is incomplete. -/
theorem pull_ok_iff (hr : (c.pull model).request = .ok r) (ht : (t r s).1 = .answer status chunks true)
    (hs : Http.Status.isSuccess status = true) :
    let result := ((c.pull model).perform t s).1
    let legible := ∀ line ∈ lines chunks.flatten, trim line = [] ∨ (Record.read? (trim line)).isSome
    let blameless := ∀ r ∈ records chunks.flatten, r.error = none
    let successful := ∃ r ∈ records chunks.flatten, r.status = some "success"
    (result = .ok () ↔ legible ∧ blameless ∧ successful) ∧
      (legible → blameless → ¬successful → result = .error (.incomplete "pull")) := by
  intro result legible blameless successful
  have hresult : result = outcome chunks true := perform_pull hr ht hs
  have hlegible : legible ↔ ∀ line ∈ lines chunks.flatten, Legible line := by
    simp only [legible, legible_iff]
  rw [hresult, hlegible]
  constructor
  · rw [outcome_ok_iff, inoffensive_iff, and_assoc]
    exact and_congr_right fun h => and_congr_right fun _ => any_tellsSuccess_iff h
  · intro h hblameless hsuccessful
    have hnone : (lines chunks.flatten).any tellsSuccess = false := by
      rw [← Bool.not_eq_true, any_tellsSuccess_iff h]
      exact hsuccessful
    rw [outcome_inoffensive (inoffensive_iff.2 ⟨h, hblameless⟩), hnone]
    rfl

theorem pull_ok_iff_unended :
    (∃ r, (visitor.pull "tiny").request = .ok r ∧ (answering unended r ()).1 = .answer 200 unended true) ∧
      Http.Status.isSuccess 200 = true ∧ ((visitor.pull "tiny").perform (answering unended) ()).1 = .ok () := by
  obtain ⟨r, hr⟩ := visitor_request
  refine ⟨⟨r, hr, rfl⟩, rfl, (pull_ok_iff hr (t := answering unended) (s := ()) rfl rfl).1.2 ?_⟩
  decide +kernel

/-- No line that cannot be read comes behind the first offending line, if that one tells an error. -/
def Unmixed (ls : List Bytes) : Prop :=
  ∀ before line after, ls = before ++ line :: after → (∀ l ∈ before, offence l = none) → Legible line →
    offence line ≠ none → ∀ l ∈ after, Legible l

/-- What a pull that is answered as a whole comes to. Without an offending line it is done or incomplete. The first
offending line decides if it cannot be read, or if all lines behind it can. Else it is one that tells an error
and has one behind it that cannot be read, and the first such line decides exactly if the same chunk closes both.
So answers of one body come to the same, however they were cut, unless the body is of that last sort. -/
theorem pull_judged (hr : (c.pull model).request = .ok r) (ht : (t r s).1 = .answer status chunks true)
    (hs : Http.Status.isSuccess status = true) :
    let result := ((c.pull model).perform t s).1
    let ls := lines chunks.flatten
    ((∀ l ∈ ls, offence l = none) → result = conclude "pull" (ls.any tellsSuccess)) ∧
    (∀ before line after e, ls = before ++ line :: after → (∀ l ∈ before, offence l = none) →
      offence line = some e →
      (¬Legible line ∨ (∀ l ∈ after, Legible l) → result = .error e) ∧
      ∀ middle bad rest text, Legible line → after = middle ++ bad :: rest → (∀ l ∈ middle, Legible l) →
        readLine bad = .error text →
        let together := Together chunks before.length (before.length + 1 + middle.length)
        (together → result = .error (.decode (Utf8.decodeLossy text))) ∧ (¬together → result = .error e)) ∧
    (∀ {τ : Type} (t' : Transport τ) s' status' chunks', (t' r s').1 = .answer status' chunks' true →
      Http.Status.isSuccess status' = true → chunks'.flatten = chunks.flatten → Unmixed ls →
      ((c.pull model).perform t' s').1 = result) := by
  intro result ls
  have hresult : result = outcome chunks true := perform_pull hr ht hs
  rw [hresult]
  refine ⟨outcome_inoffensive, fun before line after e hls hbefore he => ⟨outcome_first hls hbefore he, ?_⟩, ?_⟩
  · rintro middle bad rest text hline rfl hmiddle hbad
    exact outcome_overtaken hls hbefore he hline hmiddle hbad
  · intro τ t' s' status' chunks' ht' hs' hflatten hunmixed
    rw [perform_pull hr ht' hs']
    by_cases h : ∀ l ∈ ls, offence l = none
    · rw [outcome_inoffensive h, outcome_inoffensive (by rwa [hflatten]), hflatten]
    · obtain ⟨before, line, after, hls, hbefore, hline⟩ := exists_first h
      obtain ⟨e, he⟩ := Option.ne_none_iff_exists'.1 hline
      have hafter : ¬Legible line ∨ ∀ l ∈ after, Legible l :=
        (em (Legible line)).symm.imp_right fun hl => hunmixed before line after hls hbefore hl hline
      rw [outcome_first hls hbefore he hafter, outcome_first (by rwa [hflatten]) hbefore he hafter]

/-- The same body comes to an error of the runtime or to one of the reader, as it was cut. -/
theorem pull_depends_on_cuts :
    [errorLine ++ badLine].flatten = [errorLine, badLine].flatten ∧
      ((visitor.pull "tiny").perform (answering [errorLine ++ badLine]) ()).1 = .error (.decode "rest") ∧
      ((visitor.pull "tiny").perform (answering [errorLine, badLine]) ()).1 = .error (.remote "gone") := by
  decide +kernel

theorem pull_judged_mixed :
    (∃ r, (visitor.pull "tiny").request = .ok r ∧
      (answering [errorLine ++ badLine] r ()).1 = .answer 200 [errorLine ++ badLine] true) ∧
      Http.Status.isSuccess 200 = true ∧
      ((visitor.pull "tiny").perform (answering [errorLine ++ badLine]) ()).1 = .error (.decode "rest") := by
  obtain ⟨r, hr⟩ := visitor_request
  have h := pull_judged hr (t := answering [errorLine ++ badLine]) (s := ()) rfl rfl
  have hls : lines [errorLine ++ badLine].flatten =
      [] ++ Utf8.encode "\x7b\"error\":\"gone\"\x7d" :: ([] ++ Utf8.encode "rest" :: [[]]) := by decide +kernel
  obtain ⟨-, hmixed⟩ := h.2.1 [] _ _ (.remote "gone") hls (List.forall_mem_nil _) (by decide +kernel)
  have hline : Legible (Utf8.encode "\x7b\"error\":\"gone\"\x7d") := by rw [legible_iff]; decide +kernel
  obtain ⟨htogether, -⟩ := hmixed [] _ [[]] (Utf8.encode "rest") hline rfl (List.forall_mem_nil _) (by decide +kernel)
  have hresult := htogether ⟨0, by decide +kernel⟩
  have htext : Utf8.decodeLossy (Utf8.encode "rest") = "rest" := by decide +kernel
  rw [htext] at hresult
  exact ⟨⟨r, hr, rfl⟩, rfl, hresult⟩

end Client
end Tenancy.Model
