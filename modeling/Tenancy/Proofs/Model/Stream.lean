/-
What a progress stream amounts to, however it was cut on its way. The lines of a body are the same under every
division (`flatten_batches`); a division only decides which of them a chunk closes together, and those are read
before any of them is judged (`outcome_eq`). So a stream without an offending line is judged by its lines alone,
and of offending lines the first decides, unless one that cannot be read is closed together with it.
-/
import Tenancy.Model.Client
import Mathlib.Data.List.TakeWhile
import Mathlib.Tactic

namespace Tenancy.Model.Progress

/-! ## Lines -/

/-- The lines of a body; what no line end closes is the last of them. -/
def lines (body : Bytes) : List Bytes := body.splitOn lineEnd

theorem lines_ne_nil (body : Bytes) : lines body ≠ [] := by
  simp [lines]

/-- The lines that are closed. -/
def closed (body : Bytes) : List Bytes := (lines body).dropLast

/-- What stands behind the last line end. -/
def pending (body : Bytes) : Bytes := (lines body).getLast (lines_ne_nil body)

theorem closed_append_pending (body : Bytes) : closed body ++ [pending body] = lines body :=
  List.dropLast_append_getLast _

theorem lines_of_not_mem {body : Bytes} (h : lineEnd ∉ body) : lines body = [body] := List.splitOn_eq_singleton h

theorem lines_append_lineEnd (a b : Bytes) : lines (a ++ lineEnd :: b) = lines a ++ lines b :=
  List.splitOn_append_cons_self a b

theorem closed_of_not_mem {body : Bytes} (h : lineEnd ∉ body) : closed body = [] := by
  rw [closed, lines_of_not_mem h, List.dropLast_singleton]

theorem pending_of_not_mem {body : Bytes} (h : lineEnd ∉ body) : pending body = body := by
  simp only [pending, lines_of_not_mem h, List.getLast_singleton]

theorem closed_append_lineEnd {line : Bytes} (h : lineEnd ∉ line) (rest : Bytes) :
    closed (line ++ lineEnd :: rest) = line :: closed rest := by
  rw [closed, lines_append_lineEnd, lines_of_not_mem h, List.dropLast_append_of_ne_nil (lines_ne_nil rest), closed,
    List.singleton_append]

theorem pending_append_lineEnd (a b : Bytes) : pending (a ++ lineEnd :: b) = pending b := by
  simp only [pending, lines_append_lineEnd]
  exact List.getLast_append_of_ne_nil _ (lines_ne_nil b)

/-- A body is one open line, or a closed line in front of another body. -/
@[elab_as_elim]
theorem lines_induction {P : Bytes → Prop} (single : ∀ line, lineEnd ∉ line → P line)
    (more : ∀ line rest, lineEnd ∉ line → P rest → P (line ++ lineEnd :: rest)) (body : Bytes) : P body := by
  induction h : body.length using Nat.strong_induction_on generalizing body with
  | _ n ih =>
    by_cases hm : lineEnd ∈ body
    · obtain ⟨line, rest, rfl, hline⟩ := List.eq_append_cons_of_mem hm
      refine more line rest hline (ih rest.length ?_ rest rfl)
      rw [← h, List.length_append, List.length_cons]
      omega
    · exact single body hm

theorem not_mem_pending (body : Bytes) : lineEnd ∉ pending body := by
  induction body using lines_induction with
  | single line h => rwa [pending_of_not_mem h]
  | more line rest _ ih => rwa [pending_append_lineEnd]

/-- Bytes that come later go on with what was pending, and touch no line that was closed. -/
theorem closed_append (a b : Bytes) : closed (a ++ b) = closed a ++ closed (pending a ++ b) := by
  induction a using lines_induction with
  | single line h => rw [closed_of_not_mem h, pending_of_not_mem h, List.nil_append]
  | more line rest h ih =>
    rw [List.append_assoc, List.cons_append, closed_append_lineEnd h, ih, closed_append_lineEnd h,
      pending_append_lineEnd, List.cons_append]

theorem pending_append (a b : Bytes) : pending (a ++ b) = pending (pending a ++ b) := by
  induction a using lines_induction with
  | single line h => rw [pending_of_not_mem h]
  | more line rest h ih =>
    rw [List.append_assoc, List.cons_append, pending_append_lineEnd, ih, pending_append_lineEnd]

theorem length_closed (body : Bytes) : (closed body).length = body.count lineEnd := by
  induction body using lines_induction with
  | single line h => rw [closed_of_not_mem h, List.count_eq_zero_of_not_mem h, List.length_nil]
  | more line rest h ih =>
    rw [closed_append_lineEnd h, List.length_cons, ih, List.count_append, List.count_eq_zero_of_not_mem h,
      List.count_cons_self, Nat.zero_add]

/-! ## Reading lines -/

/-- The records of lines that are read together; the first line that cannot be read is the error. -/
def readLines : List Bytes → Except Bytes (List Record)
  | [] => .ok []
  | line :: rest => do
    let record ← readLine line
    return record.toList ++ (← readLines rest)

theorem splitLine_eq_none {bs : Bytes} (h : splitLine bs = none) : lineEnd ∉ bs := by
  unfold splitLine at h
  split at h
  · next hd =>
    intro hm
    simpa using List.dropWhile_eq_nil_iff.1 hd _ hm
  · cases h

theorem splitLine_eq_some {bs line rest : Bytes} (h : splitLine bs = some (line, rest)) :
    bs = line ++ lineEnd :: rest ∧ lineEnd ∉ line := by
  unfold splitLine at h
  split at h
  · cases h
  · next b rest' hd =>
    obtain ⟨rfl, rfl⟩ := Prod.mk.inj (Option.some.inj h)
    have hb : b = lineEnd := by
      have := List.head?_dropWhile_not (· ≠ lineEnd) bs
      rw [hd] at this
      simpa using this
    constructor
    · conv_lhs => rw [← List.takeWhile_append_dropWhile (p := (· ≠ lineEnd)) (l := bs), hd, hb]
    · intro hm
      simpa using List.mem_takeWhile_imp hm

/-- The decoder takes the closed lines; if all of them can be read, what is pending remains. -/
theorem takeLines_eq (bs : Bytes) :
    (takeLines bs).1 = readLines (closed bs) ∧
      ∀ records, readLines (closed bs) = .ok records → (takeLines bs).2 = pending bs := by
  fun_induction takeLines bs with
  | case1 bs h =>
    have hn := splitLine_eq_none h
    rw [closed_of_not_mem hn, pending_of_not_mem hn]
    exact ⟨rfl, fun _ _ => rfl⟩
  | case2 bs line rest h text hr =>
    obtain ⟨rfl, hn⟩ := splitLine_eq_some h
    rw [closed_append_lineEnd hn, readLines, hr]
    exact ⟨rfl, fun _ hok => by cases hok⟩
  | case3 bs line rest h record hr records left ht ih =>
    obtain ⟨rfl, hn⟩ := splitLine_eq_some h
    rw [ht] at ih
    obtain ⟨hrecords, hleft⟩ := ih
    rw [closed_append_lineEnd hn, pending_append_lineEnd, readLines, hr, ← hrecords]
    cases records with
    | ok records => exact ⟨rfl, fun _ _ => hleft _ hrecords.symm⟩
    | error text => exact ⟨rfl, fun _ hok => by cases hok⟩

/-! ## Judging lines -/

/-- Whether a line can be read. -/
def Legible (line : Bytes) : Prop := ∃ record, readLine line = .ok record

/-- What a line on its own fails a stream with: it cannot be read, or it tells an error. -/
def offence (line : Bytes) : Option Model.Error :=
  match readLine line with
  | .error text => some (.decode (Utf8.decodeLossy text))
  | .ok record => (record.bind (·.error)).map .remote

/-- Whether a line tells a success. -/
def tellsSuccess (line : Bytes) : Bool :=
  match readLine line with
  | .error _ => false
  | .ok record => record.any (·.isSuccess)

theorem legible_of_offence {line : Bytes} (h : offence line = none) : Legible line := by
  unfold offence at h
  split at h
  · cases h
  · next record hr => exact ⟨record, hr⟩

/-- Lines that are read together are judged in order, once all of them have been read. -/
def judge (succeeded : Bool) (batch : List Bytes) : Except Model.Error Bool :=
  match readLines batch with
  | .error text => .error (.decode (Utf8.decodeLossy text))
  | .ok records => records.foldlM observe succeeded

theorem judge_singleton (succeeded : Bool) (line : Bytes) :
    judge succeeded [line] =
      match readLine line with
      | .error text => .error (.decode (Utf8.decodeLossy text))
      | .ok record => record.toList.foldlM observe succeeded := by
  rw [judge, readLines]
  cases readLine line with
  | error text => rfl
  | ok record => simp [readLines, bind, Except.bind, pure, Except.pure]

theorem readLines_legible {batch : List Bytes} (h : ∀ line ∈ batch, Legible line) :
    ∃ records, readLines batch = .ok records := by
  induction batch with
  | nil => exact ⟨[], rfl⟩
  | cons line rest ih =>
    obtain ⟨⟨record, hr⟩, hrest⟩ := List.forall_mem_cons.1 h
    obtain ⟨records, hrs⟩ := ih hrest
    exact ⟨record.toList ++ records, by rw [readLines, hr, hrs]; rfl⟩

theorem readLines_append {a b : List Bytes} {records : List Record} (h : readLines a = .ok records) :
    readLines (a ++ b) = (readLines b).map (records ++ ·) := by
  induction a generalizing records with
  | nil =>
    cases h
    rw [List.nil_append]
    cases readLines b <;> rfl
  | cons line rest ih =>
    rw [readLines] at h
    cases hr : readLine line with
    | error text => rw [hr] at h; cases h
    | ok record =>
      cases hrs : readLines rest with
      | error text => rw [hr, hrs] at h; cases h
      | ok others =>
        rw [hr, hrs] at h
        cases h
        rw [List.cons_append, readLines, hr, ih hrs]
        cases readLines b with
        | error text => rfl
        | ok more => exact congrArg Except.ok (List.append_assoc ..).symm

/-- Of lines that are read together the first that cannot be read decides, whatever stands before it. -/
theorem judge_illegible {before after : List Bytes} {bad text : Bytes} (h : ∀ line ∈ before, Legible line)
    (hbad : readLine bad = .error text) (succeeded : Bool) :
    judge succeeded (before ++ bad :: after) = .error (.decode (Utf8.decodeLossy text)) := by
  obtain ⟨records, hr⟩ := readLines_legible h
  rw [judge, readLines_append hr, readLines, hbad]
  rfl

/-- What the record of one line does. -/
theorem observe_line {line : Bytes} {record : Option Record} (h : readLine line = .ok record) (succeeded : Bool) :
    record.toList.foldlM observe succeeded =
      match offence line with
      | some e => .error e
      | none => .ok (succeeded || tellsSuccess line) := by
  rw [offence, tellsSuccess, h]
  cases record with
  | none => simp [pure, Except.pure]
  | some r =>
    cases he : r.error with
    | none => simp [observe, he]
    | some text => simp [observe, he]

/-- If all of them can be read, lines that are read together are judged like lines that are read one by one. -/
theorem judge_legible {batch : List Bytes} (h : ∀ line ∈ batch, Legible line) (succeeded : Bool) :
    judge succeeded batch =
      match batch.findSome? offence with
      | some e => .error e
      | none => .ok (succeeded || batch.any tellsSuccess) := by
  induction batch generalizing succeeded with
  | nil => simp [judge, readLines, pure, Except.pure]
  | cons line rest ih =>
    obtain ⟨⟨record, hr⟩, hrest⟩ := List.forall_mem_cons.1 h
    obtain ⟨records, hrs⟩ := readLines_legible hrest
    have hjudge : judge succeeded (line :: rest) =
        record.toList.foldlM observe succeeded >>= fun succeeded => judge succeeded rest := by
      simp only [judge, readLines, hr, hrs]
      exact List.foldlM_append
    rw [hjudge, observe_line hr, List.findSome?_cons, List.any_cons]
    cases offence line with
    | some e => rfl
    | none => rw [← Bool.or_assoc]; exact ih hrest _

/-! ## Divisions -/

/-- The lines that each of the chunks closes, where `buffer` stands before them. -/
def batches (buffer : Bytes) : List Bytes → List (List Bytes)
  | [] => []
  | chunk :: rest => closed (buffer ++ chunk) :: batches (pending (buffer ++ chunk)) rest

/-- The lines of a body as its chunks close them; what they leave open comes at the end. -/
def division (chunks : List Bytes) : List (List Bytes) := batches [] chunks ++ [[pending chunks.flatten]]

theorem flatten_batches (buffer : Bytes) (h : lineEnd ∉ buffer) (chunks : List Bytes) :
    (batches buffer chunks).flatten = closed (buffer ++ chunks.flatten) := by
  induction chunks generalizing buffer with
  | nil => rw [batches, List.flatten_nil, List.flatten_nil, List.append_nil, closed_of_not_mem h]
  | cons chunk rest ih =>
    rw [batches, List.flatten_cons, List.flatten_cons, ih _ (not_mem_pending _), ← closed_append, List.append_assoc]

/-- Every division of a body has the same lines. -/
theorem flatten_division (chunks : List Bytes) : (division chunks).flatten = lines chunks.flatten := by
  rw [division, List.flatten_append, flatten_batches [] List.not_mem_nil, List.nil_append, List.flatten_singleton,
    closed_append_pending]

/-- A stream is followed batch by batch. -/
theorem follow_eq (buffer : Bytes) (h : lineEnd ∉ buffer) (succeeded : Bool) (chunks : List Bytes) :
    follow ⟨buffer⟩ succeeded chunks = ((batches buffer chunks).foldlM judge succeeded).map
      fun succeeded => (⟨pending (buffer ++ chunks.flatten)⟩, succeeded) := by
  induction chunks generalizing buffer succeeded with
  | nil => simp [follow, batches, pending_of_not_mem h, pure, Except.pure, Except.map]
  | cons chunk rest ih =>
    obtain ⟨hread, hleft⟩ := takeLines_eq (buffer ++ chunk)
    rw [follow, batches, List.foldlM_cons, judge]
    cases hr : readLines (closed (buffer ++ chunk)) with
    | error text =>
      have hpush : (Decoder.push ⟨buffer⟩ chunk).1 = .error text := hread.trans hr
      split
      · next line d hp =>
        rw [hp] at hpush
        cases hpush
        rfl
      · next hp =>
        rw [hp] at hpush
        cases hpush
    | ok records =>
      have hpush : Decoder.push ⟨buffer⟩ chunk = (.ok records, ⟨pending (buffer ++ chunk)⟩) :=
        Prod.ext (hread.trans hr) (congrArg Decoder.mk (hleft _ hr))
      simp only [hpush]
      cases records.foldlM observe succeeded with
      | error e => rfl
      | ok succeeded =>
        refine (ih _ (not_mem_pending _) succeeded).trans ?_
        rw [← pending_append, List.append_assoc, List.flatten_cons]
        rfl

/-- A whole stream comes to what its batches come to, and is done if there was a success among them. -/
theorem outcome_eq (chunks : List Bytes) :
    outcome chunks true = (division chunks).foldlM judge false >>= conclude "pull" := by
  rw [outcome, division, List.foldlM_append, follow_eq [] List.not_mem_nil, List.nil_append]
  cases (batches [] chunks).foldlM judge false with
  | error e => rfl
  | ok succeeded =>
    show _ = (judge succeeded [pending chunks.flatten] >>= fun succeeded => .ok succeeded) >>= conclude "pull"
    rw [judge_singleton]
    simp only [Except.map, Decoder.finish, bind, Except.bind]
    cases readLine (pending chunks.flatten) with
    | error text => rfl
    | ok record => cases h : record.toList.foldlM observe succeeded <;> simp [h]

/-! ## Lines closed together -/

/-- How many lines the chunks close. -/
def ends (chunks : List Bytes) : Nat := chunks.flatten.count lineEnd

/-- The lines of two places in a stream are closed by the same chunk. -/
def Together (chunks : List Bytes) (i j : Nat) : Prop :=
  ∃ k, ends (chunks.take k) ≤ i ∧ j < ends (chunks.take (k + 1))

theorem ends_take_mono (chunks : List Bytes) {k k' : Nat} (h : k ≤ k') :
    ends (chunks.take k) ≤ ends (chunks.take k') := by
  obtain ⟨d, rfl⟩ := Nat.exists_eq_add_of_le h
  rw [ends, ends, List.take_add, List.flatten_append, List.count_append]
  exact Nat.le_add_right ..

theorem batches_take (buffer : Bytes) (chunks : List Bytes) (k : Nat) :
    (batches buffer chunks).take k = batches buffer (chunks.take k) := by
  induction chunks generalizing buffer k with
  | nil => simp [batches]
  | cons chunk rest ih =>
    cases k with
    | zero => rfl
    | succ k => rw [batches, List.take_succ_cons, ih, List.take_succ_cons, batches]

theorem length_batches (buffer : Bytes) (chunks : List Bytes) : (batches buffer chunks).length = chunks.length := by
  induction chunks generalizing buffer with
  | nil => rfl
  | cons chunk rest ih => rw [batches, List.length_cons, ih, List.length_cons]

theorem length_flatten_batches (chunks : List Bytes) : (batches [] chunks).flatten.length = ends chunks := by
  rw [flatten_batches [] List.not_mem_nil, List.nil_append, length_closed, ends]

theorem together_iff {chunks : List Bytes} {pre post : List (List Bytes)} {batch : List Bytes} {i j : Nat}
    (h : division chunks = pre ++ batch :: post) (hle : pre.flatten.length ≤ i)
    (hlt : i < pre.flatten.length + batch.length) (hij : i < j) :
    Together chunks i j ↔ j < pre.flatten.length + batch.length := by
  have htake (k : Nat) (hk : k ≤ chunks.length) : (division chunks).take k = batches [] (chunks.take k) := by
    rw [division, List.take_append_of_le_length (by rwa [length_batches]), batches_take]
  have hlen := congrArg List.length h
  rw [division, List.length_append, length_batches] at hlen
  simp only [List.length_append, List.length_cons, List.length_nil] at hlen
  have hpre : pre.flatten.length = ends (chunks.take pre.length) := by
    rw [← length_flatten_batches, ← htake _ (by omega), h, List.take_left]
  by_cases hlast : pre.length = chunks.length
  · -- the line that nothing closes is a batch of its own
    have hpost : post = [] := List.eq_nil_of_length_eq_zero (by omega)
    subst hpost
    obtain ⟨rfl, -⟩ := List.cons.inj (List.append_inj_right h (by rw [length_batches, hlast]))
    rw [hlast, List.take_length] at hpre
    rw [List.length_singleton] at hlt ⊢
    constructor
    · rintro ⟨k, -, hj⟩
      have hall : ends (chunks.take (k + 1)) ≤ ends (chunks.take (max (k + 1) chunks.length)) :=
        ends_take_mono chunks (le_max_left ..)
      rw [List.take_of_length_le (le_max_right ..)] at hall
      omega
    · intro hj
      omega
  · have hbatch : pre.flatten.length + batch.length = ends (chunks.take (pre.length + 1)) := by
      rw [← length_flatten_batches, ← htake _ (by omega), h, List.take_length_add_append, List.flatten_append,
        List.length_append]
      simp
    rw [hbatch] at hlt ⊢
    rw [hpre] at hle
    constructor
    · rintro ⟨k, hk, hj⟩
      rcases Nat.lt_trichotomy k pre.length with hlow | rfl | hhigh
      · have := ends_take_mono chunks (show k + 1 ≤ pre.length from hlow)
        omega
      · exact hj
      · have := ends_take_mono chunks (show pre.length + 1 ≤ k from hhigh)
        omega
    · exact fun hj => ⟨pre.length, hle, hj⟩

/-! ## Outcomes -/

/-- Inoffensive batches tell whether there has been a success. -/
theorem foldlM_judge {bs : List (List Bytes)} (h : ∀ line ∈ bs.flatten, offence line = none) (succeeded : Bool) :
    bs.foldlM judge succeeded = .ok (succeeded || bs.flatten.any tellsSuccess) := by
  induction bs generalizing succeeded with
  | nil => simp [pure, Except.pure]
  | cons batch rest ih =>
    rw [List.flatten_cons, List.forall_mem_append] at h
    rw [List.foldlM_cons, judge_legible fun line hl => legible_of_offence (h.1 line hl),
      List.findSome?_eq_none_iff.2 h.1, List.flatten_cons, List.any_append, ← Bool.or_assoc]
    exact ih h.2 _

/-- The first batch with an offence decides. -/
theorem foldlM_judge_stop {pre post : List (List Bytes)} {batch : List Bytes} {e : Model.Error}
    (h : ∀ line ∈ pre.flatten, offence line = none) (hbatch : ∀ succeeded, judge succeeded batch = .error e)
    (succeeded : Bool) : (pre ++ batch :: post).foldlM judge succeeded = .error e := by
  rw [List.foldlM_append, foldlM_judge h]
  show (batch :: post).foldlM judge _ = _
  rw [List.foldlM_cons, hbatch]
  rfl

/-- The batch in which a line stands. -/
theorem batch_of_line {bs : List (List Bytes)} {before after : List Bytes} {line : Bytes}
    (h : bs.flatten = before ++ line :: after) : ∃ pre b₁ b₂ post, bs = pre ++ (b₁ ++ line :: b₂) :: post ∧
      before = pre.flatten ++ b₁ ∧ after = b₂ ++ post.flatten := by
  rcases List.flatten_eq_append_iff.1 h with ⟨as, bs, rfl, rfl, hbs⟩ | ⟨as, bs, c, cs, ds, rfl, rfl, hcs⟩
  · obtain ⟨es, b₂, post, rfl, hes, rfl⟩ := List.flatten_eq_cons_iff.1 hbs.symm
    refine ⟨as ++ es, [], b₂, post, by simp, ?_, rfl⟩
    rw [List.flatten_append, List.flatten_eq_nil_iff.2 hes]
    simp
  · obtain ⟨rfl, rfl⟩ := List.cons.inj hcs
    exact ⟨as, bs, cs, ds, rfl, rfl, rfl⟩

variable {chunks : List Bytes} {before after : List Bytes} {line : Bytes} {e : Model.Error}

/-- A stream without an offending line is done exactly if one of its lines tells a success. -/
theorem outcome_inoffensive (h : ∀ line ∈ lines chunks.flatten, offence line = none) :
    outcome chunks true = conclude "pull" ((lines chunks.flatten).any tellsSuccess) := by
  rw [← flatten_division] at h ⊢
  rw [outcome_eq, foldlM_judge h, Bool.false_or]
  rfl

/-- What the batch of the first offending line comes to, the stream comes to. -/
theorem outcome_of_batch {pre post : List (List Bytes)} {b₁ b₂ : List Bytes}
    (h : division chunks = pre ++ (b₁ ++ line :: b₂) :: post) (hbefore : ∀ l ∈ pre.flatten, offence l = none)
    (hbatch : ∀ succeeded, judge succeeded (b₁ ++ line :: b₂) = .error e) : outcome chunks true = .error e := by
  rw [outcome_eq, h, foldlM_judge_stop hbefore hbatch]
  rfl

/-- Read together with lines that can be read, the first offending line decides. -/
theorem judge_first {b₁ b₂ : List Bytes} (hbefore : ∀ l ∈ b₁, offence l = none) (he : offence line = some e)
    (hafter : ¬Legible line ∨ ∀ l ∈ b₂, Legible l) (succeeded : Bool) :
    judge succeeded (b₁ ++ line :: b₂) = .error e := by
  by_cases hline : Legible line
  · have hall : ∀ l ∈ b₁ ++ line :: b₂, Legible l := by
      rw [List.forall_mem_append, List.forall_mem_cons]
      exact ⟨fun l hl => legible_of_offence (hbefore l hl), hline, hafter.resolve_left (not_not_intro hline)⟩
    rw [judge_legible hall, List.findSome?_append, List.findSome?_eq_none_iff.2 hbefore, List.findSome?_cons, he]
    rfl
  · cases hr : readLine line with
    | ok record => exact absurd ⟨record, hr⟩ hline
    | error text =>
      rw [offence, hr] at he
      rw [judge_illegible (fun l hl => legible_of_offence (hbefore l hl)) hr]
      exact congrArg Except.error (Option.some.inj he)

/-- The first offending line of a stream decides if it cannot be read, or all lines behind it can. -/
theorem outcome_first (h : lines chunks.flatten = before ++ line :: after)
    (hbefore : ∀ l ∈ before, offence l = none) (he : offence line = some e)
    (hafter : ¬Legible line ∨ ∀ l ∈ after, Legible l) : outcome chunks true = .error e := by
  rw [← flatten_division] at h
  obtain ⟨pre, b₁, b₂, post, hd, rfl, rfl⟩ := batch_of_line h
  rw [List.forall_mem_append] at hbefore hafter
  exact outcome_of_batch hd hbefore.1 (judge_first hbefore.2 he (hafter.imp_right And.left))

/-- Where it tells an error and a later line cannot be read, the first such line decides in its place if both are
closed together. -/
theorem outcome_overtaken {middle rest : List Bytes} {bad text : Bytes}
    (h : lines chunks.flatten = before ++ line :: (middle ++ bad :: rest))
    (hbefore : ∀ l ∈ before, offence l = none) (he : offence line = some e) (hline : Legible line)
    (hmiddle : ∀ l ∈ middle, Legible l) (hbad : readLine bad = .error text) :
    (Together chunks before.length (before.length + 1 + middle.length) →
      outcome chunks true = .error (.decode (Utf8.decodeLossy text))) ∧
    (¬Together chunks before.length (before.length + 1 + middle.length) → outcome chunks true = .error e) := by
  rw [← flatten_division] at h
  obtain ⟨pre, b₁, b₂, post, hd, rfl, hrest⟩ := batch_of_line h
  rw [List.forall_mem_append] at hbefore
  have htogether : Together chunks (pre.flatten ++ b₁).length ((pre.flatten ++ b₁).length + 1 + middle.length) ↔
      middle.length < b₂.length := by
    rw [together_iff hd] <;> simp only [List.length_append, List.length_cons] <;> omega
  rw [htogether]
  constructor
  · intro hlt
    rcases List.append_eq_append_iff.1 hrest with ⟨_ | ⟨b, s⟩, rfl, hs⟩ | ⟨s, rfl, -⟩
    · rw [List.append_nil] at hlt
      exact absurd hlt (Nat.lt_irrefl _)
    · obtain ⟨rfl, -⟩ := List.cons.inj hs
      refine outcome_of_batch hd hbefore.1 fun succeeded => ?_
      have hlegible : ∀ l ∈ b₁ ++ line :: middle, Legible l := by
        rw [List.forall_mem_append, List.forall_mem_cons]
        exact ⟨fun l hl => legible_of_offence (hbefore.2 l hl), hline, hmiddle⟩
      rw [← List.cons_append, ← List.append_assoc]
      exact judge_illegible hlegible hbad succeeded
    · rw [List.length_append] at hlt
      omega
  · intro hle
    -- what is read together with the offending line stands before the bad one
    have hsub : b₂ <+: middle := by
      refine List.prefix_of_prefix_length_le ?_ (List.prefix_append middle (bad :: rest)) (Nat.le_of_not_lt hle)
      rw [hrest]
      exact List.prefix_append ..
    exact outcome_of_batch hd hbefore.1
      (judge_first hbefore.2 he (.inr fun l hl => hmiddle l (hsub.subset hl)))

/-- The first line that is not of a sort. -/
theorem exists_first {p : Bytes → Prop} {ls : List Bytes} (h : ¬∀ l ∈ ls, p l) :
    ∃ before line after, ls = before ++ line :: after ∧ (∀ l ∈ before, p l) ∧ ¬p line := by
  induction ls with
  | nil => exact absurd (List.forall_mem_nil _) h
  | cons line rest ih =>
    by_cases hline : p line
    · obtain ⟨before, bad, after, rfl, hbefore, hbad⟩ := ih fun hrest => h (List.forall_mem_cons.2 ⟨hline, hrest⟩)
      exact ⟨line :: before, bad, after, rfl, List.forall_mem_cons.2 ⟨hline, hbefore⟩, hbad⟩
    · exact ⟨[], line, rest, rfl, List.forall_mem_nil _, hline⟩

/-- With an offending line a stream fails. -/
theorem outcome_offended (h : ¬∀ line ∈ lines chunks.flatten, offence line = none) :
    ∃ e, outcome chunks true = .error e := by
  obtain ⟨before, line, after, hls, hbefore, hline⟩ := exists_first h
  obtain ⟨e, he⟩ := Option.ne_none_iff_exists'.1 hline
  by_cases hafter : ¬Legible line ∨ ∀ l ∈ after, Legible l
  · exact ⟨e, outcome_first hls hbefore he hafter⟩
  · rw [not_or, not_not] at hafter
    obtain ⟨middle, bad, rest, rfl, hmiddle, hbad⟩ := exists_first hafter.2
    cases hr : readLine bad with
    | ok record => exact absurd ⟨record, hr⟩ hbad
    | error text =>
      obtain ⟨htogether, hapart⟩ := outcome_overtaken hls hbefore he hafter.1 hmiddle hr
      by_cases ht : Together chunks before.length (before.length + 1 + middle.length)
      · exact ⟨_, htogether ht⟩
      · exact ⟨_, hapart ht⟩

end Tenancy.Model.Progress
