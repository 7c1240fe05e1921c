/-
What a decoder does with the bytes it is given, push after push, also behind pushes that failed. A push takes the
lines that are closed, through the first that cannot be read, and keeps all bytes behind them (`takeLines_whole`), so
no byte is lost and none is made up, whatever the chunks are. Where every line can be read, the records depend on the
bytes alone and not on how they were cut.
-/
import Tenancy.Proofs.Model.Pull

namespace Tenancy.Model.Progress

/-! ## Taking lines -/

/-- A line that is not blank and holds no record. -/
def Bad (line : Bytes) : Prop := trim line ≠ [] ∧ Record.read? (trim line) = none

instance : DecidablePred Bad := fun line =>
  inferInstanceAs (Decidable (trim line ≠ [] ∧ Record.read? (trim line) = none))

theorem legible_iff_not_bad (line : Bytes) : Legible line ↔ ¬Bad line := by
  rw [legible_iff, Bad, not_and_or, not_not, ← Option.isNone_iff_eq_none, ← Option.not_isSome, Bool.not_eq_true',
    Bool.not_eq_false]

theorem readLine_of_bad {line : Bytes} (h : Bad line) : readLine line = .error (trim line) := by
  obtain ⟨hblank, hread⟩ := h
  simp [readLine, hblank, hread]

/-- Of lines, those that are taken together: all of them, or those through the first that cannot be read. -/
def taken : List Bytes → List Bytes
  | [] => []
  | line :: rest => if Bad line then [line] else line :: taken rest

/-- Lines with a line end behind each of them. -/
def unlines (ls : List Bytes) : Bytes := ls.flatMap (· ++ [lineEnd])

theorem taken_legible {ls : List Bytes} (h : ∀ line ∈ ls, ¬Bad line) : taken ls = ls := by
  induction ls with
  | nil => rfl
  | cons line rest ih =>
    obtain ⟨hline, hrest⟩ := List.forall_mem_cons.1 h
    rw [taken, if_neg hline, ih hrest]

theorem taken_bad {before : List Bytes} {bad : Bytes} (h : ∀ line ∈ before, ¬Bad line) (hbad : Bad bad)
    (after : List Bytes) : taken (before ++ bad :: after) = before ++ [bad] := by
  induction before with
  | nil => exact if_pos hbad
  | cons line rest ih =>
    obtain ⟨hline, hrest⟩ := List.forall_mem_cons.1 h
    rw [List.cons_append, taken, if_neg hline, ih hrest, List.cons_append]

theorem readLines_of_legible {ls : List Bytes} (h : ∀ line ∈ ls, Legible line) :
    readLines ls = .ok (ls.filterMap fun line => Record.read? (trim line)) := by
  induction ls with
  | nil => rfl
  | cons line rest ih =>
    obtain ⟨hline, hrest⟩ := List.forall_mem_cons.1 h
    rw [readLines, readLine_of_legible hline, ih hrest]
    cases hr : Record.read? (trim line) <;> simp [hr, bind, Except.bind, pure, Except.pure]

/-- The bytes behind the lines that are taken are kept. -/
theorem takeLines_whole (bs : Bytes) : unlines (taken (closed bs)) ++ (takeLines bs).2 = bs := by
  fun_induction takeLines bs with
  | case1 bs h =>
    rw [closed_of_not_mem (splitLine_eq_none h)]
    rfl
  | case2 bs line rest h text hr =>
    obtain ⟨rfl, hn⟩ := splitLine_eq_some h
    have hbad : Bad line := by
      by_contra hline
      rw [readLine_of_legible ((legible_iff_not_bad line).2 hline)] at hr
      cases hr
    rw [closed_append_lineEnd hn, taken, if_pos hbad]
    simp [unlines]
  | case3 bs line rest h record hr records left ht ih =>
    obtain ⟨rfl, hn⟩ := splitLine_eq_some h
    have hline : ¬Bad line := (legible_iff_not_bad line).1 ⟨record, hr⟩
    rw [ht] at ih
    rw [closed_append_lineEnd hn, taken, if_neg hline, unlines, List.flatMap_cons, List.append_assoc, List.append_assoc]
    exact congrArg (fun bs => line ++ lineEnd :: bs) ih

theorem not_mem_closed {bs line : Bytes} (h : line ∈ closed bs) : lineEnd ∉ line := by
  induction bs using lines_induction with
  | single last hlast =>
    rw [closed_of_not_mem hlast] at h
    cases h
  | more first rest hfirst ih =>
    rw [closed_append_lineEnd hfirst] at h
    rcases List.mem_cons.1 h with rfl | h
    · exact hfirst
    · exact ih h

/-! ## Pushes -/

/-- One push: the decoder before it, and the chunk. -/
structure Push where
  before : Decoder
  chunk : Bytes

namespace Push

/-- What a push gives: its records, or the text that it fails on. -/
def result (p : Push) : Except Bytes (List Record) := (p.before.push p.chunk).1

/-- The decoder behind a push. -/
def after (p : Push) : Decoder := (p.before.push p.chunk).2

/-- The lines that are closed when a push begins to take them. -/
def reached (p : Push) : List Bytes := closed (p.before.buffer ++ p.chunk)

/-- The lines that a push takes. -/
def taken (p : Push) : List Bytes := Progress.taken p.reached

/-- What is expected of a push. It loses no byte; it fails exactly if a line it reaches is neither blank nor holds a
record, and then has taken the lines through the first such line, none of those behind it; otherwise it has taken
every line that was closed, and its records are those of these lines. -/
structure Sound (p : Push) : Prop where
  whole : unlines p.taken ++ p.after.buffer = p.before.buffer ++ p.chunk
  line : ∀ line ∈ p.taken, lineEnd ∉ line
  fails_iff : (∃ text, p.result = .error text) ↔ ∃ line ∈ p.reached, Bad line
  failed : ∀ text, p.result = .error text → ∃ before bad after, p.reached = before ++ bad :: after ∧
    (∀ line ∈ before, ¬Bad line) ∧ Bad bad ∧ text = trim bad ∧ p.taken = before ++ [bad]
  passed : ∀ rs, p.result = .ok rs → lineEnd ∉ p.after.buffer ∧ p.taken = p.reached ∧
    rs = p.reached.filterMap fun line => Record.read? (trim line)

variable {p : Push}

theorem result_eq (p : Push) : p.result = readLines p.reached := (takeLines_eq _).1

theorem result_of_good (h : ∀ line ∈ p.reached, ¬Bad line) :
    p.result = .ok (p.reached.filterMap fun line => Record.read? (trim line)) := by
  rw [result_eq, readLines_of_legible fun line hl => (legible_iff_not_bad line).2 (h line hl)]

theorem result_of_bad {before after : List Bytes} {bad : Bytes} (hp : p.reached = before ++ bad :: after)
    (h : ∀ line ∈ before, ¬Bad line) (hbad : Bad bad) : p.result = .error (trim bad) := by
  rw [result_eq, hp, readLines_append (readLines_of_legible fun line hl => (legible_iff_not_bad line).2 (h line hl)),
    readLines, readLine_of_bad hbad]
  rfl

/-- A push that reads every line it reaches keeps what no line end has closed. -/
theorem after_of_good (h : ∀ line ∈ p.reached, ¬Bad line) : p.after = ⟨pending (p.before.buffer ++ p.chunk)⟩ :=
  congrArg Decoder.mk ((takeLines_eq _).2 _ ((result_eq p).symm.trans (result_of_good h)))

theorem sound (p : Push) : p.Sound := by
  have hwhole : unlines p.taken ++ p.after.buffer = p.before.buffer ++ p.chunk := takeLines_whole _
  by_cases hgood : ∀ line ∈ p.reached, ¬Bad line
  · have htaken : p.taken = p.reached := taken_legible hgood
    have hresult := result_of_good hgood
    refine ⟨hwhole, fun line hl => not_mem_closed (htaken ▸ hl), ⟨?_, ?_⟩, fun text he => ?_, fun rs hr => ?_⟩
    · rintro ⟨text, he⟩
      rw [hresult] at he
      cases he
    · rintro ⟨line, hl, hbad⟩
      exact absurd hbad (hgood line hl)
    · rw [hresult] at he
      cases he
    · rw [hresult] at hr
      cases hr
      exact ⟨by rw [after_of_good hgood]; exact not_mem_pending _, htaken, rfl⟩
  · obtain ⟨before, bad, after, hp, hbefore, hbad⟩ := exists_first hgood
    rw [not_not] at hbad
    have htaken : p.taken = before ++ [bad] := by rw [taken, hp, taken_bad hbefore hbad]
    have hmem : bad ∈ p.reached := by simp [hp]
    have hresult := result_of_bad hp hbefore hbad
    have hreached : ∀ line ∈ p.taken, line ∈ p.reached := by
      rw [htaken, hp, List.append_cons before bad after]
      exact fun line hl => List.mem_append_left _ hl
    refine ⟨hwhole, fun line hl => not_mem_closed (hreached line hl),
      ⟨fun _ => ⟨bad, hmem, hbad⟩, fun _ => ⟨_, hresult⟩⟩, fun text he => ?_, fun rs hr => ?_⟩
    · rw [hresult] at he
      cases he
      exact ⟨before, bad, after, hp, hbefore, hbad, rfl, htaken⟩
    · rw [hresult] at hr
      cases hr

end Push

/-! ## Push after push -/

/-- The pushes of chunks one after the other, whatever each of them gives. -/
def pushes (d : Decoder) : List Bytes → List Push
  | [] => []
  | chunk :: rest => ⟨d, chunk⟩ :: pushes (d.push chunk).2 rest

/-- The decoder behind all of them. -/
def feed (d : Decoder) (chunks : List Bytes) : Decoder := chunks.foldl (fun d chunk => (d.push chunk).2) d

theorem unlines_append (a b : List Bytes) : unlines (a ++ b) = unlines a ++ unlines b := List.flatMap_append

/-- What is kept between the pushes stands for the bytes that are not taken yet. -/
theorem pushes_whole (d : Decoder) (chunks : List Bytes) :
    unlines ((pushes d chunks).flatMap Push.taken) ++ (feed d chunks).buffer = d.buffer ++ chunks.flatten := by
  induction chunks generalizing d with
  | nil => simp [pushes, feed, unlines]
  | cons chunk rest ih =>
    have hpush := (Push.sound ⟨d, chunk⟩).whole
    calc unlines ((pushes d (chunk :: rest)).flatMap Push.taken) ++ (feed d (chunk :: rest)).buffer
        = unlines (Push.taken ⟨d, chunk⟩) ++
            (unlines ((pushes (d.push chunk).2 rest).flatMap Push.taken) ++ (feed (d.push chunk).2 rest).buffer) := by
          rw [pushes, List.flatMap_cons, unlines_append, List.append_assoc]
          rfl
      _ = unlines (Push.taken ⟨d, chunk⟩) ++ ((d.push chunk).2.buffer ++ rest.flatten) := by rw [ih]
      _ = d.buffer ++ (chunk :: rest).flatten := by
          rw [← List.append_assoc, List.flatten_cons, ← List.append_assoc]
          exact congrArg (· ++ rest.flatten) hpush

/-- Where every closed line can be read, the pushes read them all, each the lines that its chunk closes. -/
theorem pushes_good (buffer : Bytes) (hbuffer : lineEnd ∉ buffer) (chunks : List Bytes)
    (h : ∀ line ∈ closed (buffer ++ chunks.flatten), ¬Bad line) :
    ((pushes ⟨buffer⟩ chunks).map Push.result = (batches buffer chunks).map fun ls =>
        .ok (ls.filterMap fun line => Record.read? (trim line))) ∧
      feed ⟨buffer⟩ chunks = ⟨pending (buffer ++ chunks.flatten)⟩ := by
  induction chunks generalizing buffer with
  | nil =>
    rw [List.flatten_nil, List.append_nil, pending_of_not_mem hbuffer]
    exact ⟨rfl, rfl⟩
  | cons chunk rest ih =>
    rw [List.flatten_cons, ← List.append_assoc] at h ⊢
    rw [closed_append] at h
    rw [pending_append]
    have hpush : ∀ line ∈ Push.reached ⟨⟨buffer⟩, chunk⟩, ¬Bad line := fun line hl =>
      h line (List.mem_append_left _ hl)
    have hafter : (Decoder.push ⟨buffer⟩ chunk).2 = ⟨pending (buffer ++ chunk)⟩ := Push.after_of_good hpush
    obtain ⟨hresults, hfeed⟩ := ih (pending (buffer ++ chunk)) (not_mem_pending _) fun line hl =>
      h line (List.mem_append_right _ hl)
    constructor
    · rw [pushes, hafter, List.map_cons, hresults, Push.result_of_good hpush]
      rfl
    · rw [feed, List.foldl_cons, hafter]
      exact hfeed

/-- A decoder neither loses nor makes up a line, whatever it is given, and however its pushes end. The lines that its
pushes took and the bytes it keeps are together the bytes it was given; each push takes the lines it should. If every
line can be read, the pushes and the end of the stream give the records of the bytes, in order, and these are the same
under every division into chunks. -/
theorem decoder_conserves (chunks : List Bytes) :
    unlines ((pushes {} chunks).flatMap Push.taken) ++ (feed {} chunks).buffer = chunks.flatten ∧
      (∀ p ∈ pushes {} chunks, p.Sound) ∧
      ((∀ line ∈ lines chunks.flatten, ¬Bad line) → ∃ (parts : List (List Record)) (last : Option Record),
        (pushes {} chunks).map Push.result = parts.map .ok ∧ (feed {} chunks).finish = .ok last ∧
          parts.flatten ++ last.toList = records chunks.flatten) := by
  refine ⟨pushes_whole {} chunks, fun p _ => p.sound, fun h => ?_⟩
  rw [← closed_append_pending] at h
  obtain ⟨hresults, hfeed⟩ :=
    pushes_good [] List.not_mem_nil chunks fun line hl => h line (List.mem_append_left _ hl)
  have hlast : ¬Bad (pending chunks.flatten) := h _ (List.mem_append_right _ (List.mem_singleton_self _))
  refine ⟨(batches [] chunks).map fun ls => ls.filterMap fun line => Record.read? (trim line),
    Record.read? (trim (pending chunks.flatten)), ?_, ?_, ?_⟩
  · rw [List.map_map]
    exact hresults
  · have hbuffer : feed {} chunks = ⟨pending chunks.flatten⟩ := hfeed
    rw [hbuffer]
    exact readLine_of_legible ((legible_iff_not_bad _).2 hlast)
  · rw [records, ← closed_append_pending, List.filterMap_append, ← List.nil_append chunks.flatten,
      ← flatten_batches [] List.not_mem_nil, List.filterMap_flatten]
    cases hr : Record.read? (trim (pending chunks.flatten)) <;> simp [hr]

theorem decoder_conserves_unended :
    (∀ line ∈ lines Client.unended.flatten, ¬Bad line) ∧
      (∃ (parts : List (List Record)) (last : Option Record),
        (pushes {} Client.unended).map Push.result = parts.map .ok ∧ (feed {} Client.unended).finish = .ok last ∧
          parts.flatten ++ last.toList = [{ status := some "pulling" }, { status := some "success" }]) := by
  have hgood : ∀ line ∈ lines Client.unended.flatten, ¬Bad line := by decide +kernel
  have hrecords : records Client.unended.flatten = [{ status := some "pulling" }, { status := some "success" }] := by
    decide +kernel
  rw [← hrecords]
  exact ⟨hgood, (decoder_conserves Client.unended).2.2 hgood⟩

/-- The lines behind one that cannot be read come with the next push. -/
example : (pushes {} [Utf8.encode "rest\n\x7b\x7d\n", []]).map Push.taken =
    [[Utf8.encode "rest"], [Utf8.encode "\x7b\x7d"]] := by decide +kernel

end Tenancy.Model.Progress
