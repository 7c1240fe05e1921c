/-
Models of one name. A declared model may have the name that a variant of another one is given, and a runtime knows
models by their names only. Of the targets of one name the sync brings exactly the first in its order, and leaves out
the others (`Syncs.broughtAs_first`); so a declared model stands in for a variant of its name, or the variant for it,
as their order has it (`namesakes_first`). No two variants get into each other's way.
-/
import Tenancy.Proofs.Model.Variant
import Tenancy.Proofs.Run.Schedule
import Tenancy.Proofs.Run.Upkeep

namespace Tenancy.Operator

open Model

variable {tenant : String} {limit : Duration} {t : Trace} {inv inv' : List Model.Entry}

/-! ## Runtimes that are left alone -/

/-- A call to a runtime that serves, and adds nothing but what it is told to. -/
structure Obeys (tenant : String) (inv : List Model.Entry) (x : Answered) (inv' : List Model.Entry) : Prop extends
    Serves tenant inv x inv' where
  only : ∀ e ∈ inv', e ∈ inv ∨ ∃ target, x.brought? = some target ∧ canonical e.identifier = canonical target.name

/-- The answered calls of a trace one after the other, on a runtime to which nobody else adds models. -/
def Unaided (R : List Model.Entry → Answered → List Model.Entry → Prop) :
    List Model.Entry → Trace → List Model.Entry → Prop
  | inv, [], inv' => inv' = inv
  | inv, x :: t, inv' => ∃ n, R inv x n ∧ Unaided R n t inv'

theorem Obeys.present_of_none {x : Answered} (h : Obeys tenant inv x inv') (hx : x.brought? = none)
    (reference : String) : present inv' reference = present inv reference := by
  rw [Bool.eq_iff_iff]
  refine ⟨fun hp => ?_, present_mono h.keeps⟩
  obtain ⟨e, he, hc⟩ := present_iff.1 hp
  rcases h.only e he with he | ⟨target, hbrought, -⟩
  · exact present_iff.2 ⟨e, he, hc⟩
  · cases hx.symm.trans hbrought

/-- After a target has been brought, what was present is, and what has the name of the target. -/
theorem Target.Brings.present_iff {target : Target} {x : Answered} (hb : target.Brings tenant limit x (.ok ()))
    (h : Obeys tenant inv x inv') (reference : String) : Model.present inv' reference = true ↔
      Model.present inv reference = true ∨ canonical target.name = canonical reference := by
  constructor
  · intro hp
    obtain ⟨e, he, hc⟩ := Model.present_iff.1 hp
    rcases h.only e he with he | ⟨target', hx, ht⟩
    · exact .inl (Model.present_iff.2 ⟨e, he, hc⟩)
    · cases hb.brought?.symm.trans hx
      exact .inr (ht.symm.trans hc)
  · rintro (hp | hc)
    · exact present_mono h.keeps hp
    · rw [← present_congr hc]
      exact hb.present h.toServes

/-! ## The first of a name -/

/-- What a trace has brought under the name that a reference names. -/
def broughtAs (reference : String) (t : Trace) : List Target :=
  (brought t).filter fun target => decide (canonical target.name = canonical reference)

/-- Of the targets of one name, a sync that ends well brings the first if the name was missing, and no other. -/
theorem Syncs.broughtAs_eq {ts : List Target} (h : Syncs tenant limit ts t (.ok ()))
    (hc : Unaided (Obeys tenant) inv t inv') (reference : String) : broughtAs reference t =
      if Model.present inv reference then []
      else (ts.find? fun target => decide (canonical target.name = canonical reference)).toList := by
  generalize hr : (Except.ok () : Except Error Unit) = r at h
  induction h generalizing inv with
  | done => exact (ite_self []).symm
  | unlisted | failed => cases hr
  | @held target rest entries t r hp _ ih =>
    obtain ⟨n, hx, hc⟩ := hc
    rw [hx.lists entries rfl] at hp
    have hn := hx.present_of_none rfl reference
    have hbrought : broughtAs reference (⟨.listModels tenant, .ok entries⟩ :: t) = broughtAs reference t := rfl
    rw [hbrought, ih hc hr, hn]
    split
    · rfl
    next hmissing =>
      -- the name is another one, since this one is present
      have hne : canonical target.name ≠ canonical reference := fun he =>
        hmissing (by rw [← present_congr he]; exact hp)
      rw [List.find?_cons_of_neg (by simpa using hne)]
  | @brought target rest entries x t r hp hb _ ih =>
    obtain ⟨n, hl, m, hx, hc⟩ := hc
    rw [hl.lists entries rfl] at hp
    have hn := hl.present_of_none rfl reference
    have hm := hb.present_iff hx reference
    rw [hn] at hm
    have ih := ih hc hr
    rw [broughtAs, hb.brought_cons]
    by_cases he : canonical target.name = canonical reference
    · rw [List.filter_cons_of_pos (by simpa using he), List.find?_cons_of_pos (by simpa using he),
        ← present_congr he, hp, if_neg Bool.false_ne_true]
      rw [if_pos (hm.2 (.inr he))] at ih
      exact congrArg (target :: ·) ih
    · rw [List.filter_cons_of_neg (by simpa using he), List.find?_cons_of_neg (by simpa using he)]
      have hsame : Model.present m reference = Model.present inv reference := by
        rw [Bool.eq_iff_iff, hm]
        exact or_iff_left he
      rw [← hsame]
      exact ih

/-- In a sync that ends well all that was tried has been done. -/
theorem Syncs.attempts_ok {ts : List Target} (h : Syncs tenant limit ts t (.ok ())) :
    Operator.attempts t = Operator.brought t := by
  generalize hr : (Except.ok () : Except Error Unit) = r at h
  induction h with
  | done => rfl
  | unlisted | failed => cases hr
  | held _ _ ih => exact ih hr
  | brought _ hb _ ih => rw [hb.attempts_cons, hb.brought_cons, ih hr]

/-- The first target of a name is brought if the name was missing. -/
theorem Syncs.broughtAs_first {a b : List Target} {target : Target}
    (h : Syncs tenant limit (a ++ target :: b) t (.ok ())) (hc : Unaided (Obeys tenant) inv t inv')
    (hfirst : ∀ other ∈ a, canonical other.name ≠ canonical target.name)
    (hmissing : Model.present inv target.name = false) : broughtAs target.name t = [target] := by
  have hnone : a.find? (fun other => decide (canonical other.name = canonical target.name)) = none :=
    List.find?_eq_none.2 fun other ho => by simpa using hfirst other ho
  rw [h.broughtAs_eq hc, hmissing, if_neg Bool.false_ne_true, List.find?_append, hnone, Option.none_or,
    List.find?_cons_of_pos (by exact decide_eq_true rfl)]
  rfl

/-! ## Targets of one name -/

theorem broughtAs_congr {reference reference' : String} (h : canonical reference = canonical reference') (t : Trace) :
    broughtAs reference t = broughtAs reference' t := by
  rw [broughtAs, broughtAs, h]

theorem targets_append (patterns a b : List String) :
    targets patterns (a ++ b) = targets patterns a ++ targets patterns b := by
  induction a with
  | nil => rfl
  | cons model rest ih => rw [List.cons_append, targets, ih, targets, List.cons_append, List.append_assoc]

variable {models patterns front back : List String} {model base pattern : String} {file : File} {target : Target}

theorem mem_variants (h : target ∈ variants model patterns) : ∃ pattern ∈ patterns, ∃ file,
    variant? model pattern = some file ∧ target = .variant (variantName model pattern) file := by
  obtain ⟨pattern, hp, ht⟩ := List.mem_filterMap.1 h
  obtain ⟨file, hfile, rfl⟩ := Option.map_eq_some_iff.1 ht
  exact ⟨pattern, hp, file, hfile, rfl⟩

theorem mem_targets (h : target ∈ targets patterns models) :
    (∃ model ∈ models, target = .base model) ∨ ∃ model ∈ models, target ∈ variants model patterns := by
  induction models with
  | nil => cases h
  | cons m rest ih =>
    rcases List.mem_cons.1 h with rfl | h
    · exact .inl ⟨m, List.mem_cons_self .., rfl⟩
    rcases List.mem_append.1 h with h | h
    · exact .inr ⟨m, List.mem_cons_self .., h⟩
    · exact (ih h).imp (fun ⟨model, hm, ht⟩ => ⟨model, List.mem_cons_of_mem _ hm, ht⟩)
        fun ⟨model, hm, ht⟩ => ⟨model, List.mem_cons_of_mem _ hm, ht⟩

/-- The first model of a name is pulled, unless a variant of a model before it has the name. -/
theorem Syncs.pulls (h : Syncs tenant limit (targets patterns (front ++ model :: back)) t (.ok ()))
    (hc : Unaided (Obeys tenant) inv t inv') (hmissing : Model.present inv model = false)
    (hmodels : ∀ m ∈ front, canonical m ≠ canonical model)
    (hvariants : ∀ m ∈ front, ∀ p ∈ patterns, ∀ f, variant? m p = some f →
      canonical (variantName m p) ≠ canonical model) : broughtAs model t = [.base model] := by
  rw [targets_append] at h
  refine h.broughtAs_first hc (fun other ho => ?_) hmissing
  rcases mem_targets ho with ⟨m, hm, rfl⟩ | ⟨m, hm, ho⟩
  · exact hmodels m hm
  · obtain ⟨p, hp, f, hf, rfl⟩ := mem_variants ho
    exact hvariants m hm p hp f hf

/-- A variant is created from its own base under its own pattern, unless a model before its base has the name. -/
theorem Syncs.creates (h : Syncs tenant limit (targets patterns (front ++ base :: back)) t (.ok ()))
    (hc : Unaided (Obeys tenant) inv t inv') (hfirst : base ∉ front) (hpattern : pattern ∈ patterns)
    (hfile : variant? base pattern = some file) (hmissing : Model.present inv (variantName base pattern) = false)
    (hmodels : ∀ m ∈ front, canonical m ≠ canonical (variantName base pattern)) :
    broughtAs (variantName base pattern) t = [.variant (variantName base pattern) file] := by
  obtain ⟨ps, qs, rfl, hps⟩ := List.eq_append_cons_of_mem hpattern
  have hvariants : variants base (ps ++ pattern :: qs) =
      variants base ps ++ .variant (variantName base pattern) file :: variants base qs := by
    rw [variants, List.filterMap_append, List.filterMap_cons_some (by rw [hfile]; rfl)]
    rfl
  have htargets : targets (ps ++ pattern :: qs) (front ++ base :: back) =
      (targets (ps ++ pattern :: qs) front ++ .base base :: variants base ps) ++
        .variant (variantName base pattern) file :: (variants base qs ++ targets (ps ++ pattern :: qs) back) := by
    rw [targets_append, targets, hvariants]
    simp only [List.append_assoc, List.cons_append]
  rw [htargets] at h
  refine h.broughtAs_first hc (fun other ho => ?_) hmissing
  -- an earlier target is a model, or a variant of another model or under another pattern
  have apart : ∀ {m p : String} {f : File}, variant? m p = some f → (m = base → p ≠ pattern) →
      canonical (variantName m p) ≠ canonical (variantName base pattern) := by
    intro m p f hf hne he
    obtain ⟨hm, hp⟩ := variant_unique hf hfile he
    exact hne hm hp
  rcases List.mem_append.1 ho with ho | ho
  · rcases mem_targets ho with ⟨m, hm, rfl⟩ | ⟨m, hm, ho⟩
    · exact hmodels m hm
    · obtain ⟨p, -, f, hf, rfl⟩ := mem_variants ho
      exact apart hf fun he => absurd (he ▸ hm) hfirst
  rcases List.mem_cons.1 ho with rfl | ho
  · exact canonical_ne_variantName (plain_of_known hfile)
  · obtain ⟨p, hp, f, hf, rfl⟩ := mem_variants ho
    exact apart hf fun _ he => hps (he ▸ hp)

/-! ## What it comes to -/

/-- What a sync that ends well has brought, on a runtime to which nobody else adds models. What was there has not been
brought again, and all that was tried has been done. Of the models of one name that was missing the first has been
pulled, once, unless it has the name of a known variant of a model before it; then this variant has been created in its
place. A known variant whose name was missing has been created, once, from its own base and for its own pattern, unless
a model before its base has its name; then the first such model has been pulled in its place. -/
theorem namesakes_first (hy : (syncModels tenant patterns limit models).run.Yields t (.ok ()))
    (hc : Unaided (Obeys tenant) inv t inv') :
    attempts t = brought t ∧
    (∀ reference, present inv reference = true → broughtAs reference t = []) ∧
    (∀ front model back, models = front ++ model :: back → (∀ m ∈ front, canonical m ≠ canonical model) →
      present inv model = false →
      ((∀ m ∈ front, ∀ p ∈ patterns, ∀ f, variant? m p = some f → canonical (variantName m p) ≠ canonical model) →
        broughtAs model t = [.base model]) ∧
      ∀ m ∈ front, ∀ p ∈ patterns, ∀ f, variant? m p = some f → canonical (variantName m p) = canonical model →
        broughtAs model t = [.variant (variantName m p) f]) ∧
    ∀ front base back pattern file, models = front ++ base :: back → base ∉ front → pattern ∈ patterns →
      variant? base pattern = some file → present inv (variantName base pattern) = false →
      ((∀ m ∈ front, canonical m ≠ canonical (variantName base pattern)) →
        broughtAs (variantName base pattern) t = [.variant (variantName base pattern) file]) ∧
      ∀ before model after, front = before ++ model :: after →
        (∀ m ∈ before, canonical m ≠ canonical (variantName base pattern)) →
        canonical model = canonical (variantName base pattern) →
        broughtAs (variantName base pattern) t = [.base model] := by
  have h := syncModels_yields hy
  refine ⟨h.attempts_ok, fun reference hp => by rw [h.broughtAs_eq hc, if_pos hp], ?_, ?_⟩
  · rintro front model back rfl hmodels hmissing
    refine ⟨h.pulls hc hmissing hmodels, fun m hm p hp f hf he => ?_⟩
    obtain ⟨front, rest, rfl, hfirst⟩ := List.eq_append_cons_of_mem hm
    rw [List.append_assoc, List.cons_append] at h
    rw [← broughtAs_congr he]
    refine h.creates hc hfirst hp hf (by rw [present_congr he]; exact hmissing) fun m' hm' => ?_
    rw [he]
    exact hmodels m' (List.mem_append_left _ hm')
  · rintro front base back pattern file rfl hfirst hpattern hfile hmissing
    refine ⟨h.creates hc hfirst hpattern hfile hmissing, ?_⟩
    rintro before model after rfl hmodels he
    rw [List.append_assoc, List.cons_append] at h
    rw [← broughtAs_congr he]
    have hmissing' : present inv model = false := by rw [present_congr he]; exact hmissing
    refine h.pulls hc hmissing' (fun m hm => he ▸ hmodels m hm) fun m hm p _ f hf hv => ?_
    obtain ⟨rfl, -⟩ := variant_unique hf hfile (hv.trans he)
    exact hfirst (List.mem_append_left _ hm)

end Tenancy.Operator

namespace Tenancy.Simulation

open Operator Model

variable {tenant : String} {limit : Duration} {t : Trace} {w w' : World}

/-! ## Simulated runtimes -/

/-- Only the model that was asked for is added, and only if it is said to be done. -/
theorem Adds.only {owner model : String} {done : Prop} (h : Adds w owner model done w') {e : Model.Entry}
    (he : e ∈ w'.inventory tenant) : e ∈ w.inventory tenant ∨ done ∧ e = .named model := by
  rcases h with ⟨hdone, m, hm, rfl⟩ | ⟨ha, -⟩
  · rw [inventory_addModel] at he
    split at he
    next hk =>
      rcases List.mem_append.1 he with he | he
      · refine .inl ?_
        rw [← hm.inventory, World.inventory, hk]
        exact he
      · exact .inr ⟨hdone, List.mem_singleton.1 he⟩
    next =>
      rw [hm.inventory] at he
      exact .inl he
  · rw [ha.inventory] at he
    exact .inl he

/-- Honest runtimes obey. -/
theorem obeys_handle {c : Call} (hc : c.topic = .models) (hw : Honest w) :
    Obeys tenant (w.inventory tenant) ⟨c, (handle c w).1⟩ ((handle c w).2.inventory tenant) := by
  have named : ∀ model : String, canonical (Entry.named model).identifier = canonical model := by
    intro model
    rw [Entry.named, Entry.identifier, ite_self]
  refine ⟨serves_handle c hw, fun e he => ?_⟩
  cases c with
  | openRuntime | listModels | listRunning =>
    rw [(handle_question _ rfl w).inventory] at he
    exact .inl he
  | pull owner model limit =>
    refine ((pull_adds (Prod.eta _).symm).only he).imp_right ?_
    rintro ⟨hdone, rfl⟩
    exact ⟨.base model, by rw [show (handle (.pull owner model limit) w).1 = _ from hdone]; rfl, named model⟩
  | createModel owner name file =>
    refine ((createModel_adds (Prod.eta _).symm).only he).imp_right ?_
    rintro ⟨hdone, rfl⟩
    exact ⟨.variant name file, by rw [show (handle (.createModel owner name file) w).1 = _ from hdone]; rfl, named name⟩
  | _ => cases hc

theorem Plays.unaided (h : Plays Alone w t w') (ht : t.About [.models]) (hw : Honest w) :
    Unaided (Obeys tenant) (w.inventory tenant) t (w'.inventory tenant) := by
  induction t generalizing w with
  | nil =>
    cases (plays_nil ..).1 h
    rfl
  | cons x t ih =>
    obtain ⟨m, rfl, hx, h⟩ := (plays_cons ..).1 h
    obtain ⟨hcall, ht⟩ := Trace.about_cons.1 ht
    have hobeys : Obeys tenant _ _ _ := obeys_handle (List.mem_singleton.1 hcall) hw
    rw [hx] at hobeys
    exact ⟨_, hobeys, ih h ht (hw.handle x.call)⟩

/-! ## Two models and a variant -/

/-- Syncs for a model, and another one that has the name of its variant, in either order. -/
def clashing : List Sync :=
  [["tiny", "tiny-ai"], ["tiny-ai", "tiny"]].flatMap fun models =>
    (upkeep "team-a" (.ofSeconds 60) [(models, ["ai"])] (outpost newcomer)).1

/-- The models that were pulled. -/
def broughtBases (t : Trace) : List String := (brought t).filterMap fun
  | .base model => some model
  | .variant .. => none

/-- The names of the variants that were created. -/
def broughtVariants (t : Trace) : List String := (brought t).filterMap fun
  | .base _ => none
  | .variant name _ => some name

/-- Not every model that was missing is pulled by a sync that ends well, and not every variant is created. -/
theorem namesakes_unserved :
    (∃ s ∈ clashing, s.result.isOk = true ∧ ∃ model ∈ s.models, present s.start model = false ∧
      ∀ name ∈ broughtBases s.trace, canonical name ≠ canonical model) ∧
    ∃ s ∈ clashing, s.result.isOk = true ∧ ∃ model ∈ s.models, ∃ pattern ∈ s.patterns,
      (variant? model pattern).isSome = true ∧ present s.start (variantName model pattern) = false ∧
      ∀ name ∈ broughtVariants s.trace, canonical name ≠ canonical (variantName model pattern) := by
  decide +kernel

/-- Of the two that are called `tiny-ai` the variant comes first, and is the one that is brought. -/
theorem namesakes_first_clashing : ∃ (t : Trace) (inv' : List Model.Entry) (file : File),
    (syncModels "team-a" ["ai"] (.ofSeconds 60) ["tiny", "tiny-ai"]).run.Yields t (.ok ()) ∧
      Unaided (Obeys "team-a") [] t inv' ∧ variant? "tiny" "ai" = some file ∧ broughtAs "tiny" t = [.base "tiny"] ∧
      broughtAs "tiny-ai" t = [.variant "tiny-ai" file] := by
  have honest : Honest (outpost newcomer) := List.not_mem_nil
  have hgoes := goes_transcript Alone.refl (syncModels "team-a" ["ai"] (.ofSeconds 60) ["tiny", "tiny-ai"]).run
    (outpost newcomer)
  have hok : ((syncModels "team-a" ["ai"] (.ofSeconds 60) ["tiny", "tiny-ai"]).run.run handle
      (outpost newcomer)).1 = .ok () := by
    decide +kernel
  have hyields := hgoes.yields
  rw [hok] at hyields
  have hc : Unaided (Obeys "team-a") _ _ _ := hgoes.plays.unaided (syncModels_yields hyields).about honest
  obtain ⟨file, hfile⟩ : ∃ file, variant? "tiny" "ai" = some file := ⟨_, rfl⟩
  obtain ⟨-, -, hmodels, -⟩ := namesakes_first hyields hc
  refine ⟨_, _, file, hyields, hc, hfile, ?_, ?_⟩
  · exact (hmodels [] "tiny" _ rfl (List.forall_mem_nil _) rfl).1 (List.forall_mem_nil _)
  · exact (hmodels ["tiny"] "tiny-ai" [] rfl (by decide) rfl).2 "tiny" (List.mem_singleton_self _) "ai"
      (List.mem_singleton_self _) file hfile rfl

end Tenancy.Simulation
