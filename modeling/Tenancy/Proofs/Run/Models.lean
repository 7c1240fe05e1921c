/-
The anatomy of bringing models up to date. What is to be there is one list of targets, each model followed
by its known variants; the work goes through it in order, looks for each target, and brings what is missing
(`syncModels_yields`). If it ends well and no runtime lies, every target is held (`Syncs.holds`).
-/
import Tenancy.Operator.Models
import Tenancy.Proofs.Run.Frame
import Tenancy.Proofs.Run.Inventory

namespace Tenancy.Operator

open Program

variable {tenant : String} {limit : Duration} {t t' : Trace}

/-! ## Targets -/

/-- What a runtime is to hold: a declared model, or a variant with its definition. -/
inductive Target where
  | base (model : String)
  | variant (name : String) (file : Model.File)

def Target.name : Target → String
  | .base model => model
  | .variant name _ => name

/-- The variants of a model under the known ones of the patterns. -/
def variants (model : String) (patterns : List String) : List Target :=
  patterns.filterMap fun pattern =>
    (Model.variant? model pattern).map (.variant (Model.variantName model pattern))

/-- Everything that is to be there, in the order in which it is looked for. -/
def targets (patterns : List String) : List String → List Target
  | [] => []
  | model :: rest => .base model :: (variants model patterns ++ targets patterns rest)

theorem mem_targets_base {model : String} {patterns models : List String} (h : model ∈ models) :
    .base model ∈ targets patterns models := by
  induction models with
  | nil => cases h
  | cons m rest ih =>
    rcases List.mem_cons.1 h with rfl | h
    · exact List.mem_cons_self ..
    · exact List.mem_cons_of_mem _ (List.mem_append_right _ (ih h))

theorem mem_targets_variant {model pattern : String} {patterns models : List String} {file : Model.File}
    (h : model ∈ models) (hp : pattern ∈ patterns) (hv : Model.variant? model pattern = some file) :
    .variant (Model.variantName model pattern) file ∈ targets patterns models := by
  induction models with
  | nil => cases h
  | cons m rest ih =>
    rcases List.mem_cons.1 h with rfl | h
    · refine List.mem_cons_of_mem _ (List.mem_append_left _ (List.mem_filterMap.2 ⟨pattern, hp, ?_⟩))
      rw [hv]
      rfl
    · exact List.mem_cons_of_mem _ (List.mem_append_right _ (ih h))

/-- The answered call by which a missing target is brought, and what it comes to. -/
def Target.Brings (tenant : String) (limit : Duration) : Target → Answered → Except Error Unit → Prop
  | .base model, x, r => ∃ y, x = ⟨.pull tenant model limit, y⟩ ∧ r = Operation.pullResult model limit y
  | .variant name file, x, r =>
    ∃ y, x = ⟨.createModel tenant name file, y⟩ ∧ r = y.mapError .modelRuntime

/-! ## Traces -/

/-- How the work on targets can go: up to the first failure, each is found or brought. -/
inductive Syncs (tenant : String) (limit : Duration) : List Target → Trace → Except Error Unit → Prop
  | done : Syncs tenant limit [] [] (.ok ())
  | unlisted {target : Target} {rest : List Target} (e : Model.Error) :
      Syncs tenant limit (target :: rest) [⟨.listModels tenant, .error e⟩] (.error (.modelRuntime e))
  | held {target : Target} {rest : List Target} {entries : List Model.Entry} {t : Trace} {r : Except Error Unit} :
      Model.present entries target.name = true → Syncs tenant limit rest t r →
      Syncs tenant limit (target :: rest) (⟨.listModels tenant, .ok entries⟩ :: t) r
  | brought {target : Target} {rest : List Target} {entries : List Model.Entry} {x : Answered} {t : Trace}
      {r : Except Error Unit} :
      Model.present entries target.name = false → target.Brings tenant limit x (.ok ()) →
      Syncs tenant limit rest t r →
      Syncs tenant limit (target :: rest) (⟨.listModels tenant, .ok entries⟩ :: x :: t) r
  | failed {target : Target} {rest : List Target} {entries : List Model.Entry} {x : Answered} {e : Error} :
      Model.present entries target.name = false → target.Brings tenant limit x (.error e) →
      Syncs tenant limit (target :: rest) [⟨.listModels tenant, .ok entries⟩, x] (.error e)

theorem Syncs.append {ts ts' : List Target} {r : Except Error Unit} (h : Syncs tenant limit ts t (.ok ()))
    (h' : Syncs tenant limit ts' t' r) : Syncs tenant limit (ts ++ ts') (t ++ t') r := by
  generalize hr : (Except.ok () : Except Error Unit) = r₁ at h
  induction h with
  | done => exact h'
  | unlisted e => cases hr
  | held hp _ ih => exact .held hp (ih hr)
  | brought hp hb _ ih => exact .brought hp hb (ih hr)
  | failed => cases hr

theorem Syncs.stop {ts ts' : List Target} {e : Error} (h : Syncs tenant limit ts t (.error e)) :
    Syncs tenant limit (ts ++ ts') t (.error e) := by
  generalize hr : (Except.error e : Except Error Unit) = r₁ at h
  induction h with
  | done => cases hr
  | unlisted e => exact .unlisted e
  | held hp _ ih => exact .held hp (ih hr)
  | brought hp hb _ ih => exact .brought hp hb (ih hr)
  | failed hp hb => exact .failed hp hb

theorem modelExists_yields {name : String} {r : Except Error Bool} (h : (modelExists tenant name).run.Yields t r) :
    (∃ e, t = [⟨.listModels tenant, .error e⟩] ∧ r = .error (.modelRuntime e)) ∨
      ∃ entries, t = [⟨.listModels tenant, .ok entries⟩] ∧ r = .ok (Model.present entries name) := by
  unfold modelExists at h
  rw [Operation.yields_bind] at h
  rcases h with ⟨e, h, rfl⟩ | ⟨t₁, entries, t₂, rfl, h₁, rfl, rfl⟩
  · obtain ⟨x, hx, he⟩ := (Operation.yields_attemptRuntime ..).1 h
    obtain rfl := (yields_call ..).1 hx
    cases x with
    | ok entries => cases he
    | error e => cases he; exact .inl ⟨e, rfl, rfl⟩
  · obtain ⟨x, hx, he⟩ := (Operation.yields_attemptRuntime ..).1 h₁
    obtain rfl := (yields_call ..).1 hx
    cases x with
    | ok entries => cases he; exact .inr ⟨entries, rfl, rfl⟩
    | error e => cases he

/-- Looking for a target, bringing it by `o` if it is missing, and going on with `k`. -/
theorem obtain_yields (target : Target) {rest : List Target} {o k : Operation Unit} {r : Except Error Unit}
    (ho : ∀ t r, o.run.Yields t r → ∃ x, t = [x] ∧ target.Brings tenant limit x r)
    (hk : ∀ t r, k.run.Yields t r → Syncs tenant limit rest t r)
    (h : (modelExists tenant target.name >>= fun found => if found then k else o >>= fun _ => k).run.Yields t r) :
    Syncs tenant limit (target :: rest) t r := by
  rw [Operation.yields_bind] at h
  rcases h with ⟨e, h, rfl⟩ | ⟨t₁, found, t₂, rfl, h₁, h⟩
  · rcases modelExists_yields h with ⟨e', rfl, he⟩ | ⟨entries, rfl, he⟩
    · cases he; exact .unlisted e'
    · cases he
  · rcases modelExists_yields h₁ with ⟨e', rfl, he⟩ | ⟨entries, rfl, he⟩
    · cases he
    · cases he
      cases hp : Model.present entries target.name with
      | true =>
        rw [hp, if_pos rfl] at h
        exact .held hp (hk _ _ h)
      | false =>
        rw [hp, if_neg Bool.false_ne_true, Operation.yields_bind] at h
        rcases h with ⟨e, h, rfl⟩ | ⟨t₃, u, t₄, rfl, h₂, h⟩
        · obtain ⟨x, rfl, hb⟩ := ho _ _ h
          exact .failed hp hb
        · obtain ⟨x, rfl, hb⟩ := ho _ _ h₂
          exact .brought hp hb (hk _ _ h)

theorem syncVariants_yields {model : String} {patterns : List String} {r : Except Error Unit}
    (h : (syncVariants tenant model patterns).run.Yields t r) :
    Syncs tenant limit (variants model patterns) t r := by
  induction patterns generalizing t r with
  | nil => obtain ⟨rfl, rfl⟩ := h; exact .done
  | cons pattern rest ih =>
    unfold syncVariants at h
    cases hv : Model.variant? model pattern with
    | none =>
      simp only [hv] at h
      rw [variants, List.filterMap_cons_none (by rw [hv]; rfl)]
      exact ih h
    | some file =>
      simp only [hv] at h
      rw [variants, List.filterMap_cons_some (by rw [hv]; rfl)]
      refine obtain_yields (.variant (Model.variantName model pattern) file) ?_ (fun t r h => ih h) h
      intro t r h
      obtain ⟨x, hx, rfl⟩ := (Operation.yields_attemptRuntime ..).1 h
      exact ⟨_, (yields_call ..).1 hx, x, rfl, rfl⟩

/-- The work on the models goes through the targets. -/
theorem syncModels_yields {models patterns : List String} {r : Except Error Unit}
    (h : (syncModels tenant patterns limit models).run.Yields t r) :
    Syncs tenant limit (targets patterns models) t r := by
  induction models generalizing t r with
  | nil => obtain ⟨rfl, rfl⟩ := h; exact .done
  | cons model rest ih =>
    unfold syncModels at h
    refine obtain_yields (.base model) ?_ ?_ h
    · intro t r h
      obtain ⟨x, rfl, rfl⟩ := (Operation.yields_pull ..).1 h
      exact ⟨_, rfl, x, rfl, rfl⟩
    · -- the variants of the model come before the other models
      intro t r h
      rw [Operation.yields_bind] at h
      rcases h with ⟨e, h, rfl⟩ | ⟨t₃, u, t₄, rfl, h₂, h⟩
      · exact (syncVariants_yields h).stop
      · exact (syncVariants_yields h₂).append (ih h)

theorem Syncs.about {ts : List Target} {r : Except Error Unit} (h : Syncs tenant limit ts t r) :
    t.About [.models] := by
  have brings : ∀ {target : Target} {x : Answered} {r : Except Error Unit}, target.Brings tenant limit x r →
      x.call.topic ∈ [Topic.models] := by
    intro target x r hb
    cases target <;> obtain ⟨y, rfl, -⟩ := hb <;> exact List.mem_singleton_self _
  induction h with
  | done => exact Trace.about_nil _
  | unlisted e => exact Trace.about_cons.2 ⟨List.mem_singleton_self _, Trace.about_nil _⟩
  | held _ _ ih => exact Trace.about_cons.2 ⟨List.mem_singleton_self _, ih⟩
  | brought _ hb _ ih => exact Trace.about_cons.2 ⟨List.mem_singleton_self _, Trace.about_cons.2 ⟨brings hb, ih⟩⟩
  | failed _ hb =>
    exact Trace.about_cons.2 ⟨List.mem_singleton_self _, Trace.about_cons.2 ⟨brings hb, Trace.about_nil _⟩⟩

/-! ## What is brought -/

/-- The target that a call is to bring. -/
def Call.target? : Call → Option Target
  | .pull _ model _ => some (.base model)
  | .createModel _ name file => some (.variant name file)
  | _ => none

/-- The target that an answered call has brought. -/
def Answered.brought? : Answered → Option Target
  | ⟨.pull _ model _, .finished (.ok _)⟩ => some (.base model)
  | ⟨.createModel _ name file, .ok _⟩ => some (.variant name file)
  | _ => none

/-- The targets that were tried to bring, in their order. -/
def attempts (t : Trace) : List Target := t.filterMap (·.call.target?)

/-- The targets that were brought, in their order. -/
def brought (t : Trace) : List Target := t.filterMap Answered.brought?

theorem attempts_eq_nil (h : ∀ x ∈ t, x.call.writes = false) : attempts t = [] := by
  refine List.filterMap_eq_nil_iff.2 fun x hx => ?_
  have hw := h x hx
  obtain ⟨c, a⟩ := x
  cases c <;> first | rfl | cases hw

theorem attempts_cons_some {x : Answered} {target : Target} (h : x.call.target? = some target) :
    attempts (x :: t) = target :: attempts t := by
  rw [attempts, List.filterMap_cons, h]
  rfl

theorem brought_append (t t' : Trace) : brought (t ++ t') = brought t ++ brought t' := List.filterMap_append ..

section

variable {target : Target} {x : Answered} {inv inv' : List Model.Entry} {r : Except Error Unit}

theorem Target.Brings.target? (h : target.Brings tenant limit x r) : x.call.target? = some target := by
  cases target <;> obtain ⟨y, rfl, -⟩ := h <;> rfl

theorem Target.Brings.brought? (h : target.Brings tenant limit x r) :
    x.brought? = r.toOption.map fun _ => target := by
  cases target with
  | base model =>
    obtain ⟨y, rfl, rfl⟩ := h
    unfold Operation.pullResult
    split <;> rfl
  | variant name file =>
    obtain ⟨y, rfl, rfl⟩ := h
    cases y <;> rfl

theorem Target.Brings.brought_cons (h : target.Brings tenant limit x (.ok ())) (entries : List Model.Entry)
    (t : Trace) : brought (⟨.listModels tenant, .ok entries⟩ :: x :: t) = target :: brought t :=
  List.filterMap_cons_some h.brought?

theorem Target.Brings.attempts_cons (h : target.Brings tenant limit x r) (entries : List Model.Entry) (t : Trace) :
    attempts (⟨.listModels tenant, .ok entries⟩ :: x :: t) = target :: attempts t := attempts_cons_some h.target?

/-- What has been brought is there. -/
theorem Target.Brings.present (h : target.Brings tenant limit x (.ok ())) (hx : Serves tenant inv x inv') :
    Model.present inv' target.name = true := by
  refine Model.present_named ?_
  cases target with
  | base model =>
    obtain ⟨y, rfl, hy⟩ := h
    refine hx.pulls model limit ?_
    unfold Operation.pullResult at hy
    split at hy <;> first | rfl | cases hy
  | variant name file =>
    obtain ⟨y, rfl, hy⟩ := h
    refine hx.creates name file ?_
    cases y with
    | ok u => rfl
    | error e => cases hy

end

/-! ## Inventories -/

section

variable {ts : List Target} {inv inv' : List Model.Entry} {r : Except Error Unit}

/-- How far work that ended with `r` has come: it is through with `done`, and if it has failed then at the first
of `rest`. -/
structure Reaches (done rest : List Target) (t : Trace) (r : Except Error Unit) (inv' : List Model.Entry) :
    Prop where
  present : ∀ target ∈ done, Model.present inv' target.name = true
  brought : (brought t).Sublist done
  attempts : (attempts t).Sublist (done ++ rest.take 1)
  ok : r = .ok () ↔ rest = []

/-- The work goes through the targets up to the first failure, and what it is through with is there. -/
theorem Syncs.reaches (h : Syncs tenant limit ts t r) (hc : Course (Serves tenant) inv t inv') :
    ∃ done rest, ts = done ++ rest ∧ Reaches done rest t r inv' := by
  induction h generalizing inv with
  | done => exact ⟨[], [], rfl, List.forall_mem_nil _, .slnil, .slnil, by simp⟩
  | @unlisted target rest e =>
    exact ⟨[], target :: rest, rfl, List.forall_mem_nil _, .slnil, List.nil_sublist _, by simp⟩
  | @held target rest entries t r hp _ ih =>
    obtain ⟨m, n, -, hx, hc⟩ := hc
    obtain ⟨done, left, rfl, hd⟩ := ih hc
    refine ⟨target :: done, left, rfl, List.forall_mem_cons.2 ⟨?_, hd.present⟩, hd.brought.cons _,
      hd.attempts.cons _, hd.ok⟩
    rw [hx.lists entries rfl] at hp
    exact Model.present_mono (List.Subset.trans hx.keeps hc.grows) hp
  | @brought target rest entries x t r hp hb _ ih =>
    obtain ⟨m, n, -, -, m', n', -, hx, hc⟩ := hc
    obtain ⟨done, left, rfl, hd⟩ := ih hc
    refine ⟨target :: done, left, rfl, List.forall_mem_cons.2 ⟨?_, hd.present⟩, ?_, ?_, hd.ok⟩
    · exact Model.present_mono hc.grows (hb.present hx)
    · rw [hb.brought_cons]
      exact hd.brought.cons_cons _
    · rw [hb.attempts_cons]
      exact hd.attempts.cons_cons _
  | @failed target rest entries x e hp hb =>
    refine ⟨[], target :: rest, rfl, List.forall_mem_nil _, ?_, ?_, by simp⟩
    · rw [show Operator.brought [⟨.listModels tenant, .ok entries⟩, x] = [] from
        List.filterMap_cons_none hb.brought?]
    · rw [hb.attempts_cons]
      exact List.Sublist.refl _

/-- Work that ends well leaves every target there. -/
theorem Syncs.present (h : Syncs tenant limit ts t (.ok ())) (hc : Course (Serves tenant) inv t inv') :
    ∀ target ∈ ts, Model.present inv' target.name = true := by
  obtain ⟨done, rest, rfl, hd⟩ := h.reaches hc
  rw [hd.ok.1 rfl, List.append_nil]
  exact hd.present

/-- If all targets are there, they are only looked for. -/
theorem Syncs.looks (h : Syncs tenant limit ts t r) (hc : Course (Lists tenant) inv t inv')
    (hp : ∀ target ∈ ts, Model.present inv target.name = true) : ∀ x ∈ t, x.call.writes = false := by
  have found : ∀ {inv m n : List Model.Entry} {target : Target} {entries : List Model.Entry}, inv ⊆ m →
      Lists tenant m ⟨.listModels tenant, .ok entries⟩ n → Model.present inv target.name = true →
      Model.present entries target.name = true := by
    intro inv m n target entries hm hx hp
    rw [hx.lists entries rfl]
    exact Model.present_mono hm hp
  induction h generalizing inv with
  | done => exact List.forall_mem_nil _
  | unlisted e => exact List.forall_mem_singleton.2 rfl
  | held _ _ ih =>
    obtain ⟨m, n, hm, hx, hc⟩ := hc
    refine List.forall_mem_cons.2 ⟨rfl, ih hc fun target ht => ?_⟩
    exact Model.present_mono (List.Subset.trans hm hx.keeps) ((List.forall_mem_cons.1 hp).2 target ht)
  | brought hn | failed hn =>
    -- what is there is found, so nothing had to be brought
    obtain ⟨m, n, hm, hx, -⟩ := hc
    cases hn.symm.trans (found hm hx (List.forall_mem_cons.1 hp).1)

end

end Tenancy.Operator

namespace Tenancy.Simulation

open Operator

variable {others : World → World → Prop} {tenant : String} {limit : Duration} {t : Trace} {w w' : World}

/-! ## Inventories -/

/-- Whether a runtime holds the model that a reference names. -/
def Holds (w : World) (tenant reference : String) : Prop := Model.present (w.inventory tenant) reference = true

/-- Everything in one inventory is in another one too. -/
def Grows (tenant : String) (w m : World) : Prop := ∀ e ∈ w.inventory tenant, e ∈ m.inventory tenant

theorem Holds.grow {m : World} {reference : String} (h : Holds w tenant reference) (hg : Grows tenant w m) :
    Holds m tenant reference :=
  Model.present_mono hg h

theorem grows_handle (c : Call) (m : World) : Grows tenant m (handle c m).2 := fun _ he => inventory_handle c m he

theorem Grows.trans {m n : World} (h : Grows tenant w m) (h' : Grows tenant m n) : Grows tenant w n :=
  fun e he => h' e (h e he)

theorem Plays.grows (hothers : ∀ w m, others w m → Grows tenant w m) (h : Plays others w t w') :
    Grows tenant w w' := fun e he =>
  h.keeps (P := fun m => e ∈ m.inventory tenant) (fun w m ho hm => hothers w m ho e hm)
    (fun x _ m _ hm => inventory_handle x.call m hm) he

/-- What a trace does to the models of a runtime while others only add some. What is said of a call may rest on
something that others and calls keep. -/
theorem Plays.course {P : World → Prop} {R : List Model.Entry → Answered → List Model.Entry → Prop}
    (hgrows : ∀ w m, others w m → Grows tenant w m) (hothers : ∀ w m, others w m → P w → P m)
    (hcall : ∀ c m, P m → P (handle c m).2 ∧
      R (m.inventory tenant) ⟨c, (handle c m).1⟩ ((handle c m).2.inventory tenant))
    (h : Plays others w t w') (hw : P w) : Course R (w.inventory tenant) t (w'.inventory tenant) := by
  induction t generalizing w with
  | nil =>
    cases (plays_nil ..).1 h
    rfl
  | cons x t ih =>
    obtain ⟨m, ho, hx, h⟩ := (plays_cons ..).1 h
    obtain ⟨hP, hR⟩ := hcall x.call m (hothers w m ho hw)
    rw [hx] at hR
    exact ⟨_, _, hgrows w m ho, hR, ih h hP⟩

theorem lists_handle (c : Call) (m : World) :
    Lists tenant (m.inventory tenant) ⟨c, (handle c m).1⟩ ((handle c m).2.inventory tenant) where
  keeps := grows_handle c m
  lists entries h := by
    obtain ⟨rfl, ha⟩ := Answered.mk.inj h
    exact (listModels_answer (eq_of_heq ha)).symm

/-- Honest runtimes serve. -/
theorem serves_handle (c : Call) {m : World} (hm : Honest m) :
    Serves tenant (m.inventory tenant) ⟨c, (handle c m).1⟩ ((handle c m).2.inventory tenant) where
  toLists := lists_handle c m
  pulls model limit h := by
    obtain ⟨rfl, ha⟩ := Answered.mk.inj h
    exact (pull_adds (Prod.eta _).symm).mem hm (eq_of_heq ha)
  creates name file h := by
    obtain ⟨rfl, ha⟩ := Answered.mk.inj h
    exact (createModel_adds (Prod.eta _).symm).mem hm (eq_of_heq ha)

/-- A sync that ends well leaves every target held, if the runtime does what it says it has done. -/
theorem Syncs.holds (hgrows : ∀ w m, others w m → Grows tenant w m)
    (hhonest : ∀ w m, others w m → Honest w → Honest m) {ts : List Operator.Target}
    (h : Syncs tenant limit ts t (.ok ())) (hp : Plays others w t w') (hw : Honest w) :
    ∀ target ∈ ts, Holds w' tenant target.name :=
  h.present (hp.course hgrows hhonest (fun c _ hm => ⟨hm.handle c, serves_handle c hm⟩) hw)

/-- A sync of targets that are all held brings nothing. -/
theorem Syncs.idle (hgrows : ∀ w m, others w m → Grows tenant w m) {ts : List Operator.Target}
    {r : Except Error Unit} (h : Syncs tenant limit ts t r) (hp : Plays others w t w')
    (hheld : ∀ target ∈ ts, Holds w tenant target.name) : ∀ x ∈ t, x.call.writes = false :=
  h.looks (hp.course (P := fun _ => True) hgrows (fun _ _ _ _ => trivial) (fun c m _ => ⟨trivial, lists_handle c m⟩)
    trivial) hheld

end Tenancy.Simulation
