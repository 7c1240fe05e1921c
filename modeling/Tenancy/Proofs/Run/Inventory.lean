/-
The models of one runtime while calls are made to it. Of the runtime it is only said that it drops no model,
that it lists what it holds, and that a pull or a creation that it calls done has added its model; a call that
fails may have done nothing, or its work after all. Between the calls others may add models too.
-/
import Tenancy.Proofs.Model.Reference
import Tenancy.Proofs.Run.Trace

namespace Tenancy.Operator

variable {R S : List Model.Entry → Answered → List Model.Entry → Prop} {tenant : String}
  {inv inv' : List Model.Entry} {t t' : Trace}

/-! ## Calls to a runtime -/

/-- A call, and what the runtime of `tenant` holds before and after it: nothing is dropped, and what is listed
is what is held. -/
structure Lists (tenant : String) (inv : List Model.Entry) (x : Answered) (inv' : List Model.Entry) : Prop where
  keeps : inv ⊆ inv'
  lists : ∀ entries, x = ⟨.listModels tenant, .ok entries⟩ → entries = inv

/-- Besides, what the runtime says to have added is there. -/
structure Serves (tenant : String) (inv : List Model.Entry) (x : Answered) (inv' : List Model.Entry) : Prop extends
    Lists tenant inv x inv' where
  pulls : ∀ model limit, x = ⟨.pull tenant model limit, .finished (.ok ())⟩ → .named model ∈ inv'
  creates : ∀ name file, x = ⟨.createModel tenant name file, .ok ()⟩ → .named name ∈ inv'

/-- The answered calls of a trace one after the other; before each of them others may add models. -/
def Course (R : List Model.Entry → Answered → List Model.Entry → Prop) :
    List Model.Entry → Trace → List Model.Entry → Prop
  | inv, [], inv' => inv' = inv
  | inv, x :: t, inv' => ∃ m n, inv ⊆ m ∧ R m x n ∧ Course R n t inv'

theorem Course.mono (hle : ∀ m x n, R m x n → S m x n) (h : Course R inv t inv') : Course S inv t inv' := by
  induction t generalizing inv with
  | nil => exact h
  | cons x t ih =>
    obtain ⟨m, n, hm, hx, h⟩ := h
    exact ⟨m, n, hm, hle m x n hx, ih h⟩

theorem Course.keeps (hR : ∀ m x n, R m x n → m ⊆ n) (h : Course R inv t inv') : inv ⊆ inv' := by
  induction t generalizing inv with
  | nil =>
    cases h
    exact List.Subset.refl _
  | cons x t ih =>
    obtain ⟨m, n, hm, hx, h⟩ := h
    exact List.Subset.trans hm (List.Subset.trans (hR m x n hx) (ih h))

theorem Course.grows (h : Course (Serves tenant) inv t inv') : inv ⊆ inv' := h.keeps fun _ _ _ hx => hx.keeps

end Tenancy.Operator
