/-
Traces of programs. A trace lists the calls that a program makes, each with the answer it got;
`Yields p t a` says that under the answers of `t` the program `p` makes exactly the calls of `t` and
ends with `a`. Nothing is said of where the answers come from, so what holds of every trace holds
whatever the cluster and the runtimes do.
-/
import Tenancy.Operator.Program
import Mathlib.Tactic

namespace Tenancy.Operator

/-- A call with its answer. -/
structure Answered where
  call : Call
  answer : call.Answer

abbrev Trace := List Answered

/-- Whether a call is more than a question. -/
def Call.writes : Call → Bool
  | .setFinalizers .. | .patchStatus .. | .createChild _ | .deleteNamespace _ | .publish _ | .pull ..
  | .createModel .. => true
  | _ => false

/-- A change to the children that a cluster stores. -/
inductive Change where
  | created (child : Object.Child)
  | deleted (ns : String)

/-- The change that an answered call has made, if it has made one. -/
def Answered.change? : Answered → Option Change
  | ⟨.createChild child, .ok _⟩ => some (.created child)
  | ⟨.deleteNamespace ns, .ok _⟩ => some (.deleted ns)
  | _ => none

def changes (t : Trace) : List Change := t.filterMap Answered.change?

def Change.created? : Change → Option Object.Child
  | .created child => some child
  | .deleted _ => none

/-- The children that were created, in their order. -/
def created (t : Trace) : List Object.Child := (changes t).filterMap Change.created?

/-- What a call is about. -/
inductive Topic where
  | reading
  | guards
  | status
  | lookup
  /-- Creating a child or deleting a namespace. -/
  | change
  | readiness
  | settings
  | events
  | models
  | clock
  deriving DecidableEq

def Call.topic : Call → Topic
  | .workspace _ => .reading
  | .setFinalizers .. => .guards
  | .patchStatus .. => .status
  | .childExists _ => .lookup
  | .createChild _ | .deleteNamespace _ => .change
  | .readyReplicas .. => .readiness
  | .configMap .. => .settings
  | .publish _ => .events
  | .openRuntime _ | .listModels _ | .listRunning _ | .pull .. | .createModel .. => .models
  | .now => .clock

/-- An answered call of a trace in two parts stands in one of them. -/
theorem Trace.split {a b t₁ t₂ : Trace} {x : Answered} (h : a ++ b = t₁ ++ x :: t₂) :
    (∃ s, a = t₁ ++ x :: s ∧ t₂ = s ++ b) ∨ ∃ s, t₁ = a ++ s ∧ b = s ++ x :: t₂ := by
  rcases List.append_eq_append_iff.1 h with ⟨s, rfl, rfl⟩ | ⟨s, rfl, hs⟩
  · exact .inr ⟨s, rfl, rfl⟩
  · cases s with
    | nil => exact .inr ⟨[], by simp, hs.symm⟩
    | cons y s =>
      obtain ⟨rfl, rfl⟩ := List.cons.inj hs
      exact .inl ⟨s, rfl, rfl⟩

/-- A trace all of whose calls are about some of the given topics. -/
def Trace.About (topics : List Topic) (t : Trace) : Prop := ∀ x ∈ t, x.call.topic ∈ topics

theorem Trace.about_nil (topics : List Topic) : Trace.About topics [] := List.forall_mem_nil _

theorem Trace.about_cons {topics : List Topic} {x : Answered} {t : Trace} :
    Trace.About topics (x :: t) ↔ x.call.topic ∈ topics ∧ Trace.About topics t := List.forall_mem_cons

theorem Trace.about_append {topics : List Topic} {t t' : Trace} :
    Trace.About topics (t ++ t') ↔ Trace.About topics t ∧ Trace.About topics t' := List.forall_mem_append

theorem Trace.About.mono {topics topics' : List Topic} {t : Trace} (h : Trace.About topics t)
    (hle : topics ⊆ topics') : Trace.About topics' t := fun x hx => hle (h x hx)

theorem Answered.change?_eq_none {x : Answered} (h : x.call.topic ≠ .change) : x.change? = none := by
  obtain ⟨c, a⟩ := x
  cases c <;> first | rfl | exact absurd rfl h

/-- Only a creation that went well has created a child. -/
theorem Answered.change?_eq_created {x : Answered} {child : Object.Child} (h : x.change? = some (.created child)) :
    x = ⟨.createChild child, .ok ()⟩ := by
  unfold Answered.change? at h
  split at h
  next => cases h; rfl
  next => cases h
  next => cases h

theorem changes_cons (x : Answered) (t : Trace) : changes (x :: t) = x.change?.toList ++ changes t := by
  cases hx : x.change? <;> simp [changes, hx]

theorem changes_append (t t' : Trace) : changes (t ++ t') = changes t ++ changes t' := List.filterMap_append ..

theorem changes_eq_nil {t : Trace} (h : ∀ x ∈ t, x.call.topic ≠ .change) : changes t = [] :=
  List.filterMap_eq_nil_iff.2 fun x hx => Answered.change?_eq_none (h x hx)

theorem Trace.About.ne {topics : List Topic} {t : Trace} (h : t.About topics) {topic : Topic} (hn : topic ∉ topics) :
    ∀ x ∈ t, x.call.topic ≠ topic := fun x hx he => hn (he ▸ h x hx)

/-- A trace about other things writes nothing on a workspace. -/
theorem Trace.About.apart {topics : List Topic} {t : Trace} (h : t.About topics) (hg : .guards ∉ topics)
    (hs : .status ∉ topics) : ∀ x ∈ t, x.call.topic ≠ .guards ∧ x.call.topic ≠ .status :=
  fun x hx => ⟨h.ne hg x hx, h.ne hs x hx⟩

theorem Trace.About.changes {topics : List Topic} {t : Trace} (h : Trace.About topics t)
    (hc : .change ∉ topics) : changes t = [] :=
  changes_eq_nil (h.ne hc)

/-- A call about another topic is not in the trace. -/
theorem Trace.About.not_mem {topics : List Topic} {t : Trace} (h : Trace.About topics t) {x : Answered}
    (hx : x.call.topic ∉ topics) : x ∉ t := fun hm => hx (h x hm)

variable {α β : Type}

/-! ## Programs -/

namespace Program

/-- Answered as `t` says, the program makes the calls of `t` and ends with the given result. -/
def Yields : Program α → Trace → α → Prop
  | .done a, t, b => t = [] ∧ b = a
  | .ask c next, t, b => ∃ x t', t = ⟨c, x⟩ :: t' ∧ (next x).Yields t' b

theorem yields_done (a b : α) (t : Trace) : (Program.done a).Yields t b ↔ t = [] ∧ b = a := Iff.rfl

theorem yields_ask (c : Call) (next : c.Answer → Program α) (t : Trace) (b : α) :
    (Program.ask c next).Yields t b ↔ ∃ x t', t = ⟨c, x⟩ :: t' ∧ (next x).Yields t' b := Iff.rfl

theorem yields_call (c : Call) (t : Trace) (x : c.Answer) :
    (call c).Yields t x ↔ t = [⟨c, x⟩] := by
  rw [call, yields_ask]
  constructor
  · rintro ⟨y, t', rfl, rfl, rfl⟩; rfl
  · rintro rfl; exact ⟨x, [], rfl, rfl, rfl⟩

/-- The trace of a sequence is a trace of its first part followed by one of its second. -/
theorem yields_bind (p : Program α) (f : α → Program β) (t : Trace) (b : β) :
    (p.bind f).Yields t b ↔ ∃ t₁ a t₂, t = t₁ ++ t₂ ∧ p.Yields t₁ a ∧ (f a).Yields t₂ b := by
  induction p generalizing t with
  | done a => simp [yields_done]
  | ask c next ih =>
    simp only [ask_bind, yields_ask, ih]
    constructor
    · rintro ⟨x, _, rfl, t₁, a, t₂, rfl, h₁, h₂⟩
      exact ⟨⟨c, x⟩ :: t₁, a, t₂, rfl, ⟨x, t₁, rfl, h₁⟩, h₂⟩
    · rintro ⟨_, a, t₂, rfl, ⟨x, t₁, rfl, h₁⟩, h₂⟩
      exact ⟨x, t₁ ++ t₂, rfl, t₁, a, t₂, rfl, h₁, h₂⟩

theorem yields_map (p : Program α) (f : α → β) (t : Trace) (b : β) :
    (p.bind fun a => .done (f a)).Yields t b ↔ ∃ a, p.Yields t a ∧ b = f a := by
  rw [yields_bind]
  constructor
  · rintro ⟨t₁, a, t₂, rfl, h, rfl, rfl⟩
    exact ⟨a, by simpa using h, rfl⟩
  · rintro ⟨a, h, rfl⟩
    exact ⟨t, a, [], by simp, h, rfl, rfl⟩

end Program

open Program

/-! ## Operations -/

namespace Operation

/-- A sequence of operations ends with the failure of its first part, or goes on with its result. -/
theorem yields_bind (o : Operation α) (f : α → Operation β) (t : Trace) (r : Except Error β) :
    (o >>= f).run.Yields t r ↔ (∃ e, o.run.Yields t (.error e) ∧ r = .error e) ∨
      ∃ t₁ a t₂, t = t₁ ++ t₂ ∧ o.run.Yields t₁ (.ok a) ∧ (f a).run.Yields t₂ r := by
  rw [ExceptT.run_bind, bind_eq, Program.yields_bind]
  constructor
  · rintro ⟨t₁, a | a, t₂, rfl, h₁, h₂⟩
    · obtain ⟨rfl, rfl⟩ := h₂
      exact .inl ⟨a, by simpa using h₁, rfl⟩
    · exact .inr ⟨t₁, a, t₂, rfl, h₁, h₂⟩
  · rintro (⟨e, h, rfl⟩ | ⟨t₁, a, t₂, rfl, h₁, h₂⟩)
    · exact ⟨t, .error e, [], by simp, h, rfl, rfl⟩
    · exact ⟨t₁, .ok a, t₂, rfl, h₁, h₂⟩

theorem yields_always (p : Program α) (t : Trace) (r : Except Error α) :
    (always p).run.Yields t r ↔ ∃ x, p.Yields t x ∧ r = .ok x := by
  show (p.bind fun x => .done (.ok x)).Yields t r ↔ _
  rw [yields_map]

/-- A call that cannot fail is answered, and the rest goes on with its answer. -/
theorem yields_always_bind (c : Call) (f : c.Answer → Operation β) (t : Trace) (r : Except Error β) :
    (always (call c) >>= f).run.Yields t r ↔ ∃ x t', t = ⟨c, x⟩ :: t' ∧ (f x).run.Yields t' r := by
  rw [yields_bind]
  constructor
  · rintro (⟨e, h, -⟩ | ⟨t₁, x, t₂, rfl, h, h'⟩)
    · obtain ⟨y, -, hy⟩ := (yields_always ..).1 h
      cases hy
    · obtain ⟨y, hy, he⟩ := (yields_always ..).1 h
      cases he
      obtain rfl := (yields_call ..).1 hy
      exact ⟨x, t₂, rfl, h'⟩
  · rintro ⟨x, t', rfl, h⟩
    exact .inr ⟨[⟨c, x⟩], x, t', rfl, (yields_always ..).2 ⟨x, (yields_call ..).2 rfl, rfl⟩, h⟩

theorem yields_attemptRuntime (p : Program (Except Model.Error α)) (t : Trace) (r : Except Error α) :
    (attemptRuntime p).run.Yields t r ↔ ∃ x, p.Yields t x ∧ r = x.mapError .modelRuntime := by
  show (p.bind fun x => .done (x.mapError .modelRuntime)).Yields t r ↔ _
  rw [yields_map]

theorem yields_pull (tenant model : String) (limit : Duration) (t : Trace) (r : Except Error Unit) :
    (pull tenant model limit).run.Yields t r ↔
      ∃ x, t = [⟨.pull tenant model limit, x⟩] ∧ r = pullResult model limit x := by
  show ((call (.pull tenant model limit)).bind fun x => .done (pullResult model limit x)).Yields t r ↔ _
  rw [yields_map]
  constructor
  · rintro ⟨x, h, rfl⟩; exact ⟨x, (yields_call _ _ _).1 h, rfl⟩
  · rintro ⟨x, rfl, rfl⟩; exact ⟨x, (yields_call _ _ _).2 rfl, rfl⟩

end Operation
end Tenancy.Operator
