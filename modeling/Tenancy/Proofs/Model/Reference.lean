/-
References and what they name. A reference has a tag if there is a colon in it behind which no slash stands
(`tagged_iff`); one without means the tag `latest`. Nothing else is taken for the same: two references have one
canonical form exactly if they are equal, or one has no tag and the other is it with `latest`
(`canonical_eq_iff`). So a runtime is found to hold a model exactly if it lists an entry that is known by such a
name (`existence_up_to_tag`).
-/
import Tenancy.Model.Client
import Tenancy.Operator.Models
import Mathlib.Tactic

namespace Tenancy.Model

variable {reference reference' suffix a b : String} {inventory inventory' : List Entry}

/-! ## Tags -/

/-- There is a colon in the reference, and no slash behind it. -/
def HasTag (reference : String) : Prop :=
  ∃ repository tag : String, reference = repository ++ ":" ++ tag ∧ '/' ∉ tag.toList

/-- A text without slashes behind a reference leaves its tag as it is, or makes one. -/
theorem tagged_append (hs : '/' ∉ suffix.toList) :
    tagged (reference ++ suffix) = true ↔ ':' ∈ suffix.toList ∨ tagged reference = true := by
  have hplain : ∀ c ∈ suffix.toList.reverse, decide (c ≠ '/') = true := by
    intro c hc
    rw [decide_eq_true_eq]
    rintro rfl
    exact hs (List.mem_reverse.1 hc)
  rw [tagged, tagged, String.toList_append, List.reverse_append, List.takeWhile_append_of_pos hplain,
    List.contains_iff_mem, List.contains_iff_mem, List.mem_append, List.mem_reverse]

theorem tagged_iff (reference : String) : tagged reference = true ↔ HasTag reference := by
  constructor
  · intro h
    -- read from its end, the reference goes through `tag` and a colon before it comes to a slash
    obtain ⟨tag, front, hsplit⟩ := List.append_of_mem (List.contains_iff_mem.1 h)
    have htag : '/' ∉ tag := by
      intro hc
      have hall := List.all_eq_true.1 List.all_takeWhile '/' (hsplit ▸ List.mem_append_left _ hc)
      exact of_decide_eq_true hall rfl
    obtain ⟨rest, hchars⟩ := List.takeWhile_prefix (fun c => decide (c ≠ '/')) (l := reference.toList.reverse)
    rw [hsplit] at hchars
    refine ⟨String.ofList (front ++ rest).reverse, String.ofList tag.reverse, ?_, by simpa using htag⟩
    rw [← String.toList_inj, ← List.reverse_inj, ← hchars]
    simp [String.toList_append]
  · rintro ⟨repository, tag, rfl, ht⟩
    have hs : '/' ∉ (":" ++ tag).toList := by simpa [String.toList_append] using ht
    rw [String.append_assoc, tagged_append hs]
    exact .inl (by simp [String.toList_append])

instance : DecidablePred HasTag := fun reference => decidable_of_iff _ (tagged_iff reference)

/-! ## Canonical forms -/

theorem canonical_of_hasTag (h : HasTag reference) : canonical reference = reference :=
  if_pos ((tagged_iff reference).2 h)

theorem canonical_of_not_hasTag (h : ¬ HasTag reference) : canonical reference = reference ++ ":latest" :=
  if_neg fun ht => h ((tagged_iff reference).1 ht)

theorem hasTag_latest (reference : String) : HasTag (reference ++ ":latest") :=
  (tagged_iff _).1 ((tagged_append (by decide)).2 (.inl (by decide)))

theorem hasTag_canonical (reference : String) : HasTag (canonical reference) := by
  by_cases h : HasTag reference
  · rwa [canonical_of_hasTag h]
  · rw [canonical_of_not_hasTag h]
    exact hasTag_latest reference

/-- Writing out the tag that is meant changes nothing. -/
theorem canonical_latest (h : ¬ HasTag reference) : canonical (reference ++ ":latest") = canonical reference := by
  rw [canonical_of_hasTag (hasTag_latest reference), canonical_of_not_hasTag h]

/-- Two names of one model: they are equal, or one has no tag and the other is it with the tag `latest`. -/
def SameModel (a b : String) : Prop := a = b ∨ ¬ HasTag b ∧ a = b ++ ":latest" ∨ ¬ HasTag a ∧ b = a ++ ":latest"

instance : DecidableRel SameModel := fun _ _ => inferInstanceAs (Decidable (_ ∨ _ ∧ _ ∨ _ ∧ _))

theorem canonical_eq_iff : canonical a = canonical b ↔ SameModel a b := by
  constructor
  · intro h
    by_cases ha : HasTag a <;> by_cases hb : HasTag b
    · rw [canonical_of_hasTag ha, canonical_of_hasTag hb] at h
      exact .inl h
    · rw [canonical_of_hasTag ha, canonical_of_not_hasTag hb] at h
      exact .inr (.inl ⟨hb, h⟩)
    · rw [canonical_of_not_hasTag ha, canonical_of_hasTag hb] at h
      exact .inr (.inr ⟨ha, h.symm⟩)
    · rw [canonical_of_not_hasTag ha, canonical_of_not_hasTag hb] at h
      exact .inl ((String.append_left_inj _).1 h)
  · rintro (rfl | ⟨hb, rfl⟩ | ⟨ha, rfl⟩)
    · rfl
    · exact canonical_latest hb
    · exact (canonical_latest ha).symm

example : SameModel "hub:5000/tiny" "hub:5000/tiny:latest" ∧ ¬ SameModel "tiny:8b" "tiny" := by decide

/-! ## Presence -/

theorem present_iff : present inventory reference = true ↔
    ∃ e ∈ inventory, canonical e.identifier = canonical reference := by
  simp only [present, List.any_eq_true, decide_eq_true_eq]

theorem present_mono (hle : inventory ⊆ inventory') (h : present inventory reference = true) :
    present inventory' reference = true := by
  obtain ⟨e, he, hc⟩ := present_iff.1 h
  exact present_iff.2 ⟨e, hle he, hc⟩

/-- What was missing in the larger inventory is missing in the smaller one. -/
theorem present_anti (hle : inventory ⊆ inventory') (h : present inventory' reference = false) :
    present inventory reference = false := by
  by_contra hp
  rw [Bool.not_eq_false] at hp
  cases h.symm.trans (present_mono hle hp)

/-- Presence is a matter of the canonical form. -/
theorem present_congr (h : canonical reference = canonical reference') :
    present inventory reference = present inventory reference' := by
  rw [present, present, h]

theorem present_named (h : .named reference ∈ inventory) : present inventory reference = true := by
  refine present_iff.2 ⟨_, h, ?_⟩
  rw [Entry.named, Entry.identifier, ite_self]

/-- An entry that is another model does not count. -/
theorem present_insert_of_ne {e : Entry} (h : canonical e.identifier ≠ canonical reference)
    (front back : List Entry) : present (front ++ e :: back) reference = present (front ++ back) reference := by
  unfold present
  rw [List.any_append, List.any_append, List.any_cons, decide_eq_false h, Bool.false_or]

/-- An inventory lists an entry that is known by a name of the model; an entry is known by its model, or by its name
where it gives no model. -/
def Listed (reference : String) (inventory : List Entry) : Prop :=
  ∃ e ∈ inventory, SameModel (if e.model = "" then e.name else e.model) reference

instance (reference : String) : DecidablePred (Listed reference) := fun inventory => List.decidableBEx _ inventory

theorem present_eq_listed (inventory : List Entry) (reference : String) :
    present inventory reference = decide (Listed reference inventory) := by
  rw [Bool.eq_iff_iff, present_iff, decide_eq_true_eq]
  simp only [canonical_eq_iff, Entry.identifier, String.isEmpty_iff, Listed]

/-! ## Asking a runtime -/

open Operator in
/-- Whether there is a model is answered out of what the runtime lists. -/
theorem run_modelExists {σ : Type} (tenant reference : String) (h : Handler σ) (s : σ) :
    Program.run h (modelExists tenant reference).run s =
      (((h (.listModels tenant) s).1.map (present · reference)).mapError .modelRuntime,
        (h (.listModels tenant) s).2) := by
  have hlist : Program.run h (Operation.listModels tenant).run s =
      ((h (.listModels tenant) s).1.mapError .modelRuntime, (h (.listModels tenant) s).2) := rfl
  unfold modelExists
  rw [Operation.run_bind, hlist]
  rcases h (.listModels tenant) s with ⟨_ | inventory, m⟩ <;> rfl

open Operator in
/-- To the question whether a runtime has a model, asked by a client or by the reconciler, the answer is whether
something that the runtime lists at that moment is known by a name of the model, and an error only if nothing is
listed. A canonical form is its own canonical form. -/
theorem existence_up_to_tag (reference : String) :
    (∀ {σ : Type} (c : Client) (t : Http.Transport σ) (s : σ), (c.holds reference).perform t s =
      ((c.listModels.perform t s).1.map fun inventory => decide (Listed reference inventory),
        (c.listModels.perform t s).2)) ∧
    (∀ {σ : Type} (tenant : String) (h : Handler σ) (s : σ), Program.run h (modelExists tenant reference).run s =
      (((h (.listModels tenant) s).1.map fun inventory => decide (Listed reference inventory)).mapError .modelRuntime,
        (h (.listModels tenant) s).2)) ∧
    canonical (canonical reference) = canonical reference := by
  refine ⟨fun c t s => ?_, fun tenant h s => ?_, canonical_of_hasTag (hasTag_canonical reference)⟩
  · rw [Client.holds, Http.Exchange.perform_map]
    simp only [present_eq_listed]
  · rw [run_modelExists]
    simp only [present_eq_listed]

end Tenancy.Model
