/-
The names of variants. A known pattern has neither a hyphen nor a colon nor a slash in it, so the name of a variant is
tagged where that of its base is (`tagged_variantName`), and what stands behind its last hyphen is its pattern. Two
variants are one model for a runtime only if they are the same variant, so none is taken for another
(`variants_apart`). A declared model, though, may have the name of a variant.
-/
import Tenancy.Model.Pattern
import Tenancy.Proofs.Model.Reference

namespace Tenancy

theorem Dict.mem_keys_of_get? {α β : Type} [DecidableEq α] {m : Dict α β} {key : α} {value : β}
    (h : Dict.get? m key = some value) : key ∈ m.map (·.1) := by
  induction m with
  | nil => cases h
  | cons e rest ih =>
    obtain ⟨k, v⟩ := e
    rw [get?] at h
    split at h
    next hk => exact hk ▸ List.mem_cons_self ..
    next => exact List.mem_cons_of_mem _ (ih h)

namespace Model

/-! ## Patterns -/

/-- A text without any of the signs that divide references. -/
def Plain (s : String) : Prop := ∀ c ∈ s.toList, c ≠ '-' ∧ c ≠ ':' ∧ c ≠ '/'

instance : DecidablePred Plain := fun s => List.decidableBAll _ s.toList

theorem plain_of_known {model pattern : String} {file : File} (h : variant? model pattern = some file) :
    Plain pattern := by
  obtain ⟨system, hs, -⟩ := Option.map_eq_some_iff.1 h
  have hall : ∀ known ∈ patterns.map (·.1), Plain known := by
    simp only [patterns, List.map_cons, List.map_nil]
    decide
  exact hall pattern (Dict.mem_keys_of_get? hs)

variable {model model' pattern pattern' : String}

/-! ## Tags -/

/-- The name of a variant is tagged where that of its base is. -/
theorem tagged_variantName (hp : Plain pattern) : tagged (variantName model pattern) = tagged model := by
  have hslash : '/' ∉ ("-" ++ pattern).toList := by
    simpa [String.toList_append] using fun hc => (hp _ hc).2.2 rfl
  have hcolon : ':' ∉ ("-" ++ pattern).toList := by
    simpa [String.toList_append] using fun hc => (hp _ hc).2.1 rfl
  rw [Bool.eq_iff_iff, variantName, String.append_assoc, tagged_append hslash]
  exact or_iff_right hcolon

/-! ## Hyphens -/

/-- What stands behind the last hyphen of a text determines what stands before it. -/
theorem append_hyphen_inj {a a' b b' : List Char} (hb : '-' ∉ b) (hb' : '-' ∉ b')
    (h : a ++ '-' :: b = a' ++ '-' :: b') : a = a' ∧ b = b' := by
  rcases List.append_eq_append_iff.1 h with ⟨c, rfl, hc⟩ | ⟨c, rfl, hc⟩
  · cases c with
    | nil => exact ⟨(List.append_nil a).symm, (List.cons.inj hc).2⟩
    | cons d c =>
      refine absurd ?_ hb
      rw [(List.cons.inj hc).2]
      exact List.mem_append_right _ (List.mem_cons_self ..)
  · cases c with
    | nil => exact ⟨List.append_nil a', (List.cons.inj hc).2.symm⟩
    | cons d c =>
      refine absurd ?_ hb'
      rw [(List.cons.inj hc).2]
      exact List.mem_append_right _ (List.mem_cons_self ..)

/-- A variant with something behind its name that has no hyphen in it. -/
theorem variantName_append_inj {s s' : String} (hp : Plain pattern) (hp' : Plain pattern') (hs : '-' ∉ s.toList)
    (hs' : '-' ∉ s'.toList) (h : variantName model pattern ++ s = variantName model' pattern' ++ s') :
    model = model' ∧ pattern ++ s = pattern' ++ s' := by
  have behind : ∀ {p s : String}, Plain p → '-' ∉ s.toList → '-' ∉ (p ++ s).toList := by
    intro p s hp hs hc
    rw [String.toList_append] at hc
    exact (List.mem_append.1 hc).elim (fun hc => (hp _ hc).1 rfl) hs
  have hchars : ∀ m p s : String, (variantName m p ++ s).toList = m.toList ++ '-' :: (p ++ s).toList := by
    intro m p s
    simp [variantName, String.toList_append]
  have hlist := congrArg String.toList h
  rw [hchars, hchars] at hlist
  obtain ⟨hm, hps⟩ := append_hyphen_inj (behind hp hs) (behind hp' hs') hlist
  exact ⟨String.toList_inj.1 hm, String.toList_inj.1 hps⟩

/-! ## Variants -/

theorem canonical_eq (reference : String) :
    canonical reference = reference ++ if tagged reference then "" else ":latest" := by
  unfold canonical
  split
  · exact String.append_empty.symm
  · rfl

/-- No two variants are one model. -/
theorem canonical_variantName_inj (hp : Plain pattern) (hp' : Plain pattern')
    (h : canonical (variantName model pattern) = canonical (variantName model' pattern')) :
    model = model' ∧ pattern = pattern' := by
  rw [canonical_eq, canonical_eq, tagged_variantName hp, tagged_variantName hp'] at h
  have plain : ∀ b : Bool, '-' ∉ (if b then "" else ":latest").toList := by decide
  obtain ⟨rfl, h⟩ := variantName_append_inj hp hp' (plain _) (plain _) h
  exact ⟨rfl, String.append_left_inj _ |>.1 h⟩

/-- No variant is its own base. -/
theorem canonical_ne_variantName (hp : Plain pattern) : canonical model ≠ canonical (variantName model pattern) := by
  intro h
  rw [canonical_eq, canonical_eq, tagged_variantName hp] at h
  have hlength := congrArg (·.toList.length) h
  simp only [variantName, String.toList_append, List.length_append] at hlength
  have : "-".toList.length = 1 := rfl
  omega

/-- Variants of different models, or under different patterns, have different names. -/
theorem variant_unique {file file' : File} (h : variant? model pattern = some file)
    (h' : variant? model' pattern' = some file')
    (he : canonical (variantName model pattern) = canonical (variantName model' pattern')) :
    model = model' ∧ pattern = pattern' :=
  canonical_variantName_inj (plain_of_known h) (plain_of_known h') he

/-- Two variants have one canonical name only if they are the same variant. So whether a variant is there is not
changed by an entry that has the name of another one. -/
theorem variants_apart {file file' : File} (h : variant? model pattern = some file)
    (h' : variant? model' pattern' = some file') :
    (canonical (variantName model pattern) = canonical (variantName model' pattern') ↔
      model = model' ∧ pattern = pattern') ∧
    ((model, pattern) ≠ (model', pattern') → ∀ (front back : List Entry) (e : Entry),
      canonical e.identifier = canonical (variantName model' pattern') →
      present (front ++ e :: back) (variantName model pattern) =
        present (front ++ back) (variantName model pattern)) := by
  have hunique := variant_unique h h'
  refine ⟨⟨hunique, ?_⟩, fun hne front back e he => ?_⟩
  · rintro ⟨rfl, rfl⟩
    rfl
  · refine present_insert_of_ne ?_ front back
    intro hsame
    exact hne (Prod.ext_iff.2 (hunique (hsame.symm.trans he)))

/-- A variant of a model, and a variant of the model that has its name. -/
theorem variants_apart_nested : ∃ file file' : File, variant? "hub:5000/tiny" "ai" = some file ∧
    variant? "hub:5000/tiny-ai" "translate" = some file' ∧
    canonical (variantName "hub:5000/tiny" "ai") ≠ canonical (variantName "hub:5000/tiny-ai" "translate") ∧
    present [.named "tiny", .named "hub:5000/tiny-ai-translate:latest"] (variantName "hub:5000/tiny" "ai") = false := by
  obtain ⟨file, hf⟩ : ∃ file, variant? "hub:5000/tiny" "ai" = some file := ⟨_, rfl⟩
  obtain ⟨file', hf'⟩ : ∃ file, variant? "hub:5000/tiny-ai" "translate" = some file := ⟨_, rfl⟩
  obtain ⟨hunique, hpresent⟩ := variants_apart hf hf'
  refine ⟨file, file', hf, hf', fun he => absurd (hunique.1 he).1 (by decide), ?_⟩
  exact (hpresent (by decide) [.named "tiny"] [] (.named "hub:5000/tiny-ai-translate:latest") (by decide)).trans
    (by decide)

end Model
end Tenancy
