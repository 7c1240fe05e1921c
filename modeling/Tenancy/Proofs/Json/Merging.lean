/-
Merge patches field by field. The entries under a key are what a reader of an object looks at (`Dict.under`): writing
a key leaves one entry under it, and leaves every other key alone. So a patch changes only the fields that it names
(`under_mergeFields`), and of one that it names there is a single entry, the merged one (`under_mergeFields_mem`).
-/
import Tenancy.Json.MergePatch
import Mathlib.Tactic

namespace Tenancy

/-! ## Entries of a key -/

namespace Dict

variable {α β : Type} [DecidableEq α] {m : Dict α β} {key k : α} {value : β}

/-- The entries under a key; there may be several in a list that is no dictionary. -/
def under (m : Dict α β) (key : α) : List (α × β) := m.filter (·.1 = key)

theorem under_cons (e : α × β) (m : Dict α β) (key : α) :
    under (e :: m) key = if e.1 = key then e :: under m key else under m key := by
  unfold under
  rw [List.filter_cons]
  simp only [decide_eq_true_eq]

theorem under_append (m n : Dict α β) (key : α) : under (m ++ n) key = under m key ++ under n key :=
  List.filter_append ..

theorem under_eq_nil (h : ∀ e ∈ m, e.1 ≠ key) : under m key = [] := by
  unfold under
  rw [List.filter_eq_nil_iff]
  simpa using h

/-- A look-up sees the first entry. -/
theorem get?_eq_under (m : Dict α β) (key : α) : get? m key = (under m key).head?.map (·.2) := by
  induction m with
  | nil => rfl
  | cons e rest ih =>
    obtain ⟨k, v⟩ := e
    rw [get?, under_cons]
    split
    · rfl
    · exact ih

theorem under_erase (m : Dict α β) (key k : α) : under (erase m key) k = if k = key then [] else under m k := by
  unfold under erase
  rw [List.filter_filter]
  split
  next h =>
    subst h
    simp
  next h =>
    refine List.filter_congr fun e _ => ?_
    by_cases he : e.1 = k
    · simp [he, h]
    · simp [he]

variable [LT α] [DecidableLT α]

theorem under_place (m : Dict α β) (key : α) (value : β) (h : under m key = []) (k : α) :
    under (place key value m) k = if k = key then [(key, value)] else under m k := by
  induction m with
  | nil =>
    rw [place, under_cons]
    simp only [eq_comm]
    rfl
  | cons e rest ih =>
    obtain ⟨k', v⟩ := e
    rw [under_cons] at h
    split at h
    · cases h
    next hk' =>
      rw [place]
      split
      · rw [under_cons (key, value)]
        simp only [eq_comm (a := key)]
        split
        next hk =>
          subst hk
          rw [under_cons, if_neg hk', h]
        next => rfl
      · rw [under_cons, ih h, under_cons]
        by_cases hk : k = key
        · subst hk
          rw [if_neg hk', if_pos rfl, if_pos rfl]
        · rw [if_neg hk, if_neg hk]

/-- What is written is the only entry under its key. -/
theorem under_insert (m : Dict α β) (key : α) (value : β) (k : α) :
    under (insert m key value) k = if k = key then [(key, value)] else under m k := by
  rw [insert, under_place _ _ _ (by rw [under_erase, if_pos rfl]), under_erase]
  split <;> rfl

theorem ofList_concat (entries : List (α × β)) (e : α × β) :
    ofList (entries ++ [e]) = insert (ofList entries) e.1 e.2 := List.foldl_concat ..

/-- A dictionary of entries with different keys has these entries. -/
theorem under_ofList {entries : List (α × β)} (h : (entries.map (·.1)).Nodup) (k : α) :
    under (ofList entries) k = under entries k := by
  induction entries using List.reverseRecOn with
  | nil => rfl
  | append_singleton entries e ih =>
    obtain ⟨key, value⟩ := e
    rw [List.map_append, List.nodup_append] at h
    obtain ⟨hentries, -, hdisjoint⟩ := h
    rw [ofList_concat, under_insert, ih hentries, under_append, under_cons]
    by_cases hk : k = key
    · subst hk
      have hnone : under entries k = [] :=
        under_eq_nil fun e he hk => hdisjoint _ (List.mem_map_of_mem he) _ (List.mem_singleton_self _) hk
      rw [if_pos rfl, if_pos rfl, hnone]
      rfl
    · rw [if_neg hk, if_neg (Ne.symm hk)]
      exact (List.append_nil _).symm

end Dict

/-! ## Patches -/

namespace Json

open Dict (under under_insert under_erase)

variable {key : String} {value : Json}

theorem get?_obj (fields : Dict String Json) (key : String) : (Json.obj fields).get? key = Dict.get? fields key := rfl

theorem get?_fields (j : Json) (key : String) : Dict.get? j.fields key = j.get? key := by
  cases j <;> rfl

theorem mergeFields_cons (fields : Dict String Json) (rest : List (String × Json)) (hv : value ≠ .null) :
    mergeFields fields ((key, value) :: rest) =
      mergeFields (Dict.insert fields key (mergePatch ((Dict.get? fields key).getD .null) value)) rest := by
  cases value with
  | null => exact absurd rfl hv
  | _ => rfl

theorem mergeFields_null (fields : Dict String Json) (key : String) (rest : List (String × Json)) :
    mergeFields fields ((key, .null) :: rest) = mergeFields (Dict.erase fields key) rest := rfl

/-- Fields that a patch does not name stay. -/
theorem under_mergeFields (fields : Dict String Json) {patch : List (String × Json)} (h : ∀ e ∈ patch, e.1 ≠ key) :
    under (mergeFields fields patch) key = under fields key := by
  induction patch generalizing fields with
  | nil => rfl
  | cons e rest ih =>
    obtain ⟨k, value⟩ := e
    have hk : key ≠ k := (h (k, value) (List.mem_cons_self ..)).symm
    have hrest := fun fields => ih fields fun e he => h e (List.mem_cons_of_mem _ he)
    by_cases hnull : value = .null
    · rw [hnull, mergeFields_null, hrest, under_erase, if_neg hk]
    · rw [mergeFields_cons _ _ hnull, hrest, under_insert, if_neg hk]

/-- A field that a patch names is merged, and is then there once. -/
theorem under_mergeFields_mem (fields : Dict String Json) {patch : List (String × Json)}
    (hnodup : (patch.map (·.1)).Nodup) (hmem : (key, value) ∈ patch) (hv : value ≠ .null) :
    under (mergeFields fields patch) key = [(key, mergePatch ((Dict.get? fields key).getD .null) value)] := by
  induction patch generalizing fields with
  | nil => cases hmem
  | cons e rest ih =>
    obtain ⟨hfirst, hrest⟩ := List.nodup_cons.1 hnodup
    rcases List.mem_cons.1 hmem with rfl | hlater
    · have hnot : ∀ e ∈ rest, e.1 ≠ key := fun e he hk => hfirst (List.mem_map.2 ⟨e, he, hk⟩)
      rw [mergeFields_cons fields rest hv, under_mergeFields _ hnot, under_insert, if_pos rfl]
    · obtain ⟨k, other⟩ := e
      have hk : key ≠ k := fun hk => hfirst (List.mem_map.2 ⟨(key, value), hlater, hk⟩)
      by_cases hnull : other = .null
      · rw [hnull, mergeFields_null, ih _ hrest hlater, Dict.get?_erase, if_neg hk]
      · rw [mergeFields_cons _ _ hnull, ih _ hrest hlater, Dict.get?_insert, if_neg hk]

variable {target : Json} {patch : List (String × Json)}

/-- A patch changes only the fields that it names. -/
theorem get?_mergePatch (h : ∀ e ∈ patch, e.1 ≠ key) : (target.mergePatch (.obj patch)).get? key = target.get? key := by
  rw [mergePatch, get?_obj, Dict.get?_eq_under, under_mergeFields _ h, ← Dict.get?_eq_under, get?_fields]

theorem get?_mergePatch_mem (hnodup : (patch.map (·.1)).Nodup) (hmem : (key, value) ∈ patch) (hv : value ≠ .null) :
    (target.mergePatch (.obj patch)).get? key = some ((target.get key).mergePatch value) := by
  unfold get
  rw [mergePatch, get?_obj, Dict.get?_eq_under, under_mergeFields_mem _ hnodup hmem hv, get?_fields]
  rfl

theorem get_mergePatch (hnodup : (patch.map (·.1)).Nodup) (hmem : (key, value) ∈ patch) (hv : value ≠ .null) :
    (target.mergePatch (.obj patch)).get key = (target.get key).mergePatch value := by
  rw [get, get?_mergePatch_mem hnodup hmem hv]
  rfl

end Json
end Tenancy
