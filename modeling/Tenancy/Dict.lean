/-
Dictionaries kept as lists of entries in increasing order of their keys. A look-up sees exactly the
last value written under its key, whatever else was written or erased (`get?_insert`,
`get?_erase`).
-/
namespace Tenancy

/-- A finite map, as its entries. -/
abbrev Dict (α β : Type) := List (α × β)

namespace Dict

variable {α β : Type} [DecidableEq α]

def get? : Dict α β → α → Option β
  | [], _ => none
  | (k, v) :: rest, key => if k = key then some v else get? rest key

def contains (m : Dict α β) (key : α) : Bool := (get? m key).isSome

/-- Drops every entry of `key`. -/
def erase (m : Dict α β) (key : α) : Dict α β :=
  m.filter fun e => !decide (e.1 = key)

/-- Puts an entry before the first one with a greater key. -/
def place [LT α] [DecidableLT α] (key : α) (value : β) : Dict α β → Dict α β
  | [] => [(key, value)]
  | (k, v) :: rest => if key < k then (key, value) :: (k, v) :: rest else (k, v) :: place key value rest

/-- Writes `value` under `key`, in place of what stood there. -/
def insert [LT α] [DecidableLT α] (m : Dict α β) (key : α) (value : β) : Dict α β :=
  place key value (erase m key)

/-- Writes `value` under `key` at the end, whatever the order of the keys. -/
def put (m : Dict α β) (key : α) (value : β) : Dict α β := erase m key ++ [(key, value)]

/-- Rewrites the value under `key`, if there is one. -/
def modify (m : Dict α β) (key : α) (f : β → β) : Dict α β :=
  m.map fun e => if e.1 = key then (e.1, f e.2) else e

/-- The dictionary of a list of entries; of two with one key the later counts. -/
def ofList [LT α] [DecidableLT α] (entries : List (α × β)) : Dict α β :=
  entries.foldl (fun m e => insert m e.1 e.2) []

/-! ## Look-ups -/

/-- An entry under another key is passed over, whether it is dropped or not. -/
theorem get?_filter (m : Dict α β) (p : α → Bool) (k : α) :
    get? (m.filter fun e => p e.1) k = if p k then get? m k else none := by
  induction m with
  | nil => exact (ite_self _).symm
  | cons e rest ih =>
    obtain ⟨k', v⟩ := e
    rw [List.filter_cons]
    by_cases hk : k' = k
    · subst hk
      cases hp : p k' with
      | true => simp [get?]
      | false => simpa [hp] using ih
    · rw [get?, if_neg hk, ← ih]
      split
      · rw [get?, if_neg hk]
      · rfl

theorem get?_erase (m : Dict α β) (key k : α) :
    get? (erase m key) k = if k = key then none else get? m k := by
  rw [erase, get?_filter m fun k => !decide (k = key)]
  by_cases h : k = key <;> simp [h]

theorem get?_place [LT α] [DecidableLT α] (m : Dict α β) (key : α) (value : β) (k : α)
    (h : get? m key = none) :
    get? (place key value m) k = if k = key then some value else get? m k := by
  induction m with
  | nil => simp only [place, get?]; grind
  | cons e rest ih =>
    obtain ⟨k', v⟩ := e
    simp only [get?] at h
    by_cases hk : k' = key
    · simp [hk] at h
    · simp only [hk, ite_false] at h
      simp only [place]
      split <;> simp only [get?] <;> grind

theorem get?_insert [LT α] [DecidableLT α] (m : Dict α β) (key : α) (value : β) (k : α) :
    get? (insert m key value) k = if k = key then some value else get? m k := by
  rw [insert, get?_place _ _ _ _ (by simp [get?_erase]), get?_erase]
  split <;> simp_all

theorem get?_put (m : Dict α β) (key : α) (value : β) (k : α) :
    get? (put m key value) k = if k = key then some value else get? m k := by
  have append : ∀ l : Dict α β, get? l key = none →
      get? (l ++ [(key, value)]) k = if k = key then some value else get? l k := by
    intro l
    induction l with
    | nil => simp only [List.nil_append, get?]; grind
    | cons e rest ih =>
      obtain ⟨k', v⟩ := e
      simp only [List.cons_append, get?]
      grind
  rw [put, append _ (by simp [get?_erase]), get?_erase]
  split <;> simp_all

theorem get?_modify (m : Dict α β) (key : α) (f : β → β) (k : α) :
    get? (modify m key f) k = if k = key then (get? m k).map f else get? m k := by
  induction m with
  | nil => simp [modify, get?]
  | cons e rest ih =>
    obtain ⟨k', v⟩ := e
    simp only [modify, List.map_cons] at ih ⊢
    by_cases h : k' = key <;> simp only [h, ite_true, ite_false, get?] <;> grind

end Dict
end Tenancy
