/-
Records in documents. A decoder wants the names of a record at most once in an object (`once_of_slots`), and then a
look-up of each is all that it sees (`slots_obj`). An object made of members is of that sort (`slots_present`).
-/
import Tenancy.Json.Decode
import Tenancy.Proofs.Json.Merging
import Tenancy.Proofs.Json.Reading

namespace Tenancy

/-! ## Members -/

namespace Dict

variable {α β : Type} {m : Dict α β} {key : α}

theorem keys_filterMap (members : List (α × Option β)) :
    ((members.filterMap fun f => f.2.map (f.1, ·)).map (·.1)).Sublist (members.map (·.1)) := by
  induction members with
  | nil => exact .slnil
  | cons f rest ih =>
    obtain ⟨k, found⟩ := f
    cases found with
    | none => exact ih.cons k
    | some v => exact ih.cons_cons k

theorem mem_place [LT α] [DecidableLT α] {e : α × β} {value : β} (h : e ∈ place key value m) : e = (key, value) ∨ e ∈ m := by
  induction m with
  | nil => exact .inl (List.mem_singleton.1 h)
  | cons f rest ih =>
    rw [place] at h
    split at h
    · exact List.mem_cons.1 h
    · rcases List.mem_cons.1 h with rfl | h
      · exact .inr (List.mem_cons_self ..)
      · exact (ih h).imp_right (List.mem_cons_of_mem _)

variable [DecidableEq α]

/-- A key that stands at most once. -/
def Once (m : Dict α β) (key : α) : Prop := (under m key).length ≤ 1

theorem get?_eq_none (h : ∀ e ∈ m, e.1 ≠ key) : get? m key = none := by
  rw [get?_eq_under, under_eq_nil h]
  rfl

theorem under_of_mem {value : β} (h : (m.map (·.1)).Nodup) (hmem : (key, value) ∈ m) : under m key = [(key, value)] := by
  induction m with
  | nil => cases hmem
  | cons e rest ih =>
    obtain ⟨hfirst, hrest⟩ := List.nodup_cons.1 h
    rw [under_cons]
    rcases List.mem_cons.1 hmem with rfl | hlater
    · rw [if_pos rfl, under_eq_nil fun e he hk => hfirst (List.mem_map.2 ⟨e, he, hk⟩)]
    · rw [if_neg fun hk => hfirst (List.mem_map.2 ⟨_, hlater, hk.symm⟩), ih hrest hlater]

/-- A look-up among those members that are there. -/
theorem get?_filterMap (members : List (α × Option β)) (h : (members.map (·.1)).Nodup) (key : α) :
    get? (members.filterMap fun f => f.2.map (f.1, ·)) key = (get? members key).join := by
  induction members with
  | nil => rfl
  | cons f rest ih =>
    obtain ⟨k, found⟩ := f
    obtain ⟨hfirst, hrest⟩ := List.nodup_cons.1 h
    rw [get?]
    cases found with
    | none =>
      rw [List.filterMap_cons_none rfl, ih hrest]
      split
      next hk =>
        subst hk
        have hnone : get? rest k = none := get?_eq_none fun e he hk => hfirst (List.mem_map.2 ⟨e, he, hk⟩)
        rw [hnone]
        rfl
      next => rfl
    | some v =>
      show get? ((k, v) :: _) key = _
      rw [get?, ih hrest]
      split <;> rfl

variable [LT α] [DecidableLT α]

/-- A dictionary that was built entry by entry has each key at most once. -/
theorem once_ofList (entries : List (α × β)) (key : α) : Once (ofList entries) key := by
  induction entries using List.reverseRecOn with
  | nil => exact Nat.zero_le 1
  | append_singleton entries last ih =>
    unfold Once
    rw [ofList_concat, under_insert]
    split
    · exact le_refl 1
    · exact ih

theorem mem_ofList {entries : List (α × β)} {e : α × β} (h : e ∈ ofList entries) : e ∈ entries := by
  induction entries using List.reverseRecOn with
  | nil => exact h
  | append_singleton entries last ih =>
    rw [ofList_concat] at h
    rw [List.mem_append, List.mem_singleton]
    rcases mem_place h with rfl | h
    · exact .inr rfl
    · exact .inl (ih (List.mem_of_mem_filter h))

end Dict

namespace Json

variable {members : List (String × Option Json)}

theorem once_present (members : List (String × Option Json)) (name : String) : Dict.Once (present members).fields name :=
  Dict.once_ofList _ name

theorem get?_present (h : (members.map (·.1)).Nodup) (name : String) :
    (present members).get? name = (Dict.get? members name).join := by
  show Dict.get? (Dict.ofList _) name = _
  rw [Dict.get?_eq_under, Dict.under_ofList (h.sublist (Dict.keys_filterMap members)), ← Dict.get?_eq_under,
    Dict.get?_filterMap members h]

theorem itemsFit_iff {items : List Json} {room : Nat} : itemsFit items room = true ↔ ∀ j ∈ items, j.fits room = true := by
  induction items with
  | nil => simp [itemsFit]
  | cons j rest ih => simp [itemsFit, ih]

theorem fieldsFit_iff {fields : List (String × Json)} {room : Nat} :
    fieldsFit fields room = true ↔ ∀ f ∈ fields, f.2.fits room = true := by
  induction fields with
  | nil => simp [fieldsFit]
  | cons f rest ih => simp [fieldsFit, ih]

/-- An object of members fits if they do. -/
theorem fits_present {room : Nat} (h : ∀ f ∈ members, ∀ j ∈ f.2, j.fits room = true) :
    (present members).fits (room + 1) = true := by
  show (decide (0 < room + 1) && fieldsFit (Dict.ofList _) room) = true
  rw [decide_eq_true (Nat.succ_pos room), Bool.true_and, fieldsFit_iff]
  intro f hf
  obtain ⟨f', hf', hmap⟩ := List.mem_filterMap.1 (Dict.mem_ofList hf)
  obtain ⟨j, hj, rfl⟩ := Option.map_eq_some_iff.1 hmap
  exact h f' hf' j hj

/-! ### Patches -/

theorem fieldsFit_insert {fields : Dict String Json} {key : String} {value : Json} {room : Nat}
    (h : fieldsFit fields room = true) (hv : value.fits room = true) :
    fieldsFit (Dict.insert fields key value) room = true := by
  rw [fieldsFit_iff] at h ⊢
  intro f hf
  rcases Dict.mem_place hf with rfl | hf
  · exact hv
  · exact h f (List.mem_of_mem_filter hf)

theorem fieldsFit_erase {fields : Dict String Json} {key : String} {room : Nat} (h : fieldsFit fields room = true) :
    fieldsFit (Dict.erase fields key) room = true := by
  rw [fieldsFit_iff] at h ⊢
  exact fun f hf => h f (List.mem_of_mem_filter hf)

theorem fits_get? {fields : Dict String Json} {key : String} {room : Nat} (h : fieldsFit fields room = true) :
    ((Dict.get? fields key).getD .null).fits room = true := by
  induction fields with
  | nil => rfl
  | cons f rest ih =>
    obtain ⟨k, j⟩ := f
    obtain ⟨hj, hrest⟩ := Bool.and_eq_true_iff.1 h
    rw [Dict.get?]
    split
    · exact hj
    · exact ih hrest

theorem fits_obj {fields : Dict String Json} {room : Nat} : (obj fields).fits (room + 1) = fieldsFit fields room := by
  rw [fits, decide_eq_true (Nat.succ_pos room), Bool.true_and, Nat.add_sub_cancel]

theorem fieldsFit_fields {j : Json} {room : Nat} (h : j.fits (room + 1) = true) : fieldsFit j.fields room = true := by
  cases j with
  | obj fields => rwa [fits_obj] at h
  | _ => rfl

mutual

/-- What fits still fits after a patch that fits. -/
theorem fits_mergePatch (target patch : Json) (room : Nat) (h : target.fits room = true) (hp : patch.fits room = true) :
    (target.mergePatch patch).fits room = true := by
  match patch, room, hp with
  | .obj _, 0, hp => simp [fits] at hp
  | .obj fields, room + 1, hp =>
    rw [fits_obj] at hp
    rw [mergePatch, fits_obj]
    exact fits_mergeFields target.fields fields room (fieldsFit_fields h) hp
  | .null, _, hp | .bool _, _, hp | .num _, _, hp | .str _, _, hp | .arr _, _, hp => exact hp

theorem fits_mergeFields (fields : Dict String Json) (patch : List (String × Json)) (room : Nat)
    (h : fieldsFit fields room = true) (hp : fieldsFit patch room = true) :
    fieldsFit (mergeFields fields patch) room = true := by
  match patch, hp with
  | [], _ => exact h
  | (key, value) :: rest, hp =>
    obtain ⟨hvalue, hrest⟩ := Bool.and_eq_true_iff.1 hp
    by_cases hnull : value = .null
    · rw [hnull, mergeFields_null]
      exact fits_mergeFields _ rest room (fieldsFit_erase h) hrest
    · rw [mergeFields_cons fields rest hnull]
      have hmerged := fits_mergePatch ((Dict.get? fields key).getD .null) value room (fits_get? h) hvalue
      exact fits_mergeFields _ rest room (fieldsFit_insert h hmerged) hrest

end

end Json

/-! ## Slots -/

namespace Decoder

open Dict (Once get?)

variable {α : Type} {d : Decoder α} {names : List String} {fields : List (String × Json)} {s : Slots} {name : String}
  {a : α}

/-- The slot of a field that is written as a value, or left out. -/
def Slot.of : Option Json → Slot
  | none => .absent
  | some j => .given (.ofJson j)

theorem ofFields_eq (fields : List (String × Json)) :
    Written.ofFields fields = fields.map fun f => (some f.1, .ofJson f.2) := by
  induction fields with
  | nil => rfl
  | cons f rest ih =>
    obtain ⟨key, j⟩ := f
    rw [Written.ofFields, ih]
    rfl

theorem ofItems_eq (items : List Json) : Written.ofItems items = items.map .ofJson := by
  induction items with
  | nil => rfl
  | cons j rest ih =>
    rw [Written.ofItems, ih]
    rfl

theorem entries_obj (fields : List (String × Json)) :
    entries (.ofJson (.obj fields)) = some (fields.map fun f => (f.1, .ofJson f.2)) := by
  rw [Written.ofJson, ofFields_eq, entries]
  induction fields with
  | nil => rfl
  | cons f rest ih =>
    rw [List.map_cons, List.mapM_cons, ih]
    rfl

theorem filter_ofJson (fields : List (String × Json)) (name : String) :
    (fields.map fun f => (f.1, Written.ofJson f.2)).filter (·.1 = name) =
      (Dict.under fields name).map fun f => (f.1, Written.ofJson f.2) := by
  unfold Dict.under
  rw [List.filter_map]
  rfl

/-- The slot of a name that stands once is what a look-up finds. -/
theorem slotOf_eq (h : Once fields name) :
    slotOf (fields.map fun f => (f.1, .ofJson f.2)) name = some (.of (get? fields name)) := by
  unfold Once at h
  unfold slotOf
  rw [filter_ofJson, Dict.get?_eq_under]
  match Dict.under fields name, h with
  | [], _ => rfl
  | [f], _ => rfl
  | f :: g :: rest, h => exact absurd h (by simp)

theorem once_of_slotOf {slot : Slot} (h : slotOf (fields.map fun f => (f.1, .ofJson f.2)) name = some slot) :
    Once fields name := by
  unfold slotOf at h
  rw [filter_ofJson] at h
  unfold Once
  match Dict.under fields name, h with
  | [], _ => exact Nat.zero_le 1
  | [f], _ => exact le_refl 1
  | f :: g :: rest, h => cases h

theorem slots_obj_eq (names : List String) (fields : List (String × Json)) : slots names (.ofJson (.obj fields)) =
    names.mapM fun name => (slotOf (fields.map fun f => (f.1, .ofJson f.2)) name).map (name, ·) := by
  show (entries (.ofJson (.obj fields))).bind _ = _
  rw [entries_obj]
  rfl

/-- In an object that is read as a record the names of its fields stand at most once. -/
theorem once_of_slots (h : slots names (.ofJson (.obj fields)) = some s) : ∀ name ∈ names, Once fields name := by
  rw [slots_obj_eq] at h
  induction names generalizing s with
  | nil => exact fun _ => nofun
  | cons name names ih =>
    rw [List.mapM_cons] at h
    obtain ⟨_, hfirst, h⟩ := Option.bind_eq_some_iff.1 h
    obtain ⟨rest, hrest, -⟩ := Option.bind_eq_some_iff.1 h
    obtain ⟨slot, hslot, -⟩ := Option.map_eq_some_iff.1 hfirst
    exact List.forall_mem_cons.2 ⟨once_of_slotOf hslot, ih hrest⟩

theorem slot_map (f : String → Slot) (h : name ∈ names) : slot (names.map fun name => (name, f name)) name = f name := by
  unfold slot
  induction names with
  | nil => cases h
  | cons n names ih =>
    rw [List.map_cons, get?]
    split
    next hn =>
      rw [hn]
      rfl
    next hn => exact ih ((List.mem_cons.1 h).resolve_left (Ne.symm hn))

/-- In an object in which the names of a record stand at most once, a look-up gives the slot of each. -/
theorem slots_obj (h : ∀ name ∈ names, Once fields name) :
    ∃ s, slots names (.ofJson (.obj fields)) = some s ∧ ∀ name ∈ names, slot s name = .of (get? fields name) := by
  refine ⟨names.map fun name => (name, .of (get? fields name)), ?_, fun name hname => slot_map _ hname⟩
  rw [slots_obj_eq]
  induction names with
  | nil => rfl
  | cons name names ih =>
    obtain ⟨hname, hnames⟩ := List.forall_mem_cons.1 h
    rw [List.mapM_cons, slotOf_eq hname, ih hnames]
    rfl

/-- The slots of an object of members are the members. -/
theorem slots_present {members : List (String × Option Json)} (h : (members.map (·.1)).Nodup) (names : List String) :
    ∃ s, slots names (.ofJson (.present members)) = some s ∧
      ∀ name ∈ names, ∀ found, get? members name = some found → slot s name = .of found := by
  obtain ⟨s, hs, hslot⟩ := slots_obj fun name (_ : name ∈ names) => Json.once_present members name
  refine ⟨s, hs, fun name hname found hfound => ?_⟩
  rw [hslot name hname, Json.get?_fields, Json.get?_present h, hfound]
  rfl

/-! ## Fields -/

theorem required_of {j : Json} (h : slot s name = .of (some j)) : required s name d = d (.ofJson j) := by
  unfold required
  rw [h]
  rfl

theorem defaulted_of {default : α} {found : Option Json} (h : slot s name = .of found) :
    defaulted s name default d = found.elim (some default) fun j => d (.ofJson j) := by
  unfold defaulted
  rw [h]
  cases found <;> rfl

/-- The field of an object says a value, if only by being left out. -/
def Says (d : Decoder α) (default : α) (fields : List (String × Json)) (name : String) (a : α) : Prop :=
  Once fields name ∧ ((get? fields name).elim (some default) fun j => d (.ofJson j)) = some a

theorem Says.congr {default : α} {fields' : List (String × Json)} (h : Says d default fields name a)
    (hunder : Dict.under fields' name = Dict.under fields name) : Says d default fields' name a := by
  unfold Says Once at *
  rw [Dict.get?_eq_under] at *
  rw [hunder]
  exact h

theorem says_single {default : α} {j : Json} (hunder : Dict.under fields name = [(name, j)]) (h : d (.ofJson j) = some a) :
    Says d default fields name a := by
  unfold Says Once
  rw [Dict.get?_eq_under, hunder]
  exact ⟨le_refl 1, h⟩

/-- A field that is written if there is a value, and read back as it. -/
theorem optional_of {write : α → Json} {found : Option α} (h : slot s name = .of (found.map write))
    (hread : ∀ a ∈ found, nullable d (.ofJson (write a)) = some (some a)) : optional s name d = some found := by
  unfold optional
  rw [h]
  cases found with
  | none => rfl
  | some a => exact hread a rfl

theorem optional_eq_some (h : optional s name d = some (some a)) : ∃ w, d w = some a := by
  unfold optional at h
  split at h
  · unfold nullable at h
    split at h
    · cases h
    · exact ⟨_, by simpa using h⟩
  · cases h
  · cases h

theorem defaulted_eq_some {default : α} (h : defaulted s name default d = some a) : a = default ∨ ∃ w, d w = some a := by
  unfold defaulted at h
  split at h
  · exact .inr ⟨_, h⟩
  · exact .inl (Option.some.inj h).symm

theorem list_eq_some {w : Written} {items : List α} (h : list d w = some items) : ∀ a ∈ items, ∃ w, d w = some a := by
  unfold list at h
  split at h
  next written =>
    clear * - h
    induction written generalizing items with
    | nil =>
      obtain ⟨⟩ := h
      exact fun _ => nofun
    | cons w rest ih =>
      rw [List.mapM_cons] at h
      obtain ⟨a, ha, h⟩ := Option.bind_eq_some_iff.1 h
      obtain ⟨as, has, hitems⟩ := Option.bind_eq_some_iff.1 h
      obtain ⟨⟩ := hitems
      exact List.forall_mem_cons.2 ⟨⟨w, ha⟩, ih has⟩
  · cases h

/-- A list is read back if its items are. -/
theorem list_map {write : α → Json} {items : List α} (h : ∀ a ∈ items, d (.ofJson (write a)) = some a) :
    list d (.ofJson (.arr (items.map write))) = some items := by
  show (Written.ofItems (items.map write)).mapM d = some items
  rw [ofItems_eq]
  induction items with
  | nil => rfl
  | cons a rest ih =>
    obtain ⟨ha, hrest⟩ := List.forall_mem_cons.1 h
    rw [List.map_cons, List.map_cons, List.mapM_cons, ha, ih hrest]
    rfl

end Decoder
end Tenancy
