/-
What becomes of addresses. A path of plain segments is taken as it stands, unless it is too long for any
address (`ofText_plain`, `ofText_tooLong`); and no two collections of kinds have one path, so the last slash of
an address tells the object from its collection (`ofKind_path_inj`, `slash_inj`).
-/
import Tenancy.Cluster.Address
import Mathlib.Data.List.TakeWhile
import Mathlib.Tactic

namespace Tenancy.Cluster

open Object (Kind)

/-! ## Segments -/

/-- A text that can stand in an address as one segment, and stands there as it is. -/
def PathSafe (s : String) : Prop := s ≠ "" ∧ ∀ c ∈ s.toList, Target.isPathChar c = true ∧ c ≠ '/'

instance (s : String) : Decidable (PathSafe s) := @instDecidableAnd _ _ _ (List.decidableBAll _ s.toList)

theorem PathSafe.slash_not_mem {s : String} (h : PathSafe s) : '/' ∉ s.toList := fun hm => (h.2 _ hm).2 rfl

/-- A text that stands in an address as it is, slashes included. -/
def Plain (s : String) : Prop := ∀ c ∈ s.toList, Target.isPathChar c = true

instance (s : String) : Decidable (Plain s) := List.decidableBAll _ s.toList

theorem PathSafe.plain {s : String} (h : PathSafe s) : Plain s := fun c hc => (h.2 c hc).1

theorem Plain.append {s s' : String} (h : Plain s) (h' : Plain s') : Plain (s ++ s') := by
  intro c hc
  rw [String.toList_append] at hc
  rcases List.mem_append.1 hc with hc | hc
  · exact h c hc
  · exact h' c hc

/-- What stands behind the last slash of a text. -/
def lastSegment (s : String) : String := String.ofList (s.toList.reverse.takeWhile (· ≠ '/')).reverse

theorem lastSegment_append {a s : String} (hs : '/' ∉ s.toList) : lastSegment (a ++ "/" ++ s) = s := by
  have hall : ∀ c ∈ s.toList.reverse, decide (c ≠ '/') = true := by
    intro c hc
    rw [decide_eq_true_eq]
    rintro rfl
    exact hs (List.mem_reverse.1 hc)
  rw [lastSegment, String.toList_append, String.toList_append, List.reverse_append, List.reverse_append,
    List.takeWhile_append_of_pos hall]
  simp

/-- What stands behind the last slash, and before it, is fixed by the text. -/
theorem slash_inj {a a' s s' : String} (hs : '/' ∉ s.toList) (hs' : '/' ∉ s'.toList)
    (h : a ++ "/" ++ s = a' ++ "/" ++ s') : a = a' ∧ s = s' := by
  obtain rfl : s' = s := by rw [← lastSegment_append (a := a) hs, h, lastSegment_append hs']
  rw [String.append_left_inj, String.append_left_inj] at h
  exact ⟨h, rfl⟩

/-- Two addresses of objects are the same if the collections and the names are. -/
theorem address_eq_iff {path path' name name' : String} (h : PathSafe name) (h' : PathSafe name') :
    path ++ "/" ++ name = path' ++ "/" ++ name' ↔ path = path' ∧ name = name' := by
  constructor
  · exact slash_inj h.slash_not_mem h'.slash_not_mem
  · rintro ⟨rfl, rfl⟩
    rfl

/-! ## Targets -/

namespace Target

theorem ne_of_isPathChar {c : Char} (h : isPathChar c = true) : c ≠ '#' ∧ c ≠ '?' := by
  constructor <;> rintro rfl <;> exact absurd h (by decide)

theorem ofText_tooLong {s : String} (h : maxSize < s.utf8ByteSize) : ofText s = .error .tooLong := if_pos h

/-- A text that can stand behind the question mark as it is. -/
def PlainQuery (s : String) : Prop := ∀ c ∈ s.toList, isQueryChar c = true

instance (s : String) : Decidable (PlainQuery s) := List.decidableBAll _ s.toList

/-- A plain path and a plain query are a target as they stand, empty parameters apart. -/
theorem ofText_query {s query : String} (h : Plain s) (hquery : PlainQuery query)
    (hsize : (s ++ "?" ++ query).utf8ByteSize ≤ maxSize) :
    ofText (s ++ "?" ++ query) = .ok ⟨s, String.ofList (dropEmptyParameters query.toList)⟩ := by
  have mark : ∀ c ∈ s.toList, decide (c ≠ '?') = true := fun c hc => decide_eq_true (ne_of_isPathChar (h c hc)).2
  -- neither part has a number sign
  have hash : ∀ c ∈ s.toList ++ '?' :: query.toList, decide (c ≠ '#') = true := by
    intro c hc
    rw [decide_eq_true_eq]
    rcases List.mem_append.1 hc with hc | hc
    · exact (ne_of_isPathChar (h c hc)).1
    · rcases List.mem_cons.1 hc with rfl | hc
      · decide
      · rintro rfl
        exact absurd (hquery _ hc) (by decide)
  have hused : (s ++ "?" ++ query).toList.takeWhile (· ≠ '#') = s.toList ++ '?' :: query.toList := by
    rw [String.toList_append, String.toList_append, List.append_assoc]
    exact List.takeWhile_eq_self_iff.2 hash
  have hpath : (s.toList ++ '?' :: query.toList).takeWhile (· ≠ '?') = s.toList := by
    rw [List.takeWhile_append_of_pos mark]
    exact List.append_nil _
  have hrest : (s.toList ++ '?' :: query.toList).dropWhile (· ≠ '?') = '?' :: query.toList :=
    List.dropWhile_append_of_pos mark
  have hall : s.toList.all isPathChar = true := List.all_eq_true.2 h
  have hqueries : query.toList.all isQueryChar = true := List.all_eq_true.2 hquery
  unfold ofText
  rw [if_neg (Nat.not_lt.2 hsize)]
  simp only [hused, hpath, hrest, List.drop_one, List.tail_cons, hall, hqueries, Bool.and_self, if_true,
    String.ofList_toList]

/-- A plain path is a target as it stands, and an empty query adds nothing to it. -/
theorem ofText_plain {s query : String} (h : Plain s) (hquery : query = "" ∨ query = "?")
    (hsize : (s ++ query).utf8ByteSize ≤ maxSize) : ofText (s ++ query) = .ok ⟨s, ""⟩ := by
  rcases hquery with rfl | rfl
  · have hash : s.toList.takeWhile (· ≠ '#') = s.toList :=
      List.takeWhile_eq_self_iff.2 fun c hc => decide_eq_true (ne_of_isPathChar (h c hc)).1
    have hpath : s.toList.takeWhile (· ≠ '?') = s.toList :=
      List.takeWhile_eq_self_iff.2 fun c hc => decide_eq_true (ne_of_isPathChar (h c hc)).2
    have hrest : s.toList.dropWhile (· ≠ '?') = [] :=
      List.dropWhile_eq_nil_iff.2 fun c hc => decide_eq_true (ne_of_isPathChar (h c hc)).2
    have hall : s.toList.all isPathChar = true := List.all_eq_true.2 h
    rw [String.append_empty] at hsize ⊢
    unfold ofText
    rw [if_neg (Nat.not_lt.2 hsize)]
    simp only [hash, hpath, hrest, hall, List.drop_nil, List.all_nil, Bool.and_self, if_true, String.ofList_toList]
    rfl
  · rw [← String.append_empty (s := s ++ "?")] at hsize ⊢
    exact ofText_query h (List.forall_mem_nil _) hsize

/-- What a target starts with stays, if it is plain. -/
theorem ofText_append {s rest : String} {target : Target} (h : Plain s) (ht : ofText (s ++ rest) = .ok target) :
    ∃ path, target.path = s ++ path := by
  have hash : ∀ c ∈ s.toList, decide (c ≠ '#') = true := fun c hc => decide_eq_true (ne_of_isPathChar (h c hc)).1
  have mark : ∀ c ∈ s.toList, decide (c ≠ '?') = true := fun c hc => decide_eq_true (ne_of_isPathChar (h c hc)).2
  unfold ofText at ht
  split at ht
  · cases ht
  · rw [String.toList_append, List.takeWhile_append_of_pos hash] at ht
    dsimp only at ht
    rw [List.takeWhile_append_of_pos mark] at ht
    split at ht
    · obtain ⟨⟩ := ht
      exact ⟨_, by rw [String.ofList_append, String.ofList_toList]⟩
    · cases ht

end Target

/-! ## Collections of kinds -/

namespace Collection

/-- Everything before the last slash of the path of a collection. -/
def base (c : Collection) : String :=
  root c.apiVersion ++ c.apiVersion ++ c.ns.elim "" ("/namespaces/" ++ ·)

theorem path_eq (c : Collection) : c.path = c.base ++ "/" ++ c.plural := by
  obtain ⟨v, plural, ns⟩ := c
  cases ns with
  | none => simp [path, base, String.append_assoc]
  | some ns => simp [path, base, String.append_assoc]

theorem plural_slash (kind : Kind) : '/' ∉ kind.plural.toList := by cases kind <;> decide

theorem plural_inj {kind kind' : Kind} (h : kind.plural = kind'.plural) : kind = kind' := by
  cases kind <;> cases kind' <;> first | rfl | exact absurd h (by decide)

/-- Kinds and namespaces can be told from the path of their collection. -/
theorem ofKind_path_inj {kind kind' : Kind} {ns ns' : Option String} (hns : ns.isSome = kind.namespaced)
    (hns' : ns'.isSome = kind'.namespaced) (h : (ofKind kind ns).path = (ofKind kind' ns').path) :
    kind = kind' ∧ ns = ns' := by
  rw [path_eq, path_eq] at h
  obtain ⟨hbase, hplural⟩ := slash_inj (plural_slash kind) (plural_slash kind') h
  obtain rfl := plural_inj hplural
  refine ⟨rfl, ?_⟩
  cases ns with
  | none =>
    cases ns' with
    | none => rfl
    | some ns' => cases hns.trans hns'.symm
  | some ns =>
    cases ns' with
    | none => cases hns.trans hns'.symm
    | some ns' =>
      -- the roots are the same, so the namespaces are
      simpa [base, ofKind] using hbase

/-- The path of a collection of a kind is plain if its namespace is. -/
theorem plain_path (kind : Kind) {ns : Option String} (h : ∀ n ∈ ns, Plain n) : Plain (ofKind kind ns).path := by
  have hroot : Plain (root kind.apiVersion ++ kind.apiVersion) := by cases kind <;> decide
  have hplural : Plain kind.plural := by cases kind <;> decide
  rw [path_eq]
  refine (Plain.append (hroot.append ?_) (by decide)).append hplural
  cases ns with
  | none => exact List.forall_mem_nil _
  | some n => exact Plain.append (by decide) (h n rfl)

end Collection

end Tenancy.Cluster
