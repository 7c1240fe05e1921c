/-
Looking for children and creating them over the network. What is kept by path and name is kept by kind,
namespace and name, so over a cluster that keeps what it is given every errand is answered as by a map
(`Errand.step`), and so is any sequence of them (`errands_refine`).
-/
import Tenancy.Proofs.Cluster.Store
import Tenancy.Proofs.Json.Reading

namespace Tenancy.Operator

open Cluster (Collection Target PathSafe Keeps IsOf)
open Http (Transport)
open Object (Child Key Kind)

variable {κ ρ σ : Type}

/-! ## Errands -/

/-- What is said of a child that has to have a namespace and has none. -/
def Remote.homeless (child : Child) : Error :=
  .internal (child.kind.label ++ " " ++ child.name ++ " has no namespace")

/-- Something to do about a child. -/
inductive Errand where
  | look (child : Child)
  | make (child : Child)

namespace Errand

@[reducible] def child : Errand → Child
  | .look child => child
  | .make child => child

@[reducible] def call : Errand → Call
  | .look child => .childExists child
  | .make child => .createChild child

/-- What is written into the request line. -/
def target : Errand → String
  | .look child => (Collection.ofKind child.kind child.ns).objectPath child.name
  | .make child => (Collection.ofKind child.kind child.ns).path ++ "?"

/-- Why nothing can be sent. -/
def hindrance? (e : Errand) : Option Error :=
  if e.child.kind.namespaced = true ∧ e.child.ns = none then
    some (Remote.homeless e.child)
  else if Target.maxSize < e.target.utf8ByteSize then some (.cluster (.malformed .tooLong))
  else none

end Errand

/-! ## The map -/

/-- Objects by kind, namespace and name. -/
abbrev Shelf := Key → Option Json

/-- Puts an object under a key; one that is there already stays. -/
def Shelf.add (shelf : Shelf) (key : Key) (object : Json) : Shelf :=
  fun k => if k = key then some ((shelf k).getD object) else shelf k

namespace Errand

def fail : (e : Errand) → Error → e.call.Answer
  | .look _, error => .error error
  | .make _, error => .error error

/-- What comes of an errand that is sent. -/
def settle : (e : Errand) → Shelf → e.call.Answer × Shelf
  | .look child, shelf => (.ok (shelf child.key).isSome, shelf)
  | .make child, shelf => (.ok (), shelf.add child.key child.toJson)

/-- How the map answers an errand, and what it holds then. -/
def answer (e : Errand) (shelf : Shelf) : e.call.Answer × Shelf :=
  match e.hindrance? with
  | some error => (e.fail error, shelf)
  | none => e.settle shelf

end Errand

/-- Errands one after the other, with their answers. -/
def errands (step : (e : Errand) → σ → e.call.Answer × σ) : List Errand → σ → Trace × σ
  | [], s => ([], s)
  | e :: es, s =>
    let (x, s') := step e s
    let (t, s'') := errands step es s'
    (⟨e.call, x⟩ :: t, s'')

/-- An errand over the network. -/
def Remote.errand (config : Config) (t : Transport κ) (runtimes : Transport ρ) (e : Errand) :
    Remote κ ρ → e.call.Answer × Remote κ ρ :=
  Remote.handle config t runtimes e.call

/-! ## Children in their place -/

/-- A key under which something can be stored: with a namespace exactly if the kind lives in namespaces. -/
structure Placed (key : Key) : Prop where
  name : PathSafe key.name
  ns : key.ns.isSome = key.kind.namespaced
  safe : ∀ n ∈ key.ns, PathSafe n

/-- A child whose document carries its name and is of its kind. -/
structure Sound (child : Child) : Prop where
  name : (child.toJson.get "metadata").get "name" = .str child.name
  kind : IsOf child.kind (Utf8.encode child.toJson.text)

/-- What is printed reads back, so a child is sound if its document can be decoded as it stands. -/
theorem Sound.of_fits {child : Child} (hname : ((child.toJson.get "metadata").get "name").str? = some child.name)
    (hfits : child.toJson.fits 127 = true) (hkind : (Child.decode child.kind (.ofJson child.toJson)).isSome = true) :
    Sound child := by
  refine ⟨?_, ?_⟩
  · unfold Json.str? at hname
    split at hname
    · next h => rw [h, Option.some.inj hname]
    · cases hname
  · rw [IsOf, Json.read?_text hfits, Option.bind_some]
    exact hkind

/-- An errand about a child in its place, or about one whose namespace is missing. -/
def Errand.Proper (e : Errand) : Prop :=
  (e.child.kind.namespaced = true ∧ e.child.ns = none) ∨
    (Placed e.child.key ∧ ∀ child, e = .make child → Sound child)

variable {key key' : Key}

theorem Placed.plain (h : Placed key) : Cluster.Plain (Collection.ofKind key.kind key.ns).path :=
  Collection.plain_path _ fun n hn => (h.safe n hn).plain

/-- Two keys that are stored in one place are the same. -/
theorem Placed.inj (h : Placed key) (h' : Placed key')
    (hpath : (Collection.ofKind key.kind key.ns).path = (Collection.ofKind key'.kind key'.ns).path)
    (hname : key.name = key'.name) : key = key' := by
  obtain ⟨kind, ns, name⟩ := key
  obtain ⟨kind', ns', name'⟩ := key'
  obtain ⟨rfl, rfl⟩ := Collection.ofKind_path_inj h.ns h'.ns hpath
  obtain rfl : name = name' := hname
  rfl

theorem Placed.collectionOf {child : Child} (h : Placed child.key) :
    Remote.collectionOf child = .ok (.ofKind child.kind child.ns) := by
  have hns : child.ns.isSome = child.kind.namespaced := h.ns
  unfold Remote.collectionOf
  cases hc : child.ns with
  | none =>
    rw [hc] at hns
    rw [← hns]
    rfl
  | some ns =>
    rw [hc] at hns
    rw [← hns]
    rfl

/-! ## What is held -/

/-- The cluster holds what is on the shelf, and everything on the shelf is of its kind. -/
structure Mirrors (held : String → String → Option Json) (shelf : Shelf) : Prop where
  held : ∀ key, Placed key → held (Collection.ofKind key.kind key.ns).path key.name = shelf key
  kind : ∀ key object, Placed key → shelf key = some object → IsOf key.kind (Utf8.encode object.text)

section

variable {held : String → String → Option Json} {held' : String → String → Option Json} {shelf : Shelf}

theorem Mirrors.same (h : Mirrors held shelf) (hsame : ∀ p n, PathSafe n → held' p n = held p n) :
    Mirrors held' shelf :=
  ⟨fun key hkey => (hsame _ _ hkey.name).trans (h.held key hkey), h.kind⟩

/-- What is put under a key comes into its place, and into no other. -/
theorem Mirrors.add {child : Child} (h : Mirrors held shelf) (hp : Placed child.key) (hs : Sound child)
    (hnew : ∀ p n, PathSafe n → held' p n =
      if p = (Collection.ofKind child.kind child.ns).path ∧ n = child.name then some ((held p n).getD child.toJson)
      else held p n) :
    Mirrors held' (shelf.add child.key child.toJson) := by
  refine ⟨fun key hkey => ?_, fun key object hkey ho => ?_⟩
  · rw [hnew _ _ hkey.name, h.held key hkey, Shelf.add]
    by_cases hk : key = child.key
    · subst hk
      rw [if_pos rfl]
      exact if_pos ⟨rfl, rfl⟩
    · rw [if_neg hk, if_neg fun hsame => hk (hkey.inj hp hsame.1 hsame.2)]
  · rw [Shelf.add] at ho
    split_ifs at ho with hk
    · subst hk
      cases hold : shelf child.key with
      | none =>
        rw [hold] at ho
        cases ho
        exact hs.kind
      | some old =>
        rw [hold] at ho
        cases ho
        exact h.kind _ _ hkey hold
    · exact h.kind key object hkey ho

end

/-! ## Exchanges about children -/

namespace Remote

variable {t : Transport κ} {k : κ} {child : Child} {held : κ → String → String → Option Json} {shelf : Shelf}

theorem collectionOf_homeless (hkind : child.kind.namespaced = true) (hns : child.ns = none) :
    collectionOf child = .error (homeless child) := by
  rw [collectionOf, if_pos hkind, hns]
  rfl

theorem childExists_homeless (hkind : child.kind.namespaced = true) (hns : child.ns = none) :
    (childExists child).perform t k = (.error (homeless child), k) := by
  rw [childExists, collectionOf_homeless hkind hns]
  rfl

theorem createChild_homeless (hkind : child.kind.namespaced = true) (hns : child.ns = none) :
    (createChild child).perform t k = (.error (homeless child), k) := by
  rw [createChild, collectionOf_homeless hkind hns]
  rfl

theorem childExists_placed (hp : Placed child.key) : childExists child =
    asked ((Cluster.get (.ofKind child.kind child.ns) child.name (Child.decode child.kind)).map Option.isSome) := by
  rw [childExists, hp.collectionOf]

theorem createChild_placed (hp : Placed child.key) : createChild child =
    asked (Cluster.createOnce (.ofKind child.kind child.ns) child.toJson (Child.decode child.kind)) := by
  rw [createChild, hp.collectionOf]

theorem childExists_tooLong (hp : Placed child.key)
    (hsize : Target.maxSize < ((Collection.ofKind child.kind child.ns).objectPath child.name).utf8ByteSize) :
    (childExists child).perform t k = (.error (.cluster (.malformed .tooLong)), k) := by
  have hname : child.name ≠ "" := hp.name.1
  rw [childExists_placed hp, asked, Http.Exchange.perform_mapError, Http.Exchange.perform_map,
    Http.Exchange.perform_error (Cluster.get_tooLong hname hsize)]
  rfl

theorem createChild_tooLong (hp : Placed child.key)
    (hsize : Target.maxSize < ((Collection.ofKind child.kind child.ns).path ++ "?").utf8ByteSize) :
    (createChild child).perform t k = (.error (.cluster (.malformed .tooLong)), k) := by
  rw [createChild_placed hp, asked, Http.Exchange.perform_mapError,
    Http.Exchange.perform_error (Cluster.create_tooLong hsize)]
  rfl

theorem childExists_same (hk : Keeps t held) (hp : Placed child.key)
    (hsize : ((Collection.ofKind child.kind child.ns).objectPath child.name).utf8ByteSize ≤ Target.maxSize) :
    ∀ p n, PathSafe n → held ((childExists child).perform t k).2 p n = held k p n := by
  have hname : PathSafe child.name := hp.name
  have hplain : Cluster.Plain (Collection.ofKind child.kind child.ns).path := hp.plain
  rw [childExists_placed hp, asked, Http.Exchange.perform_mapError, Http.Exchange.perform_map]
  exact hk.get_same hplain hname hsize _

/-- Looking for a child finds it if it is on the shelf, and changes nothing. -/
theorem childExists_kept (hk : Keeps t held) (hm : Mirrors (held k) shelf) (hp : Placed child.key)
    (hsize : ((Collection.ofKind child.kind child.ns).objectPath child.name).utf8ByteSize ≤ Target.maxSize) :
    ((childExists child).perform t k).1 = .ok (shelf child.key).isSome ∧
      Mirrors (held ((childExists child).perform t k).2) shelf := by
  refine ⟨?_, hm.same (childExists_same hk hp hsize)⟩
  have hname : PathSafe child.name := hp.name
  have hplain : Cluster.Plain (Collection.ofKind child.kind child.ns).path := hp.plain
  have hheld : held k (Collection.ofKind child.kind child.ns).path child.name = shelf child.key := hm.held child.key hp
  rw [childExists_placed hp, asked, Http.Exchange.perform_mapError, Http.Exchange.perform_map]
  cases hs : shelf child.key with
  | none =>
    rw [hs] at hheld
    rw [hk.get_missing hplain hname hsize _ hheld]
    rfl
  | some object =>
    rw [hs] at hheld
    have hkind : IsOf child.kind (Utf8.encode object.text) := hm.kind child.key object hp hs
    obtain ⟨found, hf⟩ := hk.get_found hplain hname hsize hheld hkind
    rw [hf]
    rfl

/-- Creating a child succeeds, and puts its document in its place unless there is one already. -/
theorem createChild_held (hk : Keeps t held) (hp : Placed child.key) (hs : Sound child)
    (hsize : ((Collection.ofKind child.kind child.ns).path ++ "?").utf8ByteSize ≤ Target.maxSize) :
    ((createChild child).perform t k).1 = .ok () ∧
      ∀ p n, PathSafe n → held ((createChild child).perform t k).2 p n =
        if p = (Collection.ofKind child.kind child.ns).path ∧ n = child.name then
          some ((held k p n).getD child.toJson) else held k p n := by
  have hname : PathSafe child.name := hp.name
  have hplain : Cluster.Plain (Collection.ofKind child.kind child.ns).path := hp.plain
  obtain ⟨hok, hnew⟩ := hk.create (k := k) hplain hname hsize hs.name hs.kind
  rw [createChild_placed hp, asked, Http.Exchange.perform_mapError]
  refine ⟨?_, hnew⟩
  rw [hok]
  rfl

/-- Creating a child succeeds, and puts it on the shelf unless there is one already. -/
theorem createChild_kept (hk : Keeps t held) (hm : Mirrors (held k) shelf) (hp : Placed child.key) (hs : Sound child)
    (hsize : ((Collection.ofKind child.kind child.ns).path ++ "?").utf8ByteSize ≤ Target.maxSize) :
    ((createChild child).perform t k).1 = .ok () ∧
      Mirrors (held ((createChild child).perform t k).2) (shelf.add child.key child.toJson) := by
  obtain ⟨hok, hnew⟩ := createChild_held (k := k) hk hp hs hsize
  exact ⟨hok, hm.add hp hs hnew⟩

end Remote

/-! ## One errand -/

section

variable (config : Config) {t : Transport κ} (runtimes : Transport ρ) {s : Remote κ ρ}
  {held : κ → String → String → Option Json} {shelf : Shelf} {e : Errand}

namespace Errand

/-- What is hindered fails at once, over whatever network, and nothing is sent. -/
theorem hindered {error : Error} (hp : e.Proper) (h : e.hindrance? = some error) :
    Remote.errand config t runtimes e s = (e.fail error, s) := by
  unfold hindrance? at h
  split_ifs at h with hhome hsize
  · cases h
    cases e with
    | look child =>
      show Remote.askCluster t (Remote.childExists child) s = _
      rw [Remote.askCluster, Remote.childExists_homeless hhome.1 hhome.2]
      rfl
    | make child =>
      show Remote.askCluster t (Remote.createChild child) s = _
      rw [Remote.askCluster, Remote.createChild_homeless hhome.1 hhome.2]
      rfl
  · cases h
    obtain ⟨hplaced, -⟩ := hp.resolve_left hhome
    cases e with
    | look child =>
      show Remote.askCluster t (Remote.childExists child) s = _
      rw [Remote.askCluster, Remote.childExists_tooLong hplaced hsize]
      rfl
    | make child =>
      show Remote.askCluster t (Remote.createChild child) s = _
      rw [Remote.askCluster, Remote.createChild_tooLong hplaced hsize]
      rfl

/-- Over a cluster that keeps, an errand is answered as by the map. -/
theorem step (hk : Keeps t held) (hm : Mirrors (held s.cluster) shelf) (hp : e.Proper) :
    (Remote.errand config t runtimes e s).1 = (e.answer shelf).1 ∧
      Mirrors (held (Remote.errand config t runtimes e s).2.cluster) (e.answer shelf).2 := by
  unfold answer
  cases h : e.hindrance? with
  | some error =>
    rw [hindered config runtimes hp h]
    exact ⟨rfl, hm⟩
  | none =>
    unfold hindrance? at h
    split_ifs at h with hhome hsize
    obtain ⟨hplaced, hsound⟩ := hp.resolve_left hhome
    cases e with
    | look child => exact Remote.childExists_kept hk hm hplaced (Nat.not_lt.1 hsize)
    | make child => exact Remote.createChild_kept hk hm hplaced (hsound child rfl) (Nat.not_lt.1 hsize)

end Errand

/-! ## Any number of errands -/

theorem errands_cons (step : (e : Errand) → σ → e.call.Answer × σ) (e : Errand) (es : List Errand) (x : σ) :
    errands step (e :: es) x = (⟨e.call, (step e x).1⟩ :: (errands step es (step e x).2).1,
      (errands step es (step e x).2).2) := rfl

variable {es : List Errand}

/-- One errand after the other, the cluster answers as the map and holds what the map holds. -/
theorem errands_mirror (hk : Keeps t held) (hm : Mirrors (held s.cluster) shelf) (hes : ∀ e ∈ es, e.Proper) :
    (errands (Remote.errand config t runtimes) es s).1 = (errands Errand.answer es shelf).1 ∧
      Mirrors (held (errands (Remote.errand config t runtimes) es s).2.cluster) (errands Errand.answer es shelf).2 := by
  induction es generalizing s shelf with
  | nil => exact ⟨rfl, hm⟩
  | cons e es ih =>
    obtain ⟨hanswer, hm'⟩ := Errand.step config runtimes hk hm (hes e (List.mem_cons_self ..))
    obtain ⟨htrace, hm''⟩ := ih hm' fun e' he => hes e' (List.mem_cons_of_mem _ he)
    rw [errands_cons, errands_cons, hanswer, htrace]
    exact ⟨rfl, hm''⟩

/-- What is on the shelf stays as it is. -/
theorem Errand.answer_keep {key : Key} {object : Json} (h : shelf key = some object) :
    (e.answer shelf).2 key = some object := by
  unfold answer
  cases e.hindrance? with
  | some error => exact h
  | none =>
    cases e with
    | look child => exact h
    | make child =>
      show Shelf.add shelf child.key child.toJson key = some object
      rw [Shelf.add, h]
      exact ite_self _

/-- What is on the shelf was there before, or has just been made. -/
theorem Errand.answer_isSome {key : Key} : ((e.answer shelf).2 key).isSome = true ↔ (shelf key).isSome = true ∨
    ∃ child, e = .make child ∧ child.key = key ∧ e.hindrance? = none := by
  unfold answer
  cases h : e.hindrance? with
  | some error => simp
  | none =>
    cases e with
    | look child => simp [settle]
    | make child =>
      show (Shelf.add shelf child.key child.toJson key).isSome = true ↔ _
      rw [Shelf.add]
      by_cases hk : key = child.key
      · simp [hk]
      · have hk' : child.key ≠ key := fun he => hk he.symm
        simp [hk, hk']

theorem errands_keep {key : Key} {object : Json} (h : shelf key = some object) :
    (errands Errand.answer es shelf).2 key = some object := by
  induction es generalizing shelf with
  | nil => exact h
  | cons e es ih =>
    rw [errands_cons]
    exact ih (Errand.answer_keep h)

theorem errands_isSome {key : Key} : ((errands Errand.answer es shelf).2 key).isSome = true ↔
    (shelf key).isSome = true ∨
      ∃ child, .make child ∈ es ∧ child.key = key ∧ (Errand.make child).hindrance? = none := by
  induction es generalizing shelf with
  | nil => simp [errands]
  | cons e es ih =>
    rw [errands_cons, ih, Errand.answer_isSome, or_assoc]
    refine or_congr_right ⟨?_, ?_⟩
    · rintro (⟨child, rfl, hkey, hn⟩ | ⟨child, hm, hkey, hn⟩)
      · exact ⟨child, List.mem_cons_self .., hkey, hn⟩
      · exact ⟨child, List.mem_cons_of_mem _ hm, hkey, hn⟩
    · rintro ⟨child, hm, hkey, hn⟩
      rcases List.mem_cons.1 hm with rfl | hm
      · exact .inl ⟨child, rfl, hkey, hn⟩
      · exact .inr ⟨child, hm, hkey, hn⟩

/-- Where a child can be looked for, one of its key can be made. -/
theorem Errand.make_of_look {made child : Child} (hkey : made.key = child.key)
    (h : (Errand.look child).hindrance? = none) : (Errand.make made).hindrance? = none := by
  obtain ⟨hkind, hns, -⟩ := Key.mk.inj hkey
  unfold hindrance? at h ⊢
  split_ifs at h with hhome hsize
  have hle : (Errand.make made).target.utf8ByteSize ≤ (Errand.look child).target.utf8ByteSize := by
    show ((Collection.ofKind made.kind made.ns).path ++ "?").utf8ByteSize ≤
      ((Collection.ofKind child.kind child.ns).path ++ "/" ++ child.name).utf8ByteSize
    rw [hkind, hns]
    simp only [String.utf8ByteSize_append]
    have hq : "?".utf8ByteSize = 1 := rfl
    have hs : "/".utf8ByteSize = 1 := rfl
    omega
  rw [if_neg, if_neg (by omega)]
  show ¬(made.kind.namespaced = true ∧ made.ns = none)
  rw [hkind, hns]
  exact hhome

/-- Over a cluster that keeps what it is given, any number of errands is answered as by a map with kind, namespace
and name as its key. A child is found exactly if its key was there or has been created before; creating one succeeds
and leaves what is stored as it is; and a child without the namespace that it has to have, like one with an address
that is too long, fails before anything is sent. -/
theorem errands_refine (hk : Keeps t held) (hm : Mirrors (held s.cluster) shelf) (hes : ∀ e ∈ es, e.Proper) :
    (errands (Remote.errand config t runtimes) es s).1 = (errands Errand.answer es shelf).1 ∧
    Mirrors (held (errands (Remote.errand config t runtimes) es s).2.cluster) (errands Errand.answer es shelf).2 ∧
    (∀ key object, shelf key = some object → (errands Errand.answer es shelf).2 key = some object) ∧
    (∀ before child after, es = before ++ .look child :: after → (Errand.look child).hindrance? = none →
      ∃ found, (Remote.errand config t runtimes (.look child)
          (errands (Remote.errand config t runtimes) before s).2).1 = .ok found ∧
        (found = true ↔ (shelf child.key).isSome = true ∨ ∃ made, .make made ∈ before ∧ made.key = child.key)) ∧
    ∀ e ∈ es, ∀ error, e.hindrance? = some error → ∀ (t' : Transport κ) (s' : Remote κ ρ),
      Remote.errand config t' runtimes e s' = (e.fail error, s') := by
  obtain ⟨htrace, hmirror⟩ := errands_mirror config runtimes hk hm hes
  refine ⟨htrace, hmirror, fun key object => errands_keep, ?_, fun e he error hh t' s' => ?_⟩
  case refine_2 => exact Errand.hindered config runtimes (hes e he) hh
  rintro before child after rfl hh
  have hbefore : ∀ e ∈ before, e.Proper := fun e he => hes e (List.mem_append_left _ he)
  have hlook : (Errand.look child).Proper := hes _ (List.mem_append_right _ (List.mem_cons_self ..))
  obtain ⟨-, hm'⟩ := errands_mirror config runtimes hk hm hbefore
  have hfound := (Errand.step config runtimes hk hm' hlook).1
  rw [Errand.answer, hh] at hfound
  refine ⟨_, hfound, errands_isSome.trans (or_congr_right ⟨?_, ?_⟩)⟩
  · rintro ⟨made, hmade, hkey, -⟩
    exact ⟨made, hmade, hkey⟩
  · rintro ⟨made, hmade, hkey⟩
    exact ⟨made, hmade, hkey, Errand.make_of_look hkey hh⟩

end

end Tenancy.Operator
