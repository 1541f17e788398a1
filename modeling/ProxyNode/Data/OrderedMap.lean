/-!
# Data — OrderedMap

A finite map that remembers in which order its keys arrived.  Binding a new key puts it last,
binding a known key keeps its place, and a key that was erased and bound again arrives anew.

* `get?_insert`, `get?_erase`: reading after a write.
* `keys_insert`: what a write does to the order of the keys.
* `get?_eq_some_iff`: the view by membership, since no key occurs twice.
-/

namespace ProxyNode

/-- A finite map as its bindings in order of arrival, no key twice. -/
structure OrderedMap (κ α : Type) where
  entries : List (κ × α)
  nodup : (entries.map Prod.fst).Nodup

namespace OrderedMap

variable {κ α : Type}

@[ext] theorem ext {m m' : OrderedMap κ α} (h : m.entries = m'.entries) : m = m' := by
  cases m; cases m'; cases h; rfl

instance [DecidableEq κ] [DecidableEq α] : DecidableEq (OrderedMap κ α) := fun m m' =>
  if h : m.entries = m'.entries then isTrue (ext h) else isFalse fun e => h (e ▸ rfl)

instance [Repr κ] [Repr α] : Repr (OrderedMap κ α) := ⟨fun m => reprPrec m.entries⟩

/-- The map without bindings. -/
def empty : OrderedMap κ α := ⟨[], List.nodup_nil⟩

instance : Inhabited (OrderedMap κ α) := ⟨empty⟩

def keys (m : OrderedMap κ α) : List κ := m.entries.map Prod.fst

def values (m : OrderedMap κ α) : List α := m.entries.map Prod.snd

def size (m : OrderedMap κ α) : Nat := m.entries.length

def isEmpty (m : OrderedMap κ α) : Bool := m.entries.isEmpty

theorem nodup_filter {p : κ × α → Bool} {l : List (κ × α)} (h : (l.map Prod.fst).Nodup) :
    ((l.filter p).map Prod.fst).Nodup :=
  h.sublist (List.filter_sublist.map Prod.fst)

section Lists

variable [DecidableEq κ]

/-- The value bound to `k` in a list of bindings. -/
def find (k : κ) : List (κ × α) → Option α
  | [] => none
  | (k', v) :: rest => if k' = k then some v else find k rest

/-- `k` bound to `v` in place if `k` is bound, else at the end. -/
def put (k : κ) (v : α) : List (κ × α) → List (κ × α)
  | [] => [(k, v)]
  | (k', v') :: rest => if k' = k then (k, v) :: rest else (k', v') :: put k v rest

theorem map_fst_put (k : κ) (v : α) (l : List (κ × α)) :
    (put k v l).map Prod.fst
      = if k ∈ l.map Prod.fst then l.map Prod.fst else l.map Prod.fst ++ [k] := by
  induction l with
  | nil => simp [put]
  | cons b rest ih =>
    obtain ⟨k', v'⟩ := b
    by_cases h : k' = k
    · simp [put, h]
    · have h' : k ≠ k' := fun e => h e.symm
      by_cases hk : k ∈ rest.map Prod.fst <;> simp_all [put]

theorem nodup_put {k : κ} {v : α} {l : List (κ × α)} (h : (l.map Prod.fst).Nodup) :
    ((put k v l).map Prod.fst).Nodup := by
  rw [map_fst_put]
  by_cases hk : k ∈ l.map Prod.fst
  · simpa [hk] using h
  · rw [if_neg hk, List.nodup_append]
    refine ⟨h, by simp, ?_⟩
    rintro a ha b hb rfl
    exact hk (List.mem_singleton.mp hb ▸ ha)

end Lists

variable [DecidableEq κ]

def get? (m : OrderedMap κ α) (k : κ) : Option α := find k m.entries

def contains (m : OrderedMap κ α) (k : κ) : Bool := (m.get? k).isSome

/-- Binds `k` to `v`, in the place `k` had or else last. -/
def insert (m : OrderedMap κ α) (k : κ) (v : α) : OrderedMap κ α :=
  ⟨put k v m.entries, nodup_put m.nodup⟩

/-- The map without a binding of `k`. -/
def erase (m : OrderedMap κ α) (k : κ) : OrderedMap κ α :=
  ⟨m.entries.filter fun b => !decide (b.1 = k), nodup_filter m.nodup⟩

/-- The bindings of a list written one after the other, so that the last of a key wins. -/
def ofList (l : List (κ × α)) : OrderedMap κ α :=
  l.foldl (fun m b => m.insert b.1 b.2) empty

/-- Writes all bindings of `m'` over those of `m`. -/
def union (m m' : OrderedMap κ α) : OrderedMap κ α :=
  m'.entries.foldl (fun m b => m.insert b.1 b.2) m

theorem find_put (k j : κ) (v : α) (l : List (κ × α)) :
    find j (put k v l) = if j = k then some v else find j l := by
  induction l with
  | nil => simp [put, find, eq_comm]
  | cons b rest ih =>
    obtain ⟨k', v'⟩ := b
    by_cases hk : k' = k
    · subst hk
      by_cases hj : j = k'
      · simp [put, find, hj]
      · simp [put, find, hj, Ne.symm hj]
    · by_cases hj : k' = j
      · subst hj; simp [put, find, hk]
      · simp [put, find, hk, hj, ih]

theorem find_filter_ne (k j : κ) (l : List (κ × α)) :
    find j (l.filter fun b => !decide (b.1 = k)) = if j = k then none else find j l := by
  induction l with
  | nil => simp [find]
  | cons b rest ih =>
    obtain ⟨k', v'⟩ := b
    by_cases hk : k' = k
    · subst hk
      by_cases hj : j = k'
      · subst hj; simpa [List.filter_cons] using ih
      · have hj' : ¬ k' = j := fun e => hj e.symm
        simpa [List.filter_cons, find, hj, hj'] using ih
    · by_cases hj : k' = j
      · subst hj; simp [find, hk]
      · simpa [List.filter_cons, find, hk, hj] using ih

@[simp] theorem get?_empty (k : κ) : (empty : OrderedMap κ α).get? k = none := rfl

@[simp] theorem get?_insert (m : OrderedMap κ α) (k j : κ) (v : α) :
    (m.insert k v).get? j = if j = k then some v else m.get? j :=
  find_put k j v m.entries

@[simp] theorem get?_erase (m : OrderedMap κ α) (k j : κ) :
    (m.erase k).get? j = if j = k then none else m.get? j :=
  find_filter_ne k j m.entries

/-- A write keeps the order of the keys and adds a new key at the end. -/
theorem keys_insert (m : OrderedMap κ α) (k : κ) (v : α) :
    (m.insert k v).keys = if k ∈ m.keys then m.keys else m.keys ++ [k] :=
  map_fst_put k v m.entries

theorem find_eq_some_iff {k : κ} {v : α} {l : List (κ × α)} (h : (l.map Prod.fst).Nodup) :
    find k l = some v ↔ (k, v) ∈ l := by
  induction l with
  | nil => simp [find]
  | cons b rest ih =>
    obtain ⟨k', v'⟩ := b
    rw [List.map_cons, List.nodup_cons] at h
    by_cases hk : k' = k
    · subst hk
      have hn : (k', v) ∉ rest := fun hm => h.1 (List.mem_map.mpr ⟨_, hm, rfl⟩)
      simp [find, hn, eq_comm]
    · have hk' : ¬ k = k' := fun e => hk e.symm
      simp [find, hk, hk', ih h.2]

theorem get?_eq_some_iff {m : OrderedMap κ α} {k : κ} {v : α} :
    m.get? k = some v ↔ (k, v) ∈ m.entries :=
  find_eq_some_iff m.nodup

/-- Of a key that is not bound there is nothing to erase. -/
theorem erase_of_get?_eq_none {m : OrderedMap κ α} {k : κ} (h : m.get? k = none) :
    m.erase k = m := by
  refine ext (List.filter_eq_self.mpr fun b hb => ?_)
  have hne : b.1 ≠ k := by
    rintro rfl
    rw [get?_eq_some_iff.mpr hb] at h
    cases h
  simpa using hne

theorem mem_keys_iff {m : OrderedMap κ α} {k : κ} : k ∈ m.keys ↔ ∃ v, m.get? k = some v := by
  constructor
  · intro h
    obtain ⟨⟨k', v⟩, hm, rfl⟩ := List.mem_map.mp h
    exact ⟨v, get?_eq_some_iff.mpr hm⟩
  · rintro ⟨v, hv⟩
    exact List.mem_map.mpr ⟨(k, v), get?_eq_some_iff.mp hv, rfl⟩

end OrderedMap

end ProxyNode
