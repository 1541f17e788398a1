import Mathlib.Data.List.Induction
import ProxyNode.Data.OrderedMap

/-!
# Data — OrderedMap, as a function

What a map answers after its bulk operations.

* `entries_ofList`: a list in which no key occurs twice is the entries of its map.
* `get?_union`: of a key bound in both maps the second one's value counts.
* `erase_ofList`: a key is erased by leaving its bindings out from the beginning.
* `ofList_values`: a map whose values carry their keys is rebuilt from its values.
-/

namespace ProxyNode.OrderedMap

variable {κ α β : Type} [DecidableEq κ]

theorem get?_eq_none_iff {m : OrderedMap κ α} {k : κ} : m.get? k = none ↔ k ∉ m.keys := by
  rw [mem_keys_iff]
  cases m.get? k <;> simp

omit [DecidableEq κ] in
theorem nodup_keys (m : OrderedMap κ α) : m.keys.Nodup := m.nodup

theorem mem_values_iff {m : OrderedMap κ α} {v : α} :
    v ∈ m.values ↔ ∃ k, m.get? k = some v := by
  constructor
  · intro h
    obtain ⟨⟨k, v'⟩, hm, rfl⟩ := List.mem_map.mp h
    exact ⟨k, get?_eq_some_iff.mpr hm⟩
  · rintro ⟨k, hk⟩
    exact List.mem_map.mpr ⟨(k, v), get?_eq_some_iff.mp hk, rfl⟩

/-- A new key goes to the end. -/
theorem put_of_not_mem {k : κ} {v : α} {l : List (κ × α)} (h : k ∉ l.map Prod.fst) :
    put k v l = l ++ [(k, v)] := by
  induction l with
  | nil => rfl
  | cons b rest ih =>
      obtain ⟨k', v'⟩ := b
      simp only [List.map_cons, List.mem_cons, not_or] at h
      simp only [put, if_neg (Ne.symm h.1), ih h.2, List.cons_append]

/-- Bindings of new and distinct keys are put one behind the other. -/
theorem entries_foldl_insert {l : List (κ × α)} (h : (l.map Prod.fst).Nodup)
    (m : OrderedMap κ α) (hm : ∀ b ∈ l, b.1 ∉ m.keys) :
    (l.foldl (fun m b => m.insert b.1 b.2) m).entries = m.entries ++ l := by
  induction l generalizing m with
  | nil => simp
  | cons b rest ih =>
      rw [List.map_cons, List.nodup_cons] at h
      have hb : b.1 ∉ m.keys := hm b List.mem_cons_self
      have hput : (m.insert b.1 b.2).entries = m.entries ++ [b] := put_of_not_mem hb
      rw [List.foldl_cons, ih h.2, hput, List.append_assoc, List.singleton_append]
      intro c hc
      rw [keys_insert, if_neg hb, List.mem_append, List.mem_singleton, not_or]
      refine ⟨hm c (List.mem_cons_of_mem _ hc), fun e => h.1 ?_⟩
      exact e ▸ List.mem_map.mpr ⟨c, hc, rfl⟩

theorem entries_ofList {l : List (κ × α)} (h : (l.map Prod.fst).Nodup) :
    (ofList l).entries = l := by
  rw [ofList, entries_foldl_insert h empty fun _ _ => List.not_mem_nil]
  rfl

theorem get?_foldl_insert (l : List (κ × α)) (m : OrderedMap κ α) (k : κ) :
    (l.foldl (fun m b => m.insert b.1 b.2) m).get? k
      = ((l.reverse.find? fun b => b.1 = k).map Prod.snd).or (m.get? k) := by
  induction l generalizing m with
  | nil => simp
  | cons b rest ih =>
      rw [List.foldl_cons, ih, get?_insert, List.reverse_cons, List.find?_append]
      by_cases hb : b.1 = k
      · cases rest.reverse.find? fun b => b.1 = k <;> simp [hb]
      · simp [hb, Ne.symm hb]

theorem get?_foldl_erase (ks : List κ) (m : OrderedMap κ α) (k : κ) :
    (ks.foldl erase m).get? k = if k ∈ ks then none else m.get? k := by
  induction ks generalizing m with
  | nil => rfl
  | cons j rest ih =>
      rw [List.foldl_cons, ih, get?_erase]
      by_cases hk : k = j
      · simp [hk]
      · simp [hk]

/-- The last binding of a key counts. -/
theorem get?_ofList (l : List (κ × α)) (k : κ) :
    (ofList l).get? k = (l.reverse.find? fun b => b.1 = k).map Prod.snd := by
  rw [ofList, get?_foldl_insert, get?_empty, Option.or_none]

theorem get?_union (m m' : OrderedMap κ α) (k : κ) :
    (m.union m').get? k = (m'.get? k).or (m.get? k) := by
  have h : (ofList m'.entries).get? k = m'.get? k :=
    congrArg (find k) (entries_ofList m'.nodup)
  rw [union, get?_foldl_insert, ← get?_ofList, h]

theorem ofList_append_singleton (l : List (κ × α)) (b : κ × α) :
    ofList (l ++ [b]) = (ofList l).insert b.1 b.2 := by
  rw [ofList, List.foldl_append]
  rfl

theorem filter_put (k j : κ) (v : α) (l : List (κ × α)) :
    (put k v l).filter (fun b => !decide (b.1 = j))
      = if k = j then l.filter (fun b => !decide (b.1 = j))
        else put k v (l.filter fun b => !decide (b.1 = j)) := by
  induction l with
  | nil => by_cases hk : k = j <;> simp [put, hk]
  | cons b rest ih =>
      obtain ⟨k', v'⟩ := b
      by_cases hk' : k' = k
      · subst hk'
        by_cases hk : k' = j <;> simp [put, hk]
      · by_cases hj : k' = j
        · subst hj
          simpa [put, hk', Ne.symm hk'] using ih
        · by_cases hk : k = j
          · simpa [put, hk', hj, hk] using ih
          · simpa [put, hk', hj, hk] using ih

theorem erase_insert (m : OrderedMap κ α) (k j : κ) (v : α) :
    (m.insert k v).erase j = if k = j then m.erase j else (m.erase j).insert k v := by
  refine ext ((filter_put k j v m.entries).trans ?_)
  by_cases hk : k = j
  · rw [if_pos hk, if_pos hk]
    rfl
  · rw [if_neg hk, if_neg hk]
    rfl

/-- A key is erased by leaving its bindings out from the beginning. -/
theorem erase_ofList (l : List (κ × α)) (k : κ) :
    (ofList l).erase k = ofList (l.filter fun b => !decide (b.1 = k)) := by
  induction l using List.reverseRecOn with
  | nil => rfl
  | append_singleton rest b ih =>
      rw [ofList_append_singleton, erase_insert, ih, List.filter_append]
      by_cases hb : b.1 = k
      · rw [if_pos hb]
        simp [hb]
      · rw [if_neg hb, ← ofList_append_singleton]
        simp [hb]

/-- A map whose values carry their keys is rebuilt from its values. -/
theorem ofList_values {m : OrderedMap κ α} {key : α → κ}
    (h : ∀ k v, m.get? k = some v → key v = k) :
    ofList (m.values.map fun v => (key v, v)) = m := by
  have hl : m.values.map (fun v => (key v, v)) = m.entries := by
    rw [values, List.map_map]
    refine (List.map_congr_left fun b hb => ?_).trans (List.map_id m.entries)
    exact Prod.ext (h b.1 b.2 (get?_eq_some_iff.mpr hb)) rfl
  exact ext (by rw [hl, entries_ofList m.nodup])

/-- The same with another value in the place of each. -/
theorem get?_ofList_values {m : OrderedMap κ α} {key : α → κ} (f : α → β)
    (h : ∀ k v, m.get? k = some v → key v = k) (k : κ) :
    (ofList (m.values.map fun v => (key v, f v))).get? k = (m.get? k).map f := by
  have hl : m.values.map (fun v => (key v, f v)) = m.entries.map fun b => (b.1, f b.2) := by
    rw [values, List.map_map]
    refine List.map_congr_left fun b hb => ?_
    exact Prod.ext (h b.1 b.2 (get?_eq_some_iff.mpr hb)) rfl
  have hk : ((m.entries.map fun b => (b.1, f b.2)).map Prod.fst).Nodup := by
    rw [List.map_map]; exact m.nodup
  rw [hl]
  refine Option.ext fun w => ?_
  rw [get?_eq_some_iff, entries_ofList hk, Option.map_eq_some_iff]
  constructor
  · intro hw
    obtain ⟨⟨k', v⟩, hm, he⟩ := List.mem_map.mp hw
    cases he
    exact ⟨v, get?_eq_some_iff.mpr hm, rfl⟩
  · rintro ⟨v, hv, rfl⟩
    exact List.mem_map.mpr ⟨(k, v), get?_eq_some_iff.mp hv, rfl⟩

end ProxyNode.OrderedMap
