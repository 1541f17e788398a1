import ProxyNode.Proofs.Traffic.Amount
import ProxyNode.Traffic.Accumulator

/-!
# Traffic — Canonical, one snapshot for what was counted

A snapshot is a normal form: what it shows is the traffic in the map that it was taken of, in one
order, whatever came to the map in what order.  The body that is posted holds the same, for its keys
are decimal texts that denote the users' numbers.

* `ascending`: without repeated users the order is strict.
* `eq_of_mem_iff`: without repeated users a snapshot is known by its entries.
* `mem_ofMap`: the entries of a map's snapshot.
* `eq_of_get?_payload`: a snapshot is known by its body.
* `canonical_ofMap`: all of it, for any map.
-/

namespace ProxyNode.Snapshot

variable {s t : Snapshot} {m : OrderedMap Int Amount}

theorem ascending (h : s.Distinct) : s.entries.Pairwise fun a b => a.id < b.id := by
  have hne : s.entries.Pairwise fun a b => a.id ≠ b.id := List.pairwise_map.mp h
  exact s.sorted.imp₂ (fun _ _ hle hne => lt_of_le_of_ne hle hne) hne

/-- Entries in a strict order are known by who is among them. -/
theorem eq_of_mem_iff (hs : s.Distinct) (ht : t.Distinct)
    (h : ∀ e, e ∈ s.entries ↔ e ∈ t.entries) : s = t := by
  -- The same members are the same entries in some order, and there is but one strict order.
  have hp : s.entries.Perm t.entries :=
    (List.perm_ext_iff_of_nodup hs.of_map ht.of_map).mpr h
  refine ext (hp.eq_of_pairwise (fun a b _ _ hab hba => ?_) (ascending hs) (ascending ht))
  exact absurd hba (lt_asymm hab)

theorem mem_ofMap {id : Int} {a : Amount} :
    (⟨id, a⟩ : Entry) ∈ (ofMap m).entries ↔ m.get? id = some a ∧ a ≠ 0 := by
  rw [ofMap, mem_ofEntries, OrderedMap.get?_eq_some_iff, ← Bool.not_eq_true, Amount.isZero_iff]
  refine and_congr_left fun _ => ?_
  constructor
  · intro h
    obtain ⟨b, hb, he⟩ := List.mem_map.mp h
    cases he
    exact hb
  · exact fun h => List.mem_map.mpr ⟨(id, a), h, rfl⟩

/-- Two maps have one snapshot just if they have the same traffic. -/
theorem ofMap_eq_iff {m' : OrderedMap Int Amount} :
    ofMap m = ofMap m' ↔ ∀ id a, a ≠ 0 → (m.get? id = some a ↔ m'.get? id = some a) := by
  constructor
  · intro h id a ha
    have hmem : (⟨id, a⟩ : Entry) ∈ (ofMap m).entries ↔ _ := mem_ofMap
    rw [h, mem_ofMap] at hmem
    exact (and_congr_left_iff.mp hmem ha).symm
  · intro h
    refine eq_of_mem_iff (distinct_ofMap m) (distinct_ofMap m') fun ⟨id, a⟩ => ?_
    rw [mem_ofMap, mem_ofMap]
    exact and_congr_left (h id a)

theorem mem_entries_iff_get?_payload (h : s.Distinct) {id : Int} {a : Amount} :
    (⟨id, a⟩ : Entry) ∈ s.entries ↔ s.payload.get? (toString id) = some a := by
  rw [OrderedMap.get?_eq_some_iff, entries_payload h, List.mem_map]
  constructor
  · exact fun he => ⟨_, he, rfl⟩
  · rintro ⟨e, he, hb⟩
    obtain ⟨hid, rfl⟩ := Prod.mk.inj hb
    obtain rfl := Numeral.toString_injective hid
    exact he

/-- A snapshot is known by its body. -/
theorem eq_of_get?_payload (hs : s.Distinct) (ht : t.Distinct)
    (h : ∀ key, s.payload.get? key = t.payload.get? key) : s = t := by
  refine eq_of_mem_iff hs ht fun ⟨id, a⟩ => ?_
  rw [mem_entries_iff_get?_payload hs, mem_entries_iff_get?_payload ht, h]

theorem isPostable_iff :
    s.isPostable = true ↔ ∀ e ∈ s.entries, Numeral.read (toString e.id) = .ok e.id := by
  rw [isPostable, List.all_eq_true]
  exact forall₂_congr fun e _ => Numeral.read_toString_iff.symm

/-- How a snapshot is told by the body with which it is posted. -/
structure Faithful (s : Snapshot) : Prop where
  /-- The body has one key for each entry, in the order of the entries. -/
  size : s.payload.size = s.size
  /-- The numbers that the keys denote, with what stands under them, are the entries. -/
  denoted : s.payload.entries.map (fun b => (Numeral.denoted b.1, b.2))
    = s.entries.map fun e => (some e.id, e.amount)
  /-- A key that is read is read as the number of the user whose entry stands under it. -/
  read : ∀ key a id, s.payload.get? key = some a → Numeral.read key = .ok id →
    (⟨id, a⟩ : Entry) ∈ s.entries
  /-- What a user used stands under the user's number and was not overwritten. -/
  kept : ∀ e ∈ s.entries, s.payload.get? (toString e.id) = some e.amount
  /-- A snapshot is posted just if all numbers of users are short enough to be read. -/
  posted : s.isPostable = true ↔ ∀ e ∈ s.entries, Numeral.read (toString e.id) = .ok e.id

theorem faithful (h : s.Distinct) : Faithful s where
  size := by rw [OrderedMap.size, entries_payload h, List.length_map, Snapshot.size]
  denoted := by
    rw [entries_payload h, List.map_map]
    exact List.map_congr_left fun e _ => Prod.ext (Numeral.denoted_toString e.id) rfl
  read key a id hget hread := by
    rw [OrderedMap.get?_eq_some_iff, entries_payload h] at hget
    obtain ⟨e, he, hb⟩ := List.mem_map.mp hget
    obtain ⟨rfl, rfl⟩ := Prod.mk.inj hb
    have hid := (Numeral.denoted_of_read hread).symm.trans (Numeral.denoted_toString e.id)
    cases hid
    exact he
  kept _ := (mem_entries_iff_get?_payload h).mp
  posted := isPostable_iff

/-- A map's snapshot as the one form of what the map has counted. -/
structure Canonical (m : OrderedMap Int Amount) : Prop where
  /-- The users ascend, nobody twice. -/
  ascending : (ofMap m).entries.Pairwise fun a b => a.id < b.id
  /-- The entries are the map's, but those without traffic. -/
  exact : ∀ id a, (⟨id, a⟩ : Entry) ∈ (ofMap m).entries ↔ m.get? id = some a ∧ a ≠ 0
  /-- It does not matter who came to the map first. -/
  order : ∀ m', m'.entries.Perm m.entries → ofMap m' = ofMap m
  /-- Other maps have this snapshot just if they have the same traffic. -/
  unique : ∀ m', ofMap m' = ofMap m
    ↔ ∀ id a, a ≠ 0 → (m'.get? id = some a ↔ m.get? id = some a)
  /-- The entries can be read off the body. -/
  faithful : Faithful (ofMap m)
  /-- No other snapshot of a map has this body. -/
  apart : ∀ m', (∀ key, (ofMap m').payload.get? key = (ofMap m).payload.get? key) →
    ofMap m' = ofMap m
  /-- What is drained is such a snapshot, so no two that differ are posted with one body. -/
  drained : ∀ a : Accumulator, ∃ m', a.drain.1 = ofMap m'

/-- The snapshot of a map is canonical, whatever the map is. -/
theorem canonical_ofMap (m : OrderedMap Int Amount) : Canonical m where
  ascending := ascending (distinct_ofMap m)
  exact _ _ := mem_ofMap
  order m' hp := by
    refine ofMap_eq_iff.mpr fun id a _ => ?_
    rw [OrderedMap.get?_eq_some_iff, OrderedMap.get?_eq_some_iff]
    exact hp.mem_iff
  unique _ := ofMap_eq_iff
  faithful := faithful (distinct_ofMap m)
  apart m' := eq_of_get?_payload (distinct_ofMap m') (distinct_ofMap m)
  -- What is drained is the snapshot of what the shards were merged into.
  drained _ := ⟨_, rfl⟩

example : (ofMap (.ofList [(10, ⟨1, 0⟩), (-9, ⟨0, 2⟩), (5, ⟨0, 0⟩)])).payload.entries
    = [("-9", ⟨0, 2⟩), ("10", ⟨1, 0⟩)] := by
  decide

end ProxyNode.Snapshot
