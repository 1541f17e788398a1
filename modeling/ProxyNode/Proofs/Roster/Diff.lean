import Mathlib.Data.List.Nodup
import ProxyNode.Proofs.Roster.Keyed
import ProxyNode.Roster.Diff

/-!
# Roster — Diff, user by user

Who is removed and who is added, by the last entry of each user in the list.

* `get?_latest`: a list by number.
* `mem_remove_iff`, `mem_add_iff`: the two halves of a change.
* `nodup_remove`, `nodup_add`: nobody is removed or added twice.
* `isEmpty_between`: for users with the listed secrets nothing has to change.
* `get?_between`: the removals and then the additions make the users those that are wanted.
* `isEmpty_between_iff`: nothing has to change just if they are.
-/

namespace ProxyNode

theorem get?_latest (users : List User) (id : Int) : (latest users).get? id = lastOf users id := by
  rw [latest, get?_ofList_byId fun u => u]
  exact Option.map_id_apply

theorem ids_latest (users : List User) :
    (latest users).values.map User.id = (latest users).keys := by
  rw [OrderedMap.values, OrderedMap.keys, List.map_map]
  refine List.map_congr_left fun b hb => ?_
  have hl : (latest users).get? b.1 = some b.2 := OrderedMap.get?_eq_some_iff.mpr hb
  rw [get?_latest] at hl
  exact id_of_lastOf hl

theorem mem_latest_iff {users : List User} {u : User} :
    u ∈ (latest users).values ↔ lastOf users u.id = some u := by
  rw [OrderedMap.mem_values_iff]
  constructor
  · rintro ⟨id, h⟩
    rw [get?_latest] at h
    rwa [id_of_lastOf h]
  · intro h
    exact ⟨u.id, (get?_latest users u.id).trans h⟩

/-- Nobody stands in a map under two numbers. -/
theorem IsKeyed.nodup_ids {length : Nat} {m : OrderedMap Int User} (h : IsKeyed length m) :
    (m.values.map User.id).Nodup := by
  have hlatest : latest m.values = m := OrderedMap.ofList_values h.id_eq
  have hids := ids_latest m.values
  rw [hlatest] at hids
  rw [hids]
  exact m.nodup_keys

namespace Diff

variable {current : OrderedMap Int User} {listed : List User}

theorem isChanged_iff {u : User} :
    isChanged current u = true ↔ ∃ old, current.get? u.id = some old ∧ old.secret ≠ u.secret := by
  unfold isChanged
  cases current.get? u.id <;> simp

theorem isWanted_iff {u : User} :
    isWanted current u = true ↔ ∀ old, current.get? u.id = some old → old.secret ≠ u.secret := by
  unfold isWanted isChanged OrderedMap.contains
  cases current.get? u.id <;> simp

/-- Removed are the users that are not listed any longer or with another secret. -/
theorem mem_remove_iff {i : Int} :
    i ∈ (between current listed).remove
      ↔ ∃ old, current.get? i = some old
        ∧ ∀ u, lastOf listed i = some u → old.secret ≠ u.secret := by
  have hgone : i ∈ sortBy id (current.keys.filter fun i => !(latest listed).contains i)
      ↔ (∃ old, current.get? i = some old) ∧ lastOf listed i = none := by
    rw [(sortBy_perm id _).mem_iff, List.mem_filter, OrderedMap.mem_keys_iff, OrderedMap.contains,
      get?_latest]
    cases lastOf listed i <;> simp
  have hchanged : i ∈ ((latest listed).values.filter (isChanged current)).map User.id
      ↔ ∃ u, lastOf listed i = some u
        ∧ ∃ old, current.get? i = some old ∧ old.secret ≠ u.secret := by
    rw [List.mem_map]
    constructor
    · rintro ⟨u, hu, rfl⟩
      obtain ⟨hl, hc⟩ := List.mem_filter.mp hu
      exact ⟨u, mem_latest_iff.mp hl, isChanged_iff.mp hc⟩
    · rintro ⟨u, hu, hold⟩
      obtain rfl : u.id = i := id_of_lastOf hu
      exact ⟨u, List.mem_filter.mpr ⟨mem_latest_iff.mpr hu, isChanged_iff.mpr hold⟩, rfl⟩
  show i ∈ sortBy id _ ++ _ ↔ _
  rw [List.mem_append, hgone, hchanged]
  constructor
  · rintro (⟨⟨old, ho⟩, hl⟩ | ⟨u, hu, old, ho, hne⟩)
    · refine ⟨old, ho, fun u hu => ?_⟩
      rw [hl] at hu
      cases hu
    · refine ⟨old, ho, fun v hv => ?_⟩
      rw [hu] at hv
      cases hv
      exact hne
  · rintro ⟨old, ho, hne⟩
    cases hl : lastOf listed i with
    | none => exact .inl ⟨⟨old, ho⟩, rfl⟩
    | some u => exact .inr ⟨u, rfl, old, ho, hne u hl⟩

/-- Added are the last entries of users that are not there or with another secret. -/
theorem mem_add_iff {u : User} :
    u ∈ (between current listed).add
      ↔ lastOf listed u.id = some u
        ∧ ∀ old, current.get? u.id = some old → old.secret ≠ u.secret := by
  show u ∈ (latest listed).values.filter (isWanted current) ↔ _
  rw [List.mem_filter, mem_latest_iff, isWanted_iff]

/-- Nobody is removed twice. -/
theorem nodup_remove (current : OrderedMap Int User) (listed : List User) :
    (between current listed).remove.Nodup := by
  show (sortBy id _ ++ _).Nodup
  refine List.Nodup.append ?_ ?_ ?_
  · exact (sortBy_perm id _).nodup_iff.mpr (current.nodup_keys.filter _)
  · have hs := (List.filter_sublist (p := isChanged current) (l := (latest listed).values)).map
      User.id
    rw [ids_latest] at hs
    exact hs.nodup (OrderedMap.nodup_keys _)
  · intro i hi hj
    have hn := (List.mem_filter.mp ((sortBy_perm id _).mem_iff.mp hi)).2
    obtain ⟨u, hu, rfl⟩ := List.mem_map.mp hj
    have hl := mem_latest_iff.mp (List.mem_filter.mp hu).1
    rw [OrderedMap.contains, get?_latest, hl] at hn
    cases hn

/-- Nobody is added twice. -/
theorem nodup_add (current : OrderedMap Int User) (listed : List User) :
    ((between current listed).add.map User.id).Nodup := by
  have hs := (List.filter_sublist (p := isWanted current) (l := (latest listed).values)).map
    User.id
  rw [ids_latest] at hs
  exact hs.nodup (OrderedMap.nodup_keys _)

/-- For users with the listed secrets nothing has to change. -/
theorem isEmpty_between
    (h : ∀ i, (current.get? i).map User.secret = (lastOf listed i).map User.secret) :
    (between current listed).isEmpty = true := by
  rw [isEmpty_iff, List.eq_nil_iff_forall_not_mem, List.eq_nil_iff_forall_not_mem]
  constructor
  · intro i hi
    obtain ⟨old, ho, hne⟩ := mem_remove_iff.mp hi
    have hs := h i
    rw [ho, Option.map_some] at hs
    obtain ⟨u, hu, hsame⟩ := Option.map_eq_some_iff.mp hs.symm
    exact hne u hu hsame.symm
  · intro u hu
    obtain ⟨hl, hne⟩ := mem_add_iff.mp hu
    have hs := h u.id
    rw [hl, Option.map_some] at hs
    obtain ⟨old, ho, hsame⟩ := Option.map_eq_some_iff.mp hs
    exact hne old ho hsame

/-- A user that is added in the place of another is first removed. -/
theorem mem_remove_of_mem_add {u old : User} (hu : u ∈ (between current listed).add)
    (ho : current.get? u.id = some old) : u.id ∈ (between current listed).remove := by
  obtain ⟨hl, hne⟩ := mem_add_iff.mp hu
  refine mem_remove_iff.mpr ⟨old, ho, fun v hv => ?_⟩
  obtain rfl : u = v := Option.some.inj (hl.symm.trans hv)
  exact hne old ho

/-! ### A list that is keyed -/

section Keyed

variable {length : Nat} {wanted : OrderedMap Int User}

theorem lastOf_values (hw : IsKeyed length wanted) (i : Int) :
    lastOf wanted.values i = wanted.get? i := by
  rw [← get?_latest, latest, OrderedMap.ofList_values hw.id_eq]

theorem isKeyed_of_mem_add (hw : IsKeyed length wanted) {u : User}
    (hu : u ∈ (between current wanted.values).add) : u.IsKeyed length u.id :=
  hw u.id u ((lastOf_values hw u.id).symm.trans (mem_add_iff.mp hu).1)

/-- Users with one key length and one secret are one user. -/
theorem eq_of_isKeyed {i : Int} {u v : User} (hu : u.IsKeyed length i) (hv : v.IsKeyed length i)
    (hs : u.secret = v.secret) : u = v := by
  obtain ⟨uid, usecret, ukey⟩ := u
  obtain ⟨vid, vsecret, vkey⟩ := v
  obtain ⟨hid, -, hkey⟩ := hu
  obtain ⟨hid', -, hkey'⟩ := hv
  dsimp only at hid hid' hkey hkey' hs
  rw [hid, hid', hkey, hkey', hs]

/-- Who is not added is not wanted, or is there already. -/
theorem eq_of_find?_add (hc : IsKeyed length current) (hw : IsKeyed length wanted) {i : Int}
    (hf : (between current wanted.values).add.find? (fun u => u.id = i) = none) {u : User}
    (hu : wanted.get? i = some u) : current.get? i = some u := by
  obtain rfl := hw.id_eq i u hu
  have hn : u ∉ (between current wanted.values).add :=
    fun ha => List.find?_eq_none.mp hf u ha (decide_eq_true rfl)
  rw [mem_add_iff, lastOf_values hw] at hn
  by_contra hne
  refine hn ⟨hu, fun old ho hs => hne ?_⟩
  rw [ho, eq_of_isKeyed (hc u.id old ho) (hw u.id u hu) hs]

/-- The removals and then the additions make the users those that are wanted. -/
theorem get?_between (hc : IsKeyed length current) (hw : IsKeyed length wanted) (i : Int) :
    ((between current wanted.values).add.find? fun u => u.id = i).or
      (if i ∈ (between current wanted.values).remove then none else current.get? i)
      = wanted.get? i := by
  cases hf : (between current wanted.values).add.find? fun u => u.id = i with
  | some u =>
      have hid : u.id = i := by simpa using List.find?_some hf
      have hu := (mem_add_iff.mp (List.mem_of_find?_eq_some hf)).1
      rw [lastOf_values hw, hid] at hu
      exact hu.symm
  | none =>
      rw [Option.none_or]
      cases hu : wanted.get? i with
      | some u =>
          have ho := eq_of_find?_add hc hw hf hu
          have hr : i ∉ (between current wanted.values).remove := by
            rw [mem_remove_iff]
            rintro ⟨old, ho', hne⟩
            obtain rfl : u = old := Option.some.inj (ho.symm.trans ho')
            exact hne u ((lastOf_values hw i).trans hu) rfl
          rw [if_neg hr, ho]
      | none =>
          split
          · rfl
          · next hr =>
            cases ho : current.get? i with
            | none => rfl
            | some old =>
                refine absurd (mem_remove_iff.mpr ⟨old, ho, fun u hl => ?_⟩) hr
                rw [lastOf_values hw, hu] at hl
                cases hl

/-- Nothing has to change just if the users are as wanted. -/
theorem isEmpty_between_iff (hc : IsKeyed length current) (hw : IsKeyed length wanted) :
    (between current wanted.values).isEmpty = true ↔ ∀ i, current.get? i = wanted.get? i := by
  constructor
  · intro he i
    obtain ⟨hr, ha⟩ := isEmpty_iff.mp he
    rw [← get?_between hc hw i, hr, ha]
    rfl
  · intro h
    exact isEmpty_between fun i => by rw [h, lastOf_values hw]

end Keyed

end Diff

end ProxyNode
