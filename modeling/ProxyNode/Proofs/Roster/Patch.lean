import ProxyNode.Proofs.Roster.Diff

/-!
# Roster — Patch, what a change comes to

A change is done by erasing whom it removes and then inserting whom it adds.

* `get?_patch`: the users after a change, one by one.
* `lastOf_add`: whom a change adds under a number.
* `Exact`: a change that names nobody without need or twice, and after which nothing is left to be
  changed.
* `exact_between`: the change from any users to any list is one.
-/

namespace ProxyNode

/-- In a list that names nobody twice the last entry of a user is the only one. -/
theorem lastOf_eq_some_iff {users : List User} (h : (users.map User.id).Nodup) {id : Int}
    {u : User} : lastOf users id = some u ↔ u ∈ users ∧ u.id = id := by
  constructor
  · intro hu
    exact ⟨List.mem_reverse.mp (List.mem_of_find?_eq_some hu), id_of_lastOf hu⟩
  · rintro ⟨hu, rfl⟩
    cases hl : lastOf users u.id with
    | none =>
        have hn := List.find?_eq_none.mp hl u (List.mem_reverse.mpr hu)
        exact absurd (decide_eq_true rfl) hn
    | some v =>
        have hv := List.mem_reverse.mp (List.mem_of_find?_eq_some hl)
        exact congrArg some (List.inj_on_of_nodup_map h hv hu (id_of_lastOf hl))

namespace Diff

/-- The users after a change. -/
def patch (d : Diff) (current : OrderedMap Int User) : OrderedMap Int User :=
  d.add.foldl (fun m u => m.insert u.id u) (d.remove.foldl OrderedMap.erase current)

theorem get?_patch (d : Diff) (current : OrderedMap Int User) (i : Int) :
    (d.patch current).get? i
      = (lastOf d.add i).or (if i ∈ d.remove then none else current.get? i) := by
  have hadd : d.patch current = (d.add.map fun u => (u.id, u)).foldl
      (fun m b => m.insert b.1 b.2) (d.remove.foldl OrderedMap.erase current) := by
    rw [List.foldl_map]
    rfl
  rw [hadd, OrderedMap.get?_foldl_insert, OrderedMap.get?_foldl_erase, ← List.map_reverse,
    List.find?_map, Option.map_map]
  exact congrArg (Option.or · _) Option.map_id_apply

variable {current : OrderedMap Int User} {listed : List User} {i : Int}

/-- Added under a number is the last entry of the user, unless it is there with that secret. -/
theorem lastOf_add {u : User} :
    lastOf (between current listed).add i = some u
      ↔ lastOf listed i = some u
        ∧ ∀ old, current.get? i = some old → old.secret ≠ u.secret := by
  rw [lastOf_eq_some_iff (nodup_add current listed), mem_add_iff]
  constructor
  · rintro ⟨hu, rfl⟩
    exact hu
  · intro hu
    obtain rfl := id_of_lastOf hu.1
    exact ⟨hu, rfl⟩

/-- What a user is to a change: its number and its secret. -/
def record (u : User) : Int × RawText := (u.id, u.secret)

/-- What is asked of a change `d` from some users to a list: it removes nobody twice and nobody who
is not there, it adds nobody twice and nobody who stays, and it names nobody who is there with the
secret of its last entry; after it, there are just the users of the list, with the secrets of their
last entries, and nothing has to change any more. -/
structure Exact (current : OrderedMap Int User) (listed : List User) (d : Diff) : Prop where
  nodupRemove : d.remove.Nodup
  present : ∀ i ∈ d.remove, i ∈ current.keys
  nodupAdd : (d.add.map User.id).Nodup
  absent : ∀ u ∈ d.add, u.id ∉ current.keys ∨ u.id ∈ d.remove
  minimal : ∀ {i old u}, current.get? i = some old → lastOf listed i = some u →
    old.secret = u.secret → i ∉ d.remove ∧ i ∉ d.add.map User.id
  reaches : ∀ i, ((d.patch current).get? i).map record = (lastOf listed i).map record
  settles : between (d.patch current) listed = ⟨[], []⟩

/-- Who is there with the secret of its last entry is neither removed nor added. -/
theorem not_mem_between {old u : User} (ho : current.get? i = some old)
    (hu : lastOf listed i = some u) (hs : old.secret = u.secret) :
    i ∉ (between current listed).remove ∧ i ∉ (between current listed).add.map User.id := by
  constructor
  · intro hr
    obtain ⟨old', ho', hne⟩ := mem_remove_iff.mp hr
    cases ho.symm.trans ho'
    exact hne u hu hs
  · intro ha
    obtain ⟨v, hv, rfl⟩ := List.mem_map.mp ha
    obtain ⟨hl, hne⟩ := mem_add_iff.mp hv
    cases hl.symm.trans hu
    exact hne old ho hs

/-- After a change there are just the users of the list, with the secrets of their last entries. -/
theorem record_patch (h : ∀ i u, current.get? i = some u → u.id = i) (listed : List User)
    (i : Int) :
    (((between current listed).patch current).get? i).map record
      = (lastOf listed i).map record := by
  rw [get?_patch]
  cases hl : lastOf listed i with
  | none =>
      have hadd : lastOf (between current listed).add i = none := by
        refine Option.eq_none_iff_forall_ne_some.mpr fun u hu => ?_
        cases hl.symm.trans (lastOf_add.mp hu).1
      rw [hadd, Option.none_or]
      split
      · rfl
      · next hr =>
        cases ho : current.get? i with
        | none => rfl
        | some old =>
            refine absurd (mem_remove_iff.mpr ⟨old, ho, fun u hu => ?_⟩) hr
            cases hl.symm.trans hu
  | some u =>
      by_cases hw : ∀ old, current.get? i = some old → old.secret ≠ u.secret
      · rw [lastOf_add.mpr ⟨hl, hw⟩]
        rfl
      -- The user is there with this secret, so it is left as it is.
      · push Not at hw
        obtain ⟨old, ho, hs⟩ := hw
        obtain ⟨hr, ha⟩ := not_mem_between ho hl hs
        have hadd : lastOf (between current listed).add i = none := by
          refine Option.eq_none_iff_forall_ne_some.mpr fun v hv => ha ?_
          have hv' := (lastOf_eq_some_iff (nodup_add current listed)).mp hv
          exact List.mem_map.mpr ⟨v, hv'⟩
        rw [hadd, if_neg hr, ho, Option.none_or, Option.map_some, Option.map_some, record, record,
          h i old ho, id_of_lastOf hl, hs]

/-- The change from any users, each under its own number, to any list is exact. -/
theorem exact_between (h : ∀ i u, current.get? i = some u → u.id = i) (listed : List User) :
    Exact current listed (between current listed) where
  nodupRemove := nodup_remove current listed
  present i hi := by
    obtain ⟨old, ho, -⟩ := mem_remove_iff.mp hi
    exact OrderedMap.mem_keys_iff.mpr ⟨old, ho⟩
  nodupAdd := nodup_add current listed
  absent u hu := by
    by_cases hc : u.id ∈ current.keys
    · obtain ⟨old, ho⟩ := OrderedMap.mem_keys_iff.mp hc
      exact .inr (mem_remove_of_mem_add hu ho)
    · exact .inl hc
  minimal := not_mem_between
  reaches := record_patch h listed
  settles := by
    have hs (i : Int) : (((between current listed).patch current).get? i).map User.secret
        = (lastOf listed i).map User.secret := by
      have hr := congrArg (Option.map Prod.snd) (record_patch h listed i)
      rwa [Option.map_map, Option.map_map] at hr
    obtain ⟨hr, ha⟩ := isEmpty_iff.mp (isEmpty_between hs)
    generalize between _ listed = d at hr ha ⊢
    obtain ⟨remove, add⟩ := d
    exact congr (congrArg Diff.mk hr) ha

/-- Of three users the third is no longer listed and the second is listed twice, at last with
another secret; one more is listed. -/
theorem exact_between_sample :
    between (latest [⟨1, "a", []⟩, ⟨2, "b", []⟩, ⟨3, "c", []⟩])
      [⟨2, "b", []⟩, ⟨4, "d", []⟩, ⟨2, "e", []⟩, ⟨1, "a", []⟩]
      = ⟨[3, 2], [⟨2, "e", []⟩, ⟨4, "d", []⟩]⟩
    ∧ Exact (latest [⟨1, "a", []⟩, ⟨2, "b", []⟩, ⟨3, "c", []⟩])
      [⟨2, "b", []⟩, ⟨4, "d", []⟩, ⟨2, "e", []⟩, ⟨1, "a", []⟩]
      ⟨[3, 2], [⟨2, "e", []⟩, ⟨4, "d", []⟩]⟩ := by
  have hown : ∀ i u, (latest [⟨1, "a", []⟩, ⟨2, "b", []⟩, ⟨3, "c", []⟩]).get? i = some u →
      u.id = i := by
    intro i u hu
    rw [get?_latest] at hu
    exact id_of_lastOf hu
  exact ⟨by decide, exact_between hown [⟨2, "b", []⟩, ⟨4, "d", []⟩, ⟨2, "e", []⟩, ⟨1, "a", []⟩]⟩

end Diff

end ProxyNode
