import ProxyNode.Proofs.Roster.Keyed

/-!
# Roster — Standing, the entries of a list that count

A list may name a user more than once, and a secret that is too short undoes all that was said of
its user before.  So an entry stands as long as no entry of the same user with too short a secret
comes after it.  The users that a list is keyed to are those of its standing entries: each with its
last entry, in the place of its first that stands.  A secret without bytes, though, undoes the whole
list.

* `wanted`: the users of the standing entries, with their keys.
* `get?_wanted`: they are those whose last secret is long enough.
* `values_wanted`: in a list that names nobody twice they are the entries with such a secret.
* `result_of_legible`, `result_of_torn`: they are what the list is keyed to, unless a secret has no
  bytes; then that is the fault.
* `keyAll_eq`: where all or none are keyed, the first secret that is not long enough is the fault.
-/

namespace ProxyNode

/-- Whether some entry of a list undoes what was said of a user before. -/
def isUndone (length : Nat) (id : Int) (users : List User) : Bool :=
  users.any fun v => v.id = id && !v.keyable length

/-- The entries that neither they themselves nor later ones undo. -/
def standing (length : Nat) : List User → List User
  | [] => []
  | u :: rest =>
    if isUndone length u.id (u :: rest) then standing length rest
    else u :: standing length rest

/-- The users that can have a key, each as its last entry says and in the place of its first that
stands. -/
def wanted (length : Nat) (users : List User) : OrderedMap Int User :=
  .ofList ((standing length users).map fun u => (u.id, u.withOwnKey length))

variable {length : Nat} {users : List User} {u : User}

theorem isUndone_append (id : Int) (users : List User) (u : User) :
    isUndone length id (users ++ [u])
      = (isUndone length id users || (decide (u.id = id) && !u.keyable length)) := by
  simp [isUndone]

/-- An entry with a secret that is long enough undoes nothing. -/
theorem standing_append_of_keyable (users : List User) (hu : u.keyable length = true) :
    standing length (users ++ [u]) = standing length users ++ [u] := by
  induction users with
  | nil => simp [standing, isUndone, hu]
  | cons v rest ih =>
      have hsame : isUndone length v.id (v :: rest ++ [u]) = isUndone length v.id (v :: rest) := by
        rw [isUndone_append, hu]
        simp
      rw [List.cons_append, standing, ← List.cons_append, hsame, standing, ih]
      by_cases hv : isUndone length v.id (v :: rest) = true
      · simp [hv]
      · simp [hv]

/-- An entry with too short a secret undoes all that was said of its user. -/
theorem standing_append_of_not_keyable (users : List User) (hu : u.keyable length = false) :
    standing length (users ++ [u])
      = (standing length users).filter fun v => !decide (v.id = u.id) := by
  induction users with
  | nil => simp [standing, isUndone, hu]
  | cons v rest ih =>
      rw [List.cons_append, standing, ← List.cons_append, isUndone_append, standing, ih]
      by_cases hv : isUndone length v.id (v :: rest) = true
      · simp [hv]
      · by_cases hid : u.id = v.id
        · simp [hv, hu, hid]
        · simp [hv, hid, Ne.symm hid]

/-- One more entry brings its user in or takes it out, as its secret is long enough or not. -/
theorem wanted_append_singleton (users : List User) (u : User) :
    wanted length (users ++ [u])
      = if u.keyable length then (wanted length users).insert u.id (u.withOwnKey length)
        else (wanted length users).erase u.id := by
  by_cases hu : u.keyable length = true
  · rw [if_pos hu, wanted, standing_append_of_keyable users hu, List.map_append,
      List.map_singleton, OrderedMap.ofList_append_singleton]
    rfl
  · rw [if_neg hu, wanted, standing_append_of_not_keyable users (Bool.eq_false_iff.mpr hu), wanted,
      OrderedMap.erase_ofList, List.filter_map]
    rfl

/-- Of a user the last entry counts, if its secret is long enough. -/
theorem get?_wanted (length : Nat) (users : List User) (id : Int) :
    (wanted length users).get? id
      = ((lastOf users id).filter (User.keyable length)).map (User.withOwnKey length) := by
  induction users using List.reverseRecOn with
  | nil => rfl
  | append_singleton rest u ih =>
      rw [wanted_append_singleton, lastOf_append_singleton]
      by_cases hid : u.id = id
      · rw [if_pos hid, Option.filter_some]
        by_cases hu : u.keyable length = true
        · rw [if_pos hu, if_pos hu, OrderedMap.get?_insert, if_pos hid.symm]
          rfl
        · rw [if_neg hu, if_neg hu, OrderedMap.get?_erase, if_pos hid.symm]
          rfl
      · rw [if_neg hid, ← ih]
        by_cases hu : u.keyable length = true
        · rw [if_pos hu, OrderedMap.get?_insert, if_neg (Ne.symm hid)]
        · rw [if_neg hu, OrderedMap.get?_erase, if_neg (Ne.symm hid)]

/-- The keys of the users that are wanted. -/
theorem key_of_wanted (length : Nat) (users : List User) (id : Int) :
    ((wanted length users).get? id).map User.key = keyFor length users id := by
  rw [get?_wanted, keyFor]
  cases lastOf users id with
  | none => rfl
  | some u =>
      rw [Option.bind_some, Option.filter_some]
      by_cases hu : u.keyable length = true
      · rw [if_pos hu, if_pos (of_decide_eq_true hu)]
        rfl
      · rw [if_neg hu, if_neg (of_decide_eq_false (Bool.eq_false_iff.mpr hu))]
        rfl

theorem isKeyed_wanted (length : Nat) (users : List User) : IsKeyed length (wanted length users) := by
  intro id v hv
  rw [get?_wanted] at hv
  obtain ⟨u, hu, rfl⟩ := Option.map_eq_some_iff.mp hv
  obtain ⟨hlast, hk⟩ := Option.filter_eq_some_iff.mp hu
  have hid : u.id = id := id_of_lastOf hlast
  exact ⟨hid, of_decide_eq_true hk, rfl⟩

/-! ### What a list is keyed to -/

/-- As long as all secrets have bytes, the keying goes on, and it comes to the standing entries. -/
theorem keySome_of_legible (h : 0 < length) (hl : Legible users) :
    (keySome length users).broken = none ∧ (keySome length users).users = wanted length users := by
  -- By induction on the last entry, which is what the fold does last.
  induction users using List.reverseRecOn with
  | nil => exact ⟨rfl, rfl⟩
  | append_singleton rest u ih =>
      obtain ⟨hrest, hu⟩ := List.forall_mem_append.mp hl
      obtain ⟨hbroken, husers⟩ := ih hrest
      have hw : u.secret.isWhole = true := hu u List.mem_cons_self
      have hgoes : ¬ (none : Option Fault).isSome = true := Bool.false_ne_true
      rw [keySome_append_singleton, wanted_append_singleton, Keyed.step, hbroken, if_neg hgoes]
      by_cases hk : u.keyable length = true
      · rw [User.keyed_of_keyable h hk, if_pos hk]
        exact ⟨rfl, congrArg (OrderedMap.insert · u.id (u.withOwnKey length)) husers⟩
      · rw [User.keyed_of_not_keyable h (Bool.eq_false_iff.mpr hk), if_neg hk]
        dsimp only
        rw [if_pos ((User.isConfig_keyFault length u).trans hw)]
        exact ⟨rfl, congrArg (OrderedMap.erase · u.id) husers⟩

theorem result_of_legible (h : 0 < length) (hl : Legible users) :
    (keySome length users).result = .ok (wanted length users) := by
  obtain ⟨hbroken, husers⟩ := keySome_of_legible h hl
  rw [Keyed.result, hbroken, husers]

theorem foldl_step_of_broken {k : Keyed} (hk : k.broken.isSome = true) (users : List User) :
    users.foldl (Keyed.step length) k = k := by
  induction users with
  | nil => rfl
  | cons u rest ih => rw [List.foldl_cons, Keyed.step_of_broken hk, ih]

/-- The first secret without bytes breaks the keying off, and nothing that follows counts. -/
theorem keySome_of_torn (h : 0 < length) {before after : List User} (hl : Legible before)
    (hu : u.secret.isWhole = false) :
    keySome length (before ++ u :: after)
      = { keySome length before with broken := some (u.keyFault length) } := by
  have hk : u.keyable length = false := by
    refine Bool.eq_false_iff.mpr fun hk => ?_
    rw [User.isWhole_of_keyable h hk] at hu
    cases hu
  have hstep : (keySome length before).step length u
      = { keySome length before with broken := some (u.keyFault length) } := by
    have hgoes : ¬ (none : Option Fault).isSome = true := Bool.false_ne_true
    have hfault : ¬ (u.keyFault length).isConfig = true :=
      Bool.eq_false_iff.mp ((User.isConfig_keyFault length u).trans hu)
    rw [Keyed.step, (keySome_of_legible h hl).1, if_neg hgoes, User.keyed_of_not_keyable h hk]
    dsimp only
    rw [if_neg hfault]
  rw [keySome, List.foldl_append, List.foldl_cons, ← keySome, hstep]
  exact foldl_step_of_broken rfl after

theorem result_of_torn (h : 0 < length) {before after : List User} (hl : Legible before)
    (hu : u.secret.isWhole = false) :
    (keySome length (before ++ u :: after)).result = .error (u.keyFault length) := by
  rw [keySome_of_torn h hl hu, Keyed.result]

/-- A list is keyed to the users that are wanted, if all secrets have bytes. -/
theorem result_eq_ok_iff (h : 0 < length) {m : OrderedMap Int User} :
    (keySome length users).result = .ok m ↔ Legible users ∧ m = wanted length users := by
  rcases legible_or_torn users with hl | ⟨before, u, after, rfl, hl, hu⟩
  · rw [result_of_legible h hl]
    simp [hl, eq_comm]
  · rw [result_of_torn h hl hu]
    refine ⟨nofun, fun hall => ?_⟩
    rw [hall.1 u (by simp)] at hu
    cases hu

/-- The keying is broken off by the first secret without bytes. -/
theorem result_eq_error_iff (h : 0 < length) {fault : Fault} :
    (keySome length users).result = .error fault
      ↔ ∃ before u after, users = before ++ u :: after ∧ Legible before
        ∧ u.secret.isWhole = false ∧ fault = u.keyFault length := by
  constructor
  · intro hf
    rcases legible_or_torn users with hl | ⟨before, u, after, rfl, hl, hu⟩
    · rw [result_of_legible h hl] at hf
      cases hf
    · rw [result_of_torn h hl hu] at hf
      exact ⟨before, u, after, rfl, hl, hu, (Except.error.inj hf).symm⟩
  · rintro ⟨before, u, after, rfl, hl, hu, rfl⟩
    exact result_of_torn h hl hu

/-- In a list that names nobody twice an entry stands if its secret is long enough. -/
theorem standing_of_nodup (h : (users.map User.id).Nodup) :
    standing length users = users.filter (User.keyable length) := by
  induction users with
  | nil => rfl
  | cons u rest ih =>
      rw [List.map_cons, List.nodup_cons] at h
      have hrest : isUndone length u.id rest = false := by
        refine List.any_eq_false.mpr fun v hv hid => h.1 ?_
        have hid' : v.id = u.id := by simpa using (Bool.and_eq_true_iff.mp hid).1
        exact List.mem_map.mpr ⟨v, hv, hid'⟩
      have hundone : isUndone length u.id (u :: rest) = !u.keyable length := by
        rw [isUndone, List.any_cons, ← isUndone, hrest]
        simp
      rw [standing, hundone, ih h.2]
      cases hu : u.keyable length <;> simp [hu]

theorem values_wanted (h : (users.map User.id).Nodup) :
    (wanted length users).values
      = (users.filter (User.keyable length)).map (User.withOwnKey length) := by
  have hids : (((users.filter (User.keyable length)).map
      fun u => (u.id, u.withOwnKey length)).map Prod.fst).Nodup := by
    rw [List.map_map]
    exact h.sublist ((List.filter_sublist).map User.id)
  rw [wanted, standing_of_nodup h, OrderedMap.values, OrderedMap.entries_ofList hids, List.map_map]
  rfl

/-! ### All or none -/

theorem keyAllFrom_eq (h : 0 < length) (before users : List User) :
    keyAllFrom length (wanted length before) users
      = match users.find? fun u => !u.keyable length with
        | some u => .error (u.keyFault length)
        | none => .ok (wanted length (before ++ users)) := by
  induction users generalizing before with
  | nil => rw [List.append_nil]; rfl
  | cons u rest ih =>
      by_cases hu : u.keyable length = true
      · have hstep : wanted length (before ++ [u]) = _ := wanted_append_singleton before u
        rw [if_pos hu] at hstep
        rw [keyAllFrom_cons (User.keyed_of_keyable h hu), ← hstep, ih,
          List.find?_cons_of_neg (by simp [hu]), List.append_assoc, List.singleton_append]
      · have hshort := User.keyed_of_not_keyable h (Bool.eq_false_iff.mpr hu)
        rw [keyAllFrom, hshort, List.find?_cons_of_pos (by simp [hu])]

/-- Where every secret has to be long enough, the first that is not is the fault; else every user
has a key, as in a list that is keyed entry by entry. -/
theorem keyAll_eq (h : 0 < length) (users : List User) :
    keyAll length users = match users.find? fun u => !u.keyable length with
      | some u => .error (u.keyFault length)
      | none => .ok (wanted length users) :=
  keyAllFrom_eq h [] users

/-- In a list without too short a secret every user is wanted, as its last entry says. -/
theorem mem_values_wanted (hall : ∀ u ∈ users, u.keyable length = true) {v : User} :
    v ∈ (wanted length users).values
      ↔ ∃ u, lastOf users u.id = some u ∧ v = u.withOwnKey length := by
  have hget (id : Int) : (wanted length users).get? id
      = (lastOf users id).map (User.withOwnKey length) := by
    rw [get?_wanted]
    cases hl : lastOf users id with
    | none => rfl
    | some u =>
        have hu : u ∈ users := List.mem_reverse.mp (List.mem_of_find?_eq_some hl)
        rw [Option.filter_some, if_pos (hall u hu)]
  rw [OrderedMap.mem_values_iff]
  constructor
  · rintro ⟨id, hv⟩
    rw [hget] at hv
    obtain ⟨u, hu, rfl⟩ := Option.map_eq_some_iff.mp hv
    exact ⟨u, (id_of_lastOf hu).symm ▸ hu, rfl⟩
  · rintro ⟨u, hu, rfl⟩
    exact ⟨u.id, by rw [hget, hu]; rfl⟩

end ProxyNode
