import ProxyNode.Proofs.Node.Holding

/-!
# Node — Convergence

A sync cycle that gets a list of users, all with secrets that have bytes, and is not refused anything
makes the engine's users those of the list, whatever went wrong before; the next one with the same
list asks nothing of the engine.

* `removeAll_accepted`, `addAll_accepted`: the two halves of a change that is not refused.
* `apply_accepted`: such a change makes the users the listed ones.
* `reconcile_accepted`, `reconcile_unchanged`: what a list does the first time and the second.
* `converged_of_sync`, `sync_unchanged`: so does the sync cycle that gets it.
* `ready_after`: whatever happens after a start, the node is ready for such a cycle.
* `BreaksOff`: what becomes of a cycle that gets a secret without bytes.
* `sync_converges`: a sync cycle after any history; `sync_breaks_off`: one that does not converge.
-/

namespace ProxyNode.Node

/-- Of the calls from `n` to `n'` none is refused from outside. -/
def Accepts (n n' : Node) : Prop :=
  ∀ k c, n.calls ≤ k → k < n'.calls → n.refuses k c = false

variable {n n' n'' : Node}

theorem Accepts.left (h : Accepts n n'') (hm : Manages n' n'') : Accepts n n' :=
  fun k c hk hlt => h k c hk (Nat.lt_of_lt_of_le hlt hm.calls)

theorem Accepts.right (h : Accepts n n'') (hm : Syncs n n') : Accepts n' n'' :=
  fun k c hk hlt => hm.refuses ▸ h k c (Nat.le_trans hm.calls hk) hlt

/-- A call that the engine can do is done. -/
theorem Accepts.call {c : Engine.Call} {e : Engine} (h : Accepts n n')
    (hlt : n.calls < n'.calls) (he : n.engine.perform c = .ok e) :
    n.call c = (none, n.accepted c e) :=
  call_of_perform (h _ c (Nat.le_refl _) hlt) he

section Changes

variable {h : Engine.Handle} {i : Engine.Instance} {config : NodeConfig}

/-- Users that are there are removed, each once. -/
theorem removeAll_accepted (hs : n.roster.Serves n.engine h i config) {ids : List Int}
    (hnodup : ids.Nodup) (hin : ∀ id ∈ ids, ∃ u, n.roster.applied.get? id = some u)
    (ha : Accepts n (n.removeAll h ids).2) :
    (n.removeAll h ids).1 = []
      ∧ ∀ j, (n.removeAll h ids).2.roster.applied.get? j
        = if j ∈ ids then none else n.roster.applied.get? j := by
  -- Each removal leaves the users to be removed after it where they are.
  induction ids generalizing n with
  | nil => exact ⟨rfl, fun j => rfl⟩
  | cons id rest ih =>
      obtain ⟨u, hu⟩ := hin id List.mem_cons_self
      rw [List.nodup_cons] at hnodup
      have hreg : n.engine.users.get? id = some u.key := by
        rw [hs.registered, hu]
        rfl
      have he : n.engine.perform (.remove h id) = .ok _ := Engine.remove_of_check hs.check hreg
      rcases removeAll_cons n h id rest with ⟨e, -, rfl, hr⟩ | ⟨cause, hcall, hr⟩
      · rw [hr] at ha ⊢
        have hrest : ∀ j ∈ rest, ∃ v, (n.roster.applied.erase id).get? j = some v := by
          intro j hj
          obtain ⟨v, hv⟩ := hin j (List.mem_cons_of_mem id hj)
          have hne : j ≠ id := fun e => hnodup.1 (e ▸ hj)
          exact ⟨v, (OrderedMap.get?_erase _ _ _).trans ((if_neg hne).trans hv)⟩
        obtain ⟨hkept, hget⟩ := ih (n := n.removed h id _) (hs.erase id) hnodup.2 hrest
          fun k c hk hlt => ha k c (Nat.le_of_succ_le hk) hlt
        refine ⟨hkept, fun j => (hget j).trans ?_⟩
        show (if j ∈ rest then none else (n.roster.applied.erase id).get? j) = _
        rw [OrderedMap.get?_erase]
        by_cases hj : j = id
        · simp [hj]
        · simp [hj]
      · rw [hr] at ha
        have hlt := (manages_removeAll (n.unremoved h id cause) h rest).calls
        cases hcall.symm.trans (ha.call hlt he)

/-- Users that are not there are added, each once. -/
theorem addAll_accepted (hs : n.roster.Serves n.engine h i config) {users : List User}
    (hkeyed : ∀ u ∈ users, u.IsKeyed config.cipher.keyLength u.id)
    (hnodup : (users.map User.id).Nodup)
    (hout : ∀ u ∈ users, n.roster.applied.get? u.id = none)
    (ha : Accepts n (n.addAll h [] users).2.2) :
    (n.addAll h [] users).2.1 = 0
      ∧ ∀ j, (n.addAll h [] users).2.2.roster.applied.get? j
        = (users.find? fun u => u.id = j).or (n.roster.applied.get? j) := by
  induction users generalizing n with
  | nil => exact ⟨rfl, fun j => rfl⟩
  | cons u rest ih =>
      rw [List.map_cons, List.nodup_cons] at hnodup
      have hu := hkeyed u List.mem_cons_self
      have hreg : n.engine.users.get? u.id = none := by
        rw [hs.registered, hout u List.mem_cons_self]
        rfl
      have hlength : u.key.length = i.config.cipher.keyLength := hs.cipher ▸ hu.length_key
      have he : n.engine.perform (.add h u.id u.key) = .ok _ :=
        Engine.add_of_check hs.check hlength hreg
      rcases addAll_cons n h [] u rest with ⟨hk, -⟩ | ⟨-, ⟨e, -, rfl, hr⟩ | ⟨cause, hcall, hr⟩⟩
      · cases hk
      · rw [hr] at ha ⊢
        have hrest : ∀ v ∈ rest, (n.roster.applied.insert u.id u).get? v.id = none := by
          intro v hv
          have hne : v.id ≠ u.id := fun e => hnodup.1 (List.mem_map.mpr ⟨v, hv, e⟩)
          exact (OrderedMap.get?_insert _ _ _ _).trans
            ((if_neg hne).trans (hout v (List.mem_cons_of_mem u hv)))
        obtain ⟨hfail, hget⟩ := ih (n := n.added h u _) (hs.insert hu)
          (fun v hv => hkeyed v (List.mem_cons_of_mem u hv)) hnodup.2 hrest
          fun k c hk hlt => ha k c (Nat.le_of_succ_le hk) hlt
        refine ⟨hfail, fun j => (hget j).trans ?_⟩
        show (rest.find? _).or ((n.roster.applied.insert u.id u).get? j) = _
        rw [OrderedMap.get?_insert]
        by_cases hj : u.id = j
        · have hnone : rest.find? (fun v => v.id = j) = none := by
            rw [List.find?_eq_none]
            intro v hv hvj
            exact hnodup.1 (List.mem_map.mpr ⟨v, hv, by simpa [hj] using hvj⟩)
          rw [hnone, if_pos hj.symm, List.find?_cons_of_pos (by simpa using hj)]
          rfl
        · rw [if_neg (Ne.symm hj), List.find?_cons_of_neg (by simpa using hj)]
      · rw [hr] at ha
        have hlt := (manages_addAll (n.unadded h u cause) h [] rest).calls
        cases hcall.symm.trans (ha.call hlt he)

/-- A change to keyed users that is not refused makes the users those. -/
theorem apply_accepted (hs : n.roster.Serves n.engine h i config) {wanted : OrderedMap Int User}
    (hw : IsKeyed config.cipher.keyLength wanted)
    (ha : Accepts n (n.apply h (Diff.between n.roster.applied wanted.values)).2) :
    (n.apply h (Diff.between n.roster.applied wanted.values)).1 = true
      ∧ ∀ j, (n.apply h (Diff.between n.roster.applied wanted.values)).2.roster.applied.get? j
        = wanted.get? j := by
  generalize hd : Diff.between n.roster.applied wanted.values = d at ha ⊢
  have hremoved : Accepts n (n.removeAll h d.remove).2 :=
    ha.left ((manages_addAll _ h _ d.add).trans (manages_note _ _))
  have hadded : Accepts (n.removeAll h d.remove).2
      ((n.removeAll h d.remove).2.addAll h (n.removeAll h d.remove).1 d.add).2.2 :=
    (ha.left (manages_note _ _)).right (manages_removeAll n h d.remove).syncs
  have hin : ∀ id ∈ d.remove, ∃ u, n.roster.applied.get? id = some u := by
    intro id hid
    obtain ⟨old, ho, -⟩ := Diff.mem_remove_iff.mp (hd ▸ hid)
    exact ⟨old, ho⟩
  obtain ⟨hkept, hget⟩ := removeAll_accepted hs (hd ▸ Diff.nodup_remove _ _) hin hremoved
  have hout : ∀ u ∈ d.add, (n.removeAll h d.remove).2.roster.applied.get? u.id = none := by
    intro u hu
    rw [hget]
    split
    · rfl
    · next hr =>
      rw [← Option.not_isSome_iff_eq_none, Option.isSome_iff_exists]
      rintro ⟨old, ho⟩
      exact hr (hd ▸ Diff.mem_remove_of_mem_add (hd ▸ hu) ho)
  -- Nobody was kept, so no addition is passed over.
  rw [hkept] at hadded
  obtain ⟨hrefused, hget'⟩ := addAll_accepted (serves_removeAll hs d.remove).1
    (fun u hu => Diff.isKeyed_of_mem_add hw (hd ▸ hu)) (hd ▸ Diff.nodup_add _ _) hout hadded
  constructor
  · show ((n.removeAll h d.remove).1.length
      + ((n.removeAll h d.remove).2.addAll h (n.removeAll h d.remove).1 d.add).2.1 == 0) = true
    rw [hkept, hrefused]
    rfl
  · intro j
    have happly : (n.apply h d).2.roster
        = ((n.removeAll h d.remove).2.addAll h (n.removeAll h d.remove).1 d.add).2.2.roster := rfl
    rw [happly, hkept, hget', hget, ← hd]
    exact Diff.get?_between hs.keyed hw j

end Changes

/-- An engine that does not run starts if it is not refused. -/
theorem startEngine_accepted (hrun : n.engine.anyRunning = false) {config : NodeConfig}
    {users : OrderedMap Int User} (ha : Accepts n (n.startEngine config users).2) :
    (n.startEngine config users).1 = true
      ∧ (n.startEngine config users).2.roster.handle.isSome = true
      ∧ (n.startEngine config users).2.roster.applied = users := by
  have he : n.engine.perform (.start config users.values) = .ok _ :=
    Engine.start_eq_ok_iff.mpr ⟨hrun, rfl⟩
  unfold startEngine at ha ⊢
  rcases call_cases n (.start config users.values) with ⟨e, hp, hcall⟩ | ⟨cause, -, hcall⟩
  · rw [hcall]
    obtain ⟨hl, -⟩ := Engine.check_of_start hp
    exact ⟨rfl, Option.isSome_iff_exists.mpr ⟨_, hl⟩, rfl⟩
  · rw [hcall] at ha
    cases hcall.symm.trans (ha.call (Nat.lt_succ_self _) he)

/-- Users with keys that are not refused become the users, whatever these were. -/
theorem settle_accepted (ht : n.Tended) {config : NodeConfig}
    (hc : n.roster.config = some config) {keyed : OrderedMap Int User}
    (hk : IsKeyed config.cipher.keyLength keyed) (ha : Accepts n (n.settle config keyed).2) :
    (n.settle config keyed).1 = true
      ∧ (n.settle config keyed).2.roster.handle.isSome = true
      ∧ ∀ j, (n.settle config keyed).2.roster.applied.get? j = keyed.get? j := by
  rcases settle_cases n config keyed with ⟨hh, message, hr⟩ | ⟨k, hh, hcase⟩
  · rw [hr] at ha ⊢
    have hs := ha.left (manages_synced _ _ message)
    obtain ⟨hok, hsome, happlied⟩ := startEngine_accepted (ht.inStep.none hh).2 hs
    exact ⟨hok, hsome, fun j => congrArg (OrderedMap.get? · j) happlied⟩
  -- The users that are there have keys of this cipher, so that equal secrets mean equal keys.
  · obtain ⟨i, config', hs⟩ := ht.inStep.serves hh
    obtain rfl : config = config' := Option.some.inj (hc.symm.trans hs.configured)
    rcases hcase with ⟨he, hr⟩ | ⟨-, message, hr⟩
    · rw [hr]
      exact ⟨rfl, Option.isSome_iff_exists.mpr ⟨k, hh⟩,
        (Diff.isEmpty_between_iff hs.keyed hk).mp he⟩
    · rw [hr] at ha ⊢
      obtain ⟨hok, hget⟩ := apply_accepted hs hk (ha.left (manages_synced _ _ message))
      have hkept := (serves_apply hs (d := Diff.between n.roster.applied keyed.values)
        fun u hu => Diff.isKeyed_of_mem_add hk hu).2
      exact ⟨hok, Option.isSome_iff_exists.mpr ⟨k, hkept.trans hh⟩, hget⟩

/-- Users that are the users already ask nothing of the engine. -/
theorem settle_unchanged (ht : n.Tended) {config : NodeConfig}
    (hc : n.roster.config = some config) {keyed : OrderedMap Int User}
    (hk : IsKeyed config.cipher.keyLength keyed) (hh : n.roster.handle.isSome = true)
    (hget : ∀ j, n.roster.applied.get? j = keyed.get? j) :
    (n.settle config keyed).1 = true ∧ (n.settle config keyed).2.called = n.called := by
  obtain ⟨k, hsome⟩ := Option.isSome_iff_exists.mp hh
  obtain ⟨i, config', hs⟩ := ht.inStep.serves hsome
  obtain rfl : config = config' := Option.some.inj (hc.symm.trans hs.configured)
  have he := (Diff.isEmpty_between_iff hs.keyed hk).mpr hget
  rcases settle_cases n config keyed with ⟨hnone, -⟩ | ⟨k', -, ⟨-, hr⟩ | ⟨hne, -⟩⟩
  · cases hsome.symm.trans hnone
  · rw [hr]
    exact ⟨rfl, rfl⟩
  · cases he.symm.trans hne

/-- A list of users that is not refused becomes the users, whatever they were, if all their secrets
have bytes. -/
theorem reconcile_accepted (ht : n.Tended) {config : NodeConfig}
    (hc : n.roster.config = some config) {users : List User} (hl : Legible users)
    (ha : Accepts n (n.reconcile config users).2) :
    (n.reconcile config users).1 = .ok true
      ∧ (n.reconcile config users).2.roster.handle.isSome = true
      ∧ ∀ j, (n.reconcile config users).2.roster.applied.get? j
        = (wanted config.cipher.keyLength users).get? j := by
  obtain ⟨m, hm, hr⟩ := reconcile_of_legible n config hl
  rw [hr] at ha ⊢
  obtain ⟨hok, hsettled⟩ := settle_accepted (ht.keeps hm.keeps)
    ((congrArg Roster.config hm.keeps.roster).trans hc)
    (isKeyed_wanted config.cipher.keyLength users) (ha.right hm.manages.syncs)
  exact ⟨congrArg Except.ok hok, hsettled⟩

/-- A list of users that are the users already asks nothing of the engine. -/
theorem reconcile_unchanged (ht : n.Tended) {config : NodeConfig}
    (hc : n.roster.config = some config) {users : List User} (hl : Legible users)
    (hh : n.roster.handle.isSome = true)
    (hget : ∀ j, n.roster.applied.get? j = (wanted config.cipher.keyLength users).get? j) :
    (n.reconcile config users).1 = .ok true ∧ (n.reconcile config users).2.called = n.called := by
  obtain ⟨m, hm, hr⟩ := reconcile_of_legible n config hl
  have hroster := hm.keeps.roster
  rw [hr]
  obtain ⟨hok, hcalled⟩ := settle_unchanged (ht.keeps hm.keeps)
    ((congrArg Roster.config hroster).trans hc) (isKeyed_wanted config.cipher.keyLength users)
    (hroster ▸ hh) (hroster ▸ hget)
  exact ⟨congrArg Except.ok hok, hcalled.trans hm.keeps.called⟩

/-- With the first secret without bytes a list is broken off, and nothing is done with it. -/
theorem reconcile_of_torn (n : Node) (config : NodeConfig) (after : List User)
    {before : List User} {u : User} (hl : Legible before) (hu : u.secret.isWhole = false) :
    ∃ m, Listens n m ∧ n.reconcile config (before ++ u :: after)
      = (.error (u.keyFault config.cipher.keyLength), m) := by
  have ht : (keySome config.cipher.keyLength (before ++ u :: after)).result = _ :=
    result_of_torn config.cipher.keyLength_pos hl hu
  obtain ⟨m, hm, ⟨fault, hf, hr⟩ | ⟨keyed, hkeyed, -⟩⟩ :=
    reconcile_cases n config (before ++ u :: after)
  · cases ht.symm.trans hf
    exact ⟨m, hm, hr⟩
  · cases ht.symm.trans hkeyed

/-- What breaks a list off is not a refusal of the panel. -/
theorem isRejected_of_result {cipher : Cipher} {users : List User} {fault : Fault}
    (h : (keySome cipher.keyLength users).result = .error fault) : fault.isRejected = false := by
  obtain ⟨before, u, after, -, -, hu, rfl⟩ := (result_eq_error_iff cipher.keyLength_pos).mp h
  obtain ⟨why, -, hk⟩ := User.keyFault_of_torn cipher.keyLength hu
  rw [hk]
  rfl

theorem isRejected_of_reconcile {config : NodeConfig} {users : List User} {fault : Fault}
    (h : (n.reconcile config users).1 = .error fault) : fault.isRejected = false := by
  obtain ⟨m, -, ⟨fault', hf, hr⟩ | ⟨keyed, -, hr⟩⟩ := reconcile_cases n config users
  · rw [hr] at h
    cases h
    exact isRejected_of_result hf
  · rw [hr] at h
    cases h

/-! ### One sync cycle -/

/-- The request for a configuration that begins a sync cycle. -/
def configFetch (n : Node) : Except Fault NodeConfig × Node :=
  n.retrying n.plan.retry Panel.Endpoint.config.errand fetchConfig

/-- The request for the users that follows. -/
def userFetch (n : Node) : Except Fault (List User) × Node :=
  n.retrying n.plan.retry Panel.Endpoint.users.errand fetchUsers

/-- Whether a sync cycle goes on after an answer to its first request: there is a configuration, or
it did not change, or it could not be fetched or used this time. -/
def goesOn : Except Fault NodeConfig → Bool
  | .ok _ => true
  | .error (.notModified _) => true
  | .error fault => fault.isTransient || fault.isConfig

/-- Whether the request for the users yields a list, a new one or the last one, which did not
change. -/
def Yields (n : Node) (users : List User) : Prop :=
  n.userFetch.1 = .ok users
  ∨ (∃ what, n.userFetch.1 = .error (.notModified what)) ∧ n.roster.fetched = some users

/-- A node whose users are those that a list wants, registered under a configuration. -/
structure Converged (n : Node) (config : NodeConfig) (users : List User) : Prop where
  configured : n.roster.config = some config
  fetched : n.roster.fetched = some users
  handle : n.roster.handle.isSome = true
  applied : ∀ id,
    n.roster.applied.get? id = (wanted config.cipher.keyLength users).get? id

variable {users : List User} {config : NodeConfig}

theorem listens_configFetch (n : Node) : Listens n n.configFetch.2 :=
  listens_retrying listens_fetchConfig n n.plan.retry Panel.Endpoint.config.errand

theorem listens_userFetch (n : Node) : Listens n n.userFetch.2 :=
  listens_retrying listens_fetchUsers n n.plan.retry Panel.Endpoint.users.errand

/-- To take a configuration on is not broken off if the secrets of all users have bytes. -/
theorem adopt_fst (hl : Legible n.roster.applied.values) (config : NodeConfig) :
    (n.adopt config).1 = .ok () := by
  have hr : (n.restart config).1 = .ok () := by
    obtain ⟨m, -, hr⟩ := restart_of_legible hl config
    rw [hr]
  unfold adopt
  split
  · exact hr
  · split
    · exact hr
    · rfl

theorem goesOn_of_error {fault : Fault} (h : ∀ what, fault ≠ .notModified what) :
    goesOn (.error fault : Except Fault NodeConfig) = (fault.isTransient || fault.isConfig) := by
  cases fault with
  | notModified what => exact absurd rfl (h what)
  | _ => rfl

/-- What cannot be gone on with is the result of the first half of a sync cycle. -/
theorem refresh_fst (hl : Legible n.roster.applied.values) :
    n.refresh.1 = if goesOn n.configFetch.1 then .ok () else n.configFetch.1.map fun _ => () := by
  have hroster := (listens_configFetch n).keeps.roster
  unfold refresh
  rw [configFetch] at hroster ⊢
  split
  · next config m hm =>
    rw [hm] at hroster ⊢
    exact adopt_fst (hroster ▸ hl) config
  · next what m hm => rw [hm]; rfl
  · next fault m hn hm =>
    rw [hm]
    dsimp only
    rw [goesOn_of_error fun what he => hn what he]
    cases fault.isTransient <;> cases fault.isConfig <;> rfl

/-- A sync cycle comes to its second half only if it can go on after the answer to its first
request. -/
theorem goesOn_of_refresh (h : n.refresh.1 = .ok ()) : goesOn n.configFetch.1 = true := by
  unfold refresh at h
  rw [configFetch]
  split at h
  · next config m hm => rw [hm]; rfl
  · next what m hm => rw [hm]; rfl
  · next fault m hn hm =>
    rw [hm, goesOn_of_error fun what he => hn what he]
    split at h
    · next ht => rw [ht]; rfl
    · split at h
      · next hc => rw [hc, Bool.or_true]
      · cases h

/-- Without a configuration that needs a restart a sync cycle begins with no more than a change of
the configuration, of which the cipher stays. -/
theorem refresh_mild (hc : n.roster.config = some config)
    (hmild : ∀ new, n.configFetch.1 = .ok new → new.requiresRestart config = false) :
    n.refresh.2.called = n.called
      ∧ ∃ new, new.cipher = config.cipher
        ∧ n.refresh.2.roster = { n.roster with config := some new } := by
  have hl := (listens_configFetch n).keeps
  have hsame : { n.roster with config := some config } = n.roster := by rw [← hc]
  unfold refresh
  rw [configFetch] at hmild hl
  split
  · next new m hm =>
    rw [hm] at hmild hl
    have hr := hmild new rfl
    have hmc : m.roster.config = some config := (congrArg Roster.config hl.roster).trans hc
    have ha : m.adopt new = (.ok (), m.configured new) := by
      rw [adopt, hmc]
      dsimp only
      rw [hr]
      rfl
    refine ⟨?_, new, (NodeConfig.requiresRestart_eq_false_iff.mp hr).2.1, ?_⟩
    · rw [ha]
      exact hl.called
    · rw [ha, ← hl.roster]
      rfl
  · next what m hm =>
    rw [hm] at hl
    have hk := hl.trans (listens_note m .configUnchanged).keeps
    exact ⟨hk.called, config, rfl, hk.roster.trans hsame.symm⟩
  · next fault m hn hm =>
    rw [hm] at hl
    have hnote {notice : Notice} (hs : notice.isSpoolFault = false) :=
      hl.trans (listens_note m notice hs).keeps
    split
    · exact ⟨(hnote rfl).called, config, rfl, (hnote rfl).roster.trans hsame.symm⟩
    · split
      · exact ⟨(hnote rfl).called, config, rfl, (hnote rfl).roster.trans hsame.symm⟩
      · exact ⟨hl.called, config, rfl, hl.roster.trans hsame.symm⟩

/-- A list that is yielded is gone on with. -/
theorem syncUsers_of_yields (hy : n.Yields users) :
    n.syncUsers = n.userFetch.2.useUsers users := by
  have hl := (listens_userFetch n).keeps
  unfold syncUsers
  rw [Yields, userFetch] at *
  rcases hy with hok | ⟨⟨what, hw⟩, hf⟩
  · split
    · next listed m hm =>
      rw [hm] at hok ⊢
      cases hok
      rfl
    · next what m hm =>
      rw [hm] at hok
      cases hok
    · next fault m _ hm =>
      rw [hm] at hok
      cases hok
  · split
    · next listed m hm =>
      rw [hm] at hw
      cases hw
    · next what m hm =>
      rw [hm] at hl ⊢
      dsimp only
      rw [hl.roster, hf]
    · next fault m hn hm =>
      rw [hm] at hw
      cases hw
      exact absurd rfl (hn what)

theorem useUsers_of_ne_nil (hc : n.roster.config = some config) (hne : users ≠ []) :
    n.useUsers users = (n.knowing users).reconcile config users := by
  unfold useUsers
  rw [if_neg (by simpa using hne)]
  dsimp only
  split
  · next hnone => exact absurd (hc.symm.trans hnone) nofun
  · next known hsome =>
    obtain rfl : config = known := Option.some.inj (hc.symm.trans hsome)
    rfl

/-- A sync cycle that goes on and gets a list reconciles the users with it. -/
theorem sync_of_yields (hb : n.roster.busy = false) (hok : n.refresh.1 = .ok ())
    (hy : n.refresh.2.Yields users) (hne : users ≠ [])
    (hc : n.refresh.2.roster.config = some config) :
    ∃ m, Listens n.refresh.2 m ∧ n.sync = (m.knowing users).reconcile config users := by
  have hl := listens_userFetch n.refresh.2
  refine ⟨_, hl, ?_⟩
  have hmc := (congrArg Roster.config hl.keeps.roster).trans hc
  have hrejected {fault : Fault} (hf : ((n.refresh.2.userFetch.2.knowing users).reconcile config
    users).1 = .error fault) := isRejected_of_reconcile hf
  unfold sync
  rw [hb]
  generalize n.refresh = r at hok hy hmc hrejected ⊢
  obtain ⟨result, m⟩ := r
  dsimp only at hok hy hmc hrejected ⊢
  rw [hok]
  dsimp only
  rw [syncUsers_of_yields hy, useUsers_of_ne_nil hmc hne]
  generalize (m.userFetch.2.knowing users).reconcile config users = x at hrejected
  obtain ⟨_ | ok, k⟩ := x
  · dsimp only
    rw [if_neg nofun, syncFailed, if_neg (by rw [hrejected rfl]; nofun)]
  · rfl

/-- A node that was started: it has a configuration, no cycle is under way, and its users are those
of its engine. -/
structure Ready (n : Node) : Prop where
  tended : n.Tended
  idle : n.roster.busy = false
  configured : n.roster.config.isSome = true

/-- The refresh of such a node goes well if the answer to its request can be gone on with. -/
theorem Ready.refresh_fst (hn : n.Ready) (hg : goesOn n.configFetch.1 = true) :
    n.refresh.1 = .ok () :=
  (Node.refresh_fst (Roster.InStep.backed hn.tended.inStep).legible).trans (if_pos hg)

/-- A sync cycle that is refused nothing makes the users the listed ones, if all their secrets have
bytes. -/
theorem converged_of_sync (hn : n.Ready) (hg : goesOn n.configFetch.1 = true)
    (hy : n.refresh.2.Yields users) (hne : users ≠ []) (hl : Legible users)
    (ha : Accepts n n.sync.2) : n.sync.1 = .ok true ∧ ∃ config, n.sync.2.Converged config users := by
  obtain ⟨config, hc⟩ := Option.isSome_iff_exists.mp ((syncs_refresh n).config hn.configured)
  obtain ⟨m, hm, hs⟩ := sync_of_yields hn.idle (hn.refresh_fst hg) hy hne hc
  have htended : (m.knowing users).Tended :=
    (hn.tended.refresh.keeps hm.keeps).of_eq rfl rfl rfl rfl rfl
  have hmc : (m.knowing users).roster.config = some config :=
    (congrArg Roster.config hm.keeps.roster).trans hc
  have hsyncs : Syncs n (m.knowing users) :=
    ((syncs_refresh n).trans hm.manages.syncs).trans (syncs_knowing m users)
  rw [hs] at ha ⊢
  obtain ⟨hok, hhandle, happlied⟩ := reconcile_accepted htended hmc hl (ha.right hsyncs)
  have hr := manages_reconcile (m.knowing users) config users
  exact ⟨hok, config, hr.config.trans hmc, hr.fetched, hhandle, happlied⟩

/-- The sync cycle that begins with `n` is broken off by the first of the users whose secret has no
bytes.  After the refresh it asks nothing of the engine and leaves the users as they are. -/
structure BreaksOff (n : Node) (users : List User) : Prop where
  fault : ∃ before u after why, users = before ++ u :: after ∧ Legible before
    ∧ u.secret.encode = .error why ∧ n.sync.1 = .error (.unexpected (.unencodable why))
  engine : n.sync.2.engine = n.refresh.2.engine
  called : n.sync.2.called = n.refresh.2.called
  roster : n.sync.2.roster = { n.refresh.2.roster with fetched := some users }

/-- One secret without bytes in a list breaks the sync cycle off that gets it. -/
theorem breaksOff_of_sync (hb : n.roster.busy = false) (hok : n.refresh.1 = .ok ())
    (hy : n.refresh.2.Yields users) (hc : n.refresh.2.roster.config = some config)
    (hl : ¬ Legible users) : n.BreaksOff users := by
  obtain ⟨before, u, after, rfl, hbefore, hu⟩ := exists_torn_of_not_legible hl
  obtain ⟨m, hm, hs⟩ := sync_of_yields hb hok hy (by simp) hc
  obtain ⟨k, hk, hr⟩ :=
    reconcile_of_torn (m.knowing (before ++ u :: after)) config after hbefore hu
  obtain ⟨why, hwhy, hfault⟩ := User.keyFault_of_torn config.cipher.keyLength hu
  have hroster : k.roster = { n.refresh.2.roster with fetched := some (before ++ u :: after) } := by
    rw [hk.keeps.roster, ← hm.keeps.roster]
    rfl
  rw [hr] at hs
  refine ⟨⟨before, u, after, why, rfl, hbefore, hwhy, ?_⟩, ?_, ?_, ?_⟩
  · rw [hs, hfault]
  · rw [hs]
    exact hk.keeps.engine.trans hm.keeps.engine
  · rw [hs]
    exact hk.keeps.called.trans hm.keeps.called
  · rw [hs]
    exact hroster

/-- A sync cycle with the same list and no new configuration that needs a restart asks nothing of
the engine. -/
theorem sync_unchanged (hn : n.Ready) (hconv : n.Converged config users)
    (hg : goesOn n.configFetch.1 = true)
    (hmild : ∀ new, n.configFetch.1 = .ok new → new.requiresRestart config = false)
    (hsame : n.refresh.2.userFetch.1 = .ok users
      ∨ ∃ what, n.refresh.2.userFetch.1 = .error (.notModified what)) (hne : users ≠ [])
    (hl : Legible users) : n.sync.1 = .ok true ∧ n.sync.2.called = n.called := by
  obtain ⟨hcalled, new, hcipher, hroster⟩ := refresh_mild hconv.configured hmild
  have hc : n.refresh.2.roster.config = some new := by rw [hroster]
  have hf : n.refresh.2.roster.fetched = some users := by
    rw [hroster]
    exact hconv.fetched
  have hy : n.refresh.2.Yields users := hsame.imp_right fun hw => ⟨hw, hf⟩
  obtain ⟨m, hm, hs⟩ := sync_of_yields hn.idle (hn.refresh_fst hg) hy hne hc
  have htended : (m.knowing users).Tended :=
    (hn.tended.refresh.keeps hm.keeps).of_eq rfl rfl rfl rfl rfl
  have hmr : m.roster = { n.roster with config := some new } := hm.keeps.roster.trans hroster
  have hmc : m.roster.config = some new := by rw [hmr]
  have hmh : m.roster.handle.isSome = true := by
    rw [hmr]
    exact hconv.handle
  have hma (j : Int) : m.roster.applied.get? j
      = (wanted new.cipher.keyLength users).get? j := by
    rw [hmr, hcipher]
    exact hconv.applied j
  obtain ⟨hok, hstill⟩ := reconcile_unchanged htended hmc hl hmh hma
  have hmcalled : (m.knowing users).called = n.called := hm.keeps.called.trans hcalled
  rw [hs]
  exact ⟨hok, hstill.trans hmcalled⟩

/-! ### After any history -/

/-- A start that succeeds leaves a configuration. -/
theorem configured_of_start (hs : n.start.1 = .ok true) :
    n.start.2.roster.config.isSome = true := by
  rcases start_cases n with ⟨fault, -, hr⟩ | ⟨-, m, hm, ⟨fault, hr⟩ | hr | ⟨config, users, hr⟩⟩
  · rw [hr] at hs
    cases hs
  · rw [hr] at hs
    cases hs
  · rw [hr] at hs
    cases hs
  · rw [hr] at hs ⊢
    obtain ⟨k, -, ⟨fault, -, hl⟩ | ⟨keyed, -, ⟨cause, l, -, hl⟩ | ⟨l, notice, -, -, hl⟩⟩⟩ :=
      launch_cases m config users
    · rw [hl] at hs
      cases hs
    · rw [hl] at hs
      cases hs
    · rw [hl]
      rfl

/-- Whatever happens to a node after a start that succeeded, it is ready for a sync cycle. -/
theorem ready_after (h : n.IsNew) (hstops : ∀ k handle, n.refuses k (.stop handle) = false)
    (before steps : List Step) (hs : (n.after before).start.1 = .ok true) :
    ((n.after before).start.2.after steps).Ready := by
  have ht := h.tended hstops
  have hb : n.roster.busy = false := by rw [h.roster]
  have hl := lasts_after (n.after before).start.2 steps
  have hbefore := ((lasts_after n before).trans (lasts_start _)).trans hl
  exact ⟨Tended.attends.after (Tended.attends.start (Tended.attends.after ht before)) steps,
    hbefore.busy.trans hb, hl.config (configured_of_start hs)⟩

theorem Ready.sync (h : n.Ready) : n.sync.2.Ready :=
  ⟨h.tended.sync, (syncs_sync n).busy.trans h.idle, (syncs_sync n).config h.configured⟩

/-- One secret without bytes breaks the cycle of such a node off. -/
theorem Ready.breaksOff (hn : n.Ready) (hg : goesOn n.configFetch.1 = true)
    (hy : n.refresh.2.Yields users) (hl : ¬ Legible users) : n.BreaksOff users := by
  obtain ⟨config, hc⟩ := Option.isSome_iff_exists.mp ((syncs_refresh n).config hn.configured)
  exact breaksOff_of_sync hn.idle (hn.refresh_fst hg) hy hc hl

/-- The engine of such a node runs and has its users registered with their keys. -/
theorem Ready.registered (h : n.Ready) (hconv : n.Converged config users) :
    n.engine.anyRunning = true
      ∧ ∀ id, n.engine.users.get? id = (n.roster.applied.get? id).map User.key := by
  obtain ⟨k, hk⟩ := Option.isSome_iff_exists.mp hconv.handle
  obtain ⟨i, config', hs⟩ := h.tended.inStep.serves hk
  exact ⟨Engine.anyRunning_of_check hs.check, hs.registered⟩

/-- Whatever went wrong since a node was started: a sync cycle that gets a list of users, all with
secrets that have bytes, and is refused nothing succeeds and makes the users of the node and of its
engine those of the list, with the keys of their last entries.  The next one with the same list
succeeds as well, and without a new configuration that needs a restart it asks nothing of the engine.
A secret without bytes breaks the cycle off instead, and the next one with that list too. -/
theorem sync_converges {n₀ : Node} (h : n₀.IsNew)
    (hstops : ∀ k handle, n₀.refuses k (.stop handle) = false) (before steps : List Step)
    (hs : (n₀.after before).start.1 = .ok true)
    (hn : n = (n₀.after before).start.2.after steps) (hg : goesOn n.configFetch.1 = true)
    (hy : n.refresh.2.Yields users) (hne : users ≠ []) (ha : Accepts n n.sync.2) :
    (Legible users → n.sync.1 = .ok true ∧ n.sync.2.engine.anyRunning = true
      ∧ ∃ config, n.sync.2.roster.config = some config
      ∧ (∀ id, (n.sync.2.roster.applied.get? id).map User.key
          = keyFor config.cipher.keyLength users id)
      ∧ (∀ id, n.sync.2.engine.users.get? id = keyFor config.cipher.keyLength users id)
      ∧ (goesOn n.sync.2.configFetch.1 = true
        → (∀ new, n.sync.2.configFetch.1 = .ok new → new.requiresRestart config = false)
        → (n.sync.2.refresh.2.userFetch.1 = .ok users
          ∨ ∃ what, n.sync.2.refresh.2.userFetch.1 = .error (.notModified what))
        → n.sync.2.sync.1 = .ok true ∧ n.sync.2.sync.2.called = n.sync.2.called))
    ∧ (¬ Legible users → n.BreaksOff users
      ∧ (goesOn n.sync.2.configFetch.1 = true → n.sync.2.refresh.2.Yields users
        → n.sync.2.BreaksOff users)) := by
  have hready : n.Ready := hn ▸ ready_after h hstops before steps hs
  refine ⟨fun hl => ?_, fun hl => ⟨hready.breaksOff hg hy hl,
    fun hg' hy' => hready.sync.breaksOff hg' hy' hl⟩⟩
  obtain ⟨hok, config, hconv⟩ := converged_of_sync hready hg hy hne hl ha
  have hkeys (id : Int) : (n.sync.2.roster.applied.get? id).map User.key
      = keyFor config.cipher.keyLength users id := by
    rw [hconv.applied, key_of_wanted]
  obtain ⟨hrunning, hregistered⟩ := hready.sync.registered hconv
  exact ⟨hok, hrunning, config, hconv.configured, hkeys,
    fun id => (hregistered id).trans (hkeys id),
    fun hg' hmild hsame => sync_unchanged hready.sync hconv hg' hmild hsame hne hl⟩

/-- After a start and a sync cycle the next cycle leaves the listed user registered. -/
theorem sync_converges_sample :
    ∃ config, (sample.start.2.after [.act .sync]).sync.2.roster.config = some config
      ∧ ∀ id, (sample.start.2.after [.act .sync]).sync.2.engine.users.get? id
        = keyFor config.cipher.keyLength [⟨1, "0123456789abcdef", []⟩] id := by
  have hr := ((lasts_start sample).trans (lasts_after _ [.act .sync])).refuses
  have hne : ([⟨1, "0123456789abcdef", []⟩] : List User) ≠ [] := by decide
  obtain ⟨hs, hg, hfetched⟩ :
      sample.start.1 = .ok true
      ∧ goesOn (sample.start.2.after [.act .sync]).configFetch.1 = true
      ∧ (sample.start.2.after [.act .sync]).refresh.2.userFetch.1
        = .ok [⟨1, "0123456789abcdef", []⟩] := by
    decide +kernel
  obtain ⟨hlegible, -⟩ := sync_converges (n := sample.start.2.after [.act .sync])
    isNew_sample (fun _ _ => rfl) [] [.act .sync] hs rfl hg (.inl hfetched) hne
    fun k c _ _ => congrFun (congrFun hr k) c
  obtain ⟨-, -, config, hc, -, hk, -⟩ := hlegible (by decide)
  exact ⟨config, hc, hk⟩

/-- The sample, whose panel lists two other users after the start, one with half of a surrogate pair
in its secret. -/
def sampleUnreadable : Node :=
  { sample with
    panel := { sample.panel with
      users := sample.panel.users ++ [{ answer := .response { text := "\x7b\"users\":["
        ++ "\x7b\"id\":3,\"uuid\":\"fedcba9876543210\"\x7d,"
        ++ "\x7b\"id\":2,\"uuid\":\"\\ud8000123456789abcdef\"\x7d]\x7d" } }] } }

/-- The secret of the other user is long enough, and nothing is refused.  The cycle does not succeed,
the other user gets no key, and whoever is no longer listed stays. -/
theorem sync_breaks_off :
    sampleUnreadable.start.1 = .ok true
      ∧ goesOn sampleUnreadable.start.2.configFetch.1 = true
      ∧ sampleUnreadable.start.2.refresh.2.Yields [⟨3, "fedcba9876543210", []⟩, sampleTorn]
      ∧ Accepts sampleUnreadable.start.2 sampleUnreadable.start.2.sync.2
      ∧ sampleUnreadable.start.2.sync.1 ≠ .ok true
      ∧ keyFor Cipher.aes128Gcm.keyLength [⟨3, "fedcba9876543210", []⟩, sampleTorn] 3 ≠ none
      ∧ sampleUnreadable.start.2.sync.2.engine.users.keys = [1] := by
  have hr := (lasts_start sampleUnreadable).refuses
  obtain ⟨hs, hg, hfetched, hbroken, hkeys⟩ :
      sampleUnreadable.start.1 = .ok true
      ∧ goesOn sampleUnreadable.start.2.configFetch.1 = true
      ∧ sampleUnreadable.start.2.refresh.2.userFetch.1
        = .ok [⟨3, "fedcba9876543210", []⟩, sampleTorn]
      ∧ sampleUnreadable.start.2.sync.1 ≠ .ok true
      ∧ sampleUnreadable.start.2.sync.2.engine.users.keys = [1] := by
    decide +kernel
  exact ⟨hs, hg, .inl hfetched, fun k c _ _ => congrFun (congrFun hr k) c, hbroken,
    by decide +kernel, hkeys⟩

end ProxyNode.Node
