import ProxyNode.Node.Sync
import ProxyNode.Proofs.Node.Books
import ProxyNode.Proofs.Retry
import ProxyNode.Proofs.Roster.Standing

/-!
# Node — Frames

What an operation leaves alone, as relations between a node and the same node later: nothing but
counting happened to its traffic (`Counts`), nothing happened to its users and its engine
(`KeepsRoster`), or both (`Listens`); the node worked on its engine (`Manages`), or did what a sync
cycle does (`Syncs`).  Each holds of a chain if it holds of the links.

* `listens_ask`, `listens_retrying`: waiting and asking do no more than count, unless the panel
  acknowledges a report.
* `Operates`: what is kept by all work on the engine, of which `Manages` is an instance.
* `settle`, `reconcile_cases`: keys for the users of a list, and what is done with them.
* `manages_reconcile`: work on the engine changes neither the configuration nor the fetched list.
* `Settles`, `Cycles`: what is kept by a sync cycle, by its parts.
* `syncs_sync`: a sync cycle does to the traffic no more than count.
-/

namespace ProxyNode.Node

/-- From `n` to `n'` the journal has only grown. -/
def Grows (n n' : Node) : Prop := n.journal <:+ n'.journal

/-- From `n` to `n'` nothing but counting happened to the traffic. -/
structure Counts (n n' : Node) : Prop where
  grows : Grows n n'
  spool : n'.ledger.spool = n.ledger.spool
  owed : n'.ledger.owed = n.ledger.owed
  reported : n'.ledger.reported = n.ledger.reported
  counted : ∃ deltas : List Delta,
    n'.ledger.accumulator = deltas.foldl Accumulator.record n.ledger.accumulator
    ∧ n'.booked = deltas.reverse.map Event.counted ++ n.booked

/-- The calls of a node to its engine, the latest first, with the reasons of the refusals. -/
def called (n : Node) : List (Engine.Call × Option EngineCause) :=
  n.journal.filterMap fun
    | .called c refusal => some (c, refusal)
    | _ => none

/-- From `n` to `n'` nothing happened to the users and the engine. -/
structure KeepsRoster (n n' : Node) : Prop where
  phase : n'.phase = n.phase
  roster : n'.roster = n.roster
  engine : n'.engine = n.engine
  refuses : n'.refuses = n.refuses
  calls : n'.calls = n.calls
  called : n'.called = n.called

/-- From `n` to `n'` nothing happened but counting. -/
structure Listens (n n' : Node) : Prop where
  keeps : KeepsRoster n n'
  counts : Counts n n'

section Chains

variable {n n₁ n₂ n₃ : Node}

theorem Grows.refl (n : Node) : Grows n n := List.suffix_refl _

theorem Grows.trans (h : Grows n₁ n₂) (h' : Grows n₂ n₃) : Grows n₁ n₃ := List.IsSuffix.trans h h'

theorem Grows.of_eq (hj : n₂.journal = n₁.journal) : Grows n₁ n₂ := ⟨[], hj.symm⟩

theorem Grows.of_log {e : Event} (hj : n₂.journal = e :: n₁.journal) : Grows n₁ n₂ :=
  ⟨[e], hj.symm⟩

theorem booked_of_log {e : Event} (h : e.isBooked = false) (hj : n₂.journal = e :: n₁.journal) :
    n₂.booked = n₁.booked := by
  rw [booked, booked, hj]
  exact List.filter_cons_of_neg (Bool.eq_false_iff.mp h)

theorem Counts.of_eq (hl : n₂.ledger = n₁.ledger) (hj : n₂.journal = n₁.journal) :
    Counts n₁ n₂ :=
  ⟨.of_eq hj, congrArg Ledger.spool hl, congrArg Ledger.owed hl, congrArg Ledger.reported hl, [],
    congrArg Ledger.accumulator hl, congrArg (List.filter Event.isBooked) hj⟩

/-- An event that does not matter to the books counts nothing. -/
theorem Counts.of_log {e : Event} (hl : n₂.ledger = n₁.ledger) (h : e.isBooked = false)
    (hj : n₂.journal = e :: n₁.journal) : Counts n₁ n₂ :=
  ⟨.of_log hj, congrArg Ledger.spool hl, congrArg Ledger.owed hl, congrArg Ledger.reported hl, [],
    congrArg Ledger.accumulator hl, booked_of_log h hj⟩

theorem Counts.refl (n : Node) : Counts n n := of_eq rfl rfl

theorem Counts.trans (h : Counts n₁ n₂) (h' : Counts n₂ n₃) : Counts n₁ n₃ := by
  obtain ⟨l, ha, hb⟩ := h.counted
  obtain ⟨l', ha', hb'⟩ := h'.counted
  refine ⟨h.grows.trans h'.grows, h'.spool.trans h.spool, h'.owed.trans h.owed,
    h'.reported.trans h.reported, l ++ l', ?_, ?_⟩
  · rw [ha', ha, List.foldl_append]
  · rw [hb', hb, List.reverse_append, List.map_append, List.append_assoc]

theorem KeepsRoster.refl (n : Node) : KeepsRoster n n := ⟨rfl, rfl, rfl, rfl, rfl, rfl⟩

theorem KeepsRoster.trans (h : KeepsRoster n₁ n₂) (h' : KeepsRoster n₂ n₃) : KeepsRoster n₁ n₃ :=
  ⟨h'.phase.trans h.phase, h'.roster.trans h.roster, h'.engine.trans h.engine,
    h'.refuses.trans h.refuses, h'.calls.trans h.calls, h'.called.trans h.called⟩

theorem Listens.refl (n : Node) : Listens n n := ⟨.refl n, .refl n⟩

theorem Listens.trans (h : Listens n₁ n₂) (h' : Listens n₂ n₃) : Listens n₁ n₃ :=
  ⟨h.keeps.trans h'.keeps, h.counts.trans h'.counts⟩

theorem Listens.foldl {α : Type} {f : Node → α → Node} (h : ∀ n a, Listens n (f n a))
    (n : Node) (l : List α) : Listens n (l.foldl f n) := by
  induction l generalizing n with
  | nil => exact .refl n
  | cons a rest ih => exact (h n a).trans (ih (f n a))

end Chains

/-! ### Single steps -/

theorem listens_note (n : Node) (notice : Notice)
    (h : notice.isSpoolFault = false := by rfl) : Listens n (n.note notice) :=
  ⟨⟨rfl, rfl, rfl, rfl, rfl, rfl⟩, .of_log (e := .noted notice) rfl h rfl⟩

theorem listens_raise (n : Node) : Listens n n.raise := by
  unfold raise
  split
  · exact .refl n
  · exact ⟨⟨rfl, rfl, rfl, rfl, rfl, rfl⟩, .of_log (e := .stopRaised) rfl rfl rfl⟩

theorem listens_wait (n : Node) (seconds : Float) : Listens n (n.wait seconds).2 := by
  unfold wait
  split
  · have hw : Listens n { n with
        stop := { n.stop with patience := n.stop.patience - 1 }
        journal := .waited seconds :: n.journal } :=
      ⟨⟨rfl, rfl, rfl, rfl, rfl, rfl⟩, .of_log (e := .waited seconds) rfl rfl rfl⟩
    dsimp only
    split
    · exact hw.trans (listens_raise _)
    · exact hw
  · exact .refl n

theorem listens_count (n : Node) (d : Delta) : Listens n (n.count d) :=
  ⟨⟨rfl, rfl, rfl, rfl, rfl, rfl⟩, .of_log (e := .counted d) rfl, rfl, rfl, rfl, [d], rfl, rfl⟩

theorem listens_emit (n : Node) (d : Delta) : Listens n (n.emit d) :=
  Listens.foldl (f := fun n (e : String × Delta) => n.count e.2)
    (fun n e => listens_count n e.2) n (n.engine.emit d)

/-! ### Requests -/

/-- The request that a node sends. -/
def sent (n : Node) (e : Panel.Endpoint) (timeout : Option Float)
    (body : Option (OrderedMap String Amount)) : Event :=
  .asked (n.client.request e timeout body) (n.panel.next e).1

/-- A request does no more than count once it is in the journal. -/
theorem listens_ask_from (n : Node) (e : Panel.Endpoint) (timeout : Option Float)
    (body : Option (OrderedMap String Amount)) :
    Listens { n.log (n.sent e timeout body) with panel := (n.panel.next e).2 }
      (n.ask e timeout body).2 := by
  have hc := Listens.foldl listens_emit
    { n.log (n.sent e timeout body) with panel := (n.panel.next e).2 } (n.panel.next e).1.counted
  unfold ask
  dsimp only
  split
  · exact hc.trans (listens_raise _)
  · exact hc

/-- A request that is not an acknowledged report does no more than count. -/
theorem listens_ask {n : Node} {e : Panel.Endpoint} {timeout : Option Float}
    {body : Option (OrderedMap String Amount)}
    (h : (n.sent e timeout body).isBooked = false) : Listens n (n.ask e timeout body).2 := by
  have hs : Listens n { n.log (n.sent e timeout body) with panel := (n.panel.next e).2 } :=
    ⟨⟨rfl, rfl, rfl, rfl, rfl, rfl⟩, .of_log rfl h rfl⟩
  exact hs.trans (listens_ask_from n e timeout body)

theorem listens_client (n : Node) (c : Panel.Client) : Listens n { n with client := c } :=
  ⟨⟨rfl, rfl, rfl, rfl, rfl, rfl⟩, .of_eq rfl rfl⟩

theorem listens_fetchConfig (n : Node) : Listens n n.fetchConfig.2 := by
  have ha : Listens n (n.ask .config none none).2 := listens_ask rfl
  exact ha.trans (listens_client _ _)

theorem listens_fetchUsers (n : Node) : Listens n n.fetchUsers.2 := by
  have ha : Listens n (n.ask .users none none).2 := listens_ask rfl
  exact (ha.trans (listens_client _ _)).trans
    (.foldl (fun n item => listens_note n (.malformedUser item)) _ _)

/-- Calls that are tried again do no more than count if each try does no more. -/
theorem listens_retrying {α : Type} {attempt : Node → Except Fault α × Node}
    (h : ∀ n, Listens n (attempt n).2) (n : Node) (policy : Retry) (errand : String) :
    Listens n (n.retrying policy errand attempt).2 := by
  refine Retry.run_keeps (P := Listens n) (fun s hs => hs.trans (h s))
    (fun fault delay s hs => ?_) (.refl n)
  have hn := hs.trans (listens_note s (.retrying errand fault delay))
  exact waitFor_keeps hn (hn.trans (listens_wait _ delay))

/-! ### Work on the engine -/

/-- What is kept by all work on the engine: by notices, by calls, and by changes of the users that are
registered, of the handle and of the outcome. -/
structure Operates (P : Node → Prop) : Prop where
  note : ∀ {n} notice, notice.isSpoolFault = false → P n → P (n.note notice)
  call : ∀ {n} c, P n → P (n.call c).2
  roster : ∀ {n} r, r.config = n.roster.config → r.fetched = n.roster.fetched →
    r.busy = n.roster.busy → P n → P { n with roster := r }

namespace Operates

variable {P : Node → Prop} {n : Node}

theorem release (hp : Operates P) (h : P n) : P n.release := hp.roster _ rfl rfl rfl h

theorem synced (hp : Operates P) (h : P n) (ok : Bool) (message : String) :
    P (n.synced ok message) :=
  hp.roster _ rfl rfl rfl h

theorem stopEngine (hp : Operates P) (h : P n) : P n.stopEngine := by
  unfold Node.stopEngine
  split
  · exact h
  · next k _ =>
    have hc := hp.call (.stop k) h
    split
    · next cause m hm =>
      rw [hm] at hc
      exact hp.release (hp.note _ rfl hc)
    · next m hm =>
      rw [hm] at hc
      exact hp.release hc

theorem startEngine (hp : Operates P) (h : P n) (config : NodeConfig)
    (users : OrderedMap Int User) : P (n.startEngine config users).2 := by
  have hc := hp.call (.start config users.values) h
  unfold Node.startEngine
  split
  · next cause m hm =>
    rw [hm] at hc
    exact hp.release (hp.note _ rfl hc)
  · next m hm =>
    rw [hm] at hc
    exact hp.note _ rfl
      (hp.roster { m.roster with handle := m.engine.latest, applied := users } rfl rfl rfl hc)

theorem keyUsers (hp : Operates P) (h : P n) (config : NodeConfig) (users : List User) :
    P (n.keyUsers config users).2 := by
  unfold Node.keyUsers
  dsimp only
  generalize (keySome config.cipher.keyLength users).skipped = skipped
  induction skipped generalizing n with
  | nil => exact h
  | cons s rest ih => exact ih (hp.note _ rfl h)

theorem removeAll (hp : Operates P) (h : P n) (k : Engine.Handle) (ids : List Int) :
    P (n.removeAll k ids).2 := by
  induction ids generalizing n with
  | nil => exact h
  | cons id rest ih =>
      have hc := hp.call (.remove k id) h
      unfold Node.removeAll
      split
      · next cause m hm =>
        rw [hm] at hc
        exact ih (hp.note _ rfl hc)
      · next m hm =>
        rw [hm] at hc
        exact ih (hp.roster _ rfl rfl rfl hc)

theorem addAll (hp : Operates P) (h : P n) (k : Engine.Handle) (kept : List Int)
    (users : List User) : P (n.addAll k kept users).2.2 := by
  induction users generalizing n with
  | nil => exact h
  | cons u rest ih =>
      have hc := hp.call (.add k u.id u.key) h
      unfold Node.addAll
      split
      · exact ih h
      · split
        · next cause m hm =>
          rw [hm] at hc
          exact ih (hp.note _ rfl hc)
        · next m hm =>
          rw [hm] at hc
          exact ih (hp.roster _ rfl rfl rfl hc)

theorem apply (hp : Operates P) (h : P n) (k : Engine.Handle) (d : Diff) : P (n.apply k d).2 :=
  hp.note _ rfl (hp.addAll (hp.removeAll h k d.remove) k _ d.add)

theorem reconcile (hp : Operates P) (h : P n) (config : NodeConfig) (users : List User) :
    P (n.reconcile config users).2 := by
  have hk := hp.keyUsers h config users
  unfold Node.reconcile
  split
  · next fault m hm => rw [hm] at hk; exact hk
  · next keyed m hm =>
    rw [hm] at hk
    split
    · have hs := hp.startEngine hk config keyed
      split
      · next m hm =>
        rw [hm] at hs
        exact hp.synced hs _ _
      · next m hm =>
        rw [hm] at hs
        exact hp.synced hs _ _
    · dsimp only
      split
      · exact hp.synced (hp.note _ rfl hk) _ _
      · exact hp.synced (hp.apply hk _ _) _ _

end Operates

/-- From `n` to `n'` the node did no more than count, and work on its engine and the users that are
registered with it. -/
structure Manages (n n' : Node) : Prop where
  counts : Counts n n'
  phase : n'.phase = n.phase
  refuses : n'.refuses = n.refuses
  calls : n.calls ≤ n'.calls
  config : n'.roster.config = n.roster.config
  fetched : n'.roster.fetched = n.roster.fetched
  busy : n'.roster.busy = n.roster.busy

theorem Manages.trans {n₁ n₂ n₃ : Node} (h : Manages n₁ n₂) (h' : Manages n₂ n₃) :
    Manages n₁ n₃ :=
  ⟨h.counts.trans h'.counts, h'.phase.trans h.phase, h'.refuses.trans h.refuses,
    Nat.le_trans h.calls h'.calls, h'.config.trans h.config, h'.fetched.trans h.fetched,
    h'.busy.trans h.busy⟩

theorem Listens.manages {n n' : Node} (h : Listens n n') : Manages n n' :=
  ⟨h.counts, h.keeps.phase, h.keeps.refuses, Nat.le_of_eq h.keeps.calls.symm,
    congrArg Roster.config h.keeps.roster, congrArg Roster.fetched h.keeps.roster,
    congrArg Roster.busy h.keeps.roster⟩

theorem Manages.refl (n : Node) : Manages n n := (Listens.refl n).manages

theorem manages_note (n : Node) (notice : Notice)
    (h : notice.isSpoolFault = false := by rfl) : Manages n (n.note notice) :=
  (listens_note n notice h).manages

theorem manages_call (n : Node) (c : Engine.Call) : Manages n (n.call c).2 := by
  unfold call
  dsimp only
  split
  · next cause _ =>
    exact ⟨.of_log (e := .called c (some cause)) rfl rfl rfl, rfl, rfl, Nat.le_succ _, rfl, rfl,
      rfl⟩
  · exact ⟨.of_log (e := .called c none) rfl rfl rfl, rfl, rfl, Nat.le_succ _, rfl, rfl, rfl⟩

/-- Work on the engine is managing. -/
theorem operates_manages (n : Node) : Operates (Manages n) where
  note notice hn h := h.trans (manages_note _ notice hn)
  call c h := h.trans (manages_call _ c)
  roster _ hc hf hb h := h.trans ⟨.of_eq rfl rfl, rfl, rfl, Nat.le_refl _, hc, hf, hb⟩

theorem manages_synced (n : Node) (ok : Bool) (message : String) :
    Manages n (n.synced ok message) :=
  (operates_manages n).synced (.refl n) ok message

theorem manages_attach (n : Node) : Manages n n.attach := by
  unfold attach
  split
  · exact .refl n
  · exact ⟨.of_eq rfl rfl, rfl, rfl, Nat.le_refl _, rfl, rfl, rfl⟩

theorem manages_stopEngine (n : Node) : Manages n n.stopEngine :=
  (operates_manages n).stopEngine (.refl n)

theorem manages_startEngine (n : Node) (config : NodeConfig) (users : OrderedMap Int User) :
    Manages n (n.startEngine config users).2 :=
  (operates_manages n).startEngine (.refl n) config users

theorem listens_keyUsers (n : Node) (config : NodeConfig) (users : List User) :
    Listens n (n.keyUsers config users).2 :=
  Listens.foldl (f := fun n (s : Int × Fault) => n.note (.userSkipped s.1 s.2))
    (fun n s => listens_note n (.userSkipped s.1 s.2)) n _

/-- A restart stops the engine, takes the configuration on and gives the users new keys; then it is
broken off, or the engine is started with the users that have one. -/
theorem restart_cases (n : Node) (config : NodeConfig) :
    ∃ m, Listens ((n.note (.configChanged config.port config.cipher)).stopEngine.configured config) m
      ∧ ((∃ fault, (keySome config.cipher.keyLength n.roster.applied.values).result = .error fault
          ∧ n.restart config = (.error fault, m))
        ∨ ∃ keyed, (keySome config.cipher.keyLength n.roster.applied.values).result = .ok keyed
          ∧ n.restart config = (.ok (), (m.startEngine config keyed).2)) := by
  refine ⟨_, listens_keyUsers _ config n.roster.applied.values, ?_⟩
  unfold restart keyUsers
  dsimp only
  cases (keySome config.cipher.keyLength n.roster.applied.values).result with
  | error fault => exact .inl ⟨fault, rfl, rfl⟩
  | ok keyed => exact .inr ⟨keyed, rfl, rfl⟩

/-- A restart is not broken off if the secrets of all users have bytes. -/
theorem restart_of_legible {n : Node} (hl : Legible n.roster.applied.values) (config : NodeConfig) :
    ∃ m, Listens ((n.note (.configChanged config.port config.cipher)).stopEngine.configured config) m
      ∧ n.restart config = (.ok (), (m.startEngine config
        (wanted config.cipher.keyLength n.roster.applied.values)).2) := by
  have hw := result_of_legible config.cipher.keyLength_pos hl
  obtain ⟨m, hm, ⟨fault, hf, -⟩ | ⟨keyed, hk, hr⟩⟩ := restart_cases n config
  · cases hw.symm.trans hf
  · cases hw.symm.trans hk
    exact ⟨m, hm, hr⟩

/-- What a node does with users that have keys. -/
def settle (n : Node) (config : NodeConfig) (keyed : OrderedMap Int User) : Bool × Node :=
  match n.roster.handle with
  | none =>
    match n.startEngine config keyed with
    | (true, n) => (true, n.synced true "engine restarted")
    | (false, n) => (false, n.synced false "engine start failed")
  | some h =>
    let d := Diff.between n.roster.applied keyed.values
    if d.isEmpty then
      (true, (n.note (.usersUnchanged n.roster.applied.size)).synced true "unchanged")
    else
      let (ok, n) := n.apply h d
      (ok, n.synced ok s!"-{d.remove.length} +{d.add.length}")

/-- The node starts its engine with the users, or finds that nothing changed, or applies what
changed. -/
theorem settle_cases (n : Node) (config : NodeConfig) (keyed : OrderedMap Int User) :
    (n.roster.handle = none ∧ ∃ message,
      n.settle config keyed = ((n.startEngine config keyed).1,
        (n.startEngine config keyed).2.synced (n.startEngine config keyed).1 message))
    ∨ ∃ h, n.roster.handle = some h
      ∧ (((Diff.between n.roster.applied keyed.values).isEmpty = true
          ∧ n.settle config keyed
            = (true, (n.note (.usersUnchanged n.roster.applied.size)).synced true "unchanged"))
        ∨ (Diff.between n.roster.applied keyed.values).isEmpty = false ∧ ∃ message,
          n.settle config keyed
            = ((n.apply h (Diff.between n.roster.applied keyed.values)).1,
              (n.apply h (Diff.between n.roster.applied keyed.values)).2.synced
                (n.apply h (Diff.between n.roster.applied keyed.values)).1 message)) := by
  unfold settle
  cases hh : n.roster.handle with
  | none =>
      refine .inl ⟨rfl, ?_⟩
      rcases n.startEngine config keyed with ⟨_ | _, m⟩ <;> exact ⟨_, rfl⟩
  | some h =>
      refine .inr ⟨h, rfl, ?_⟩
      dsimp only
      cases hd : (Diff.between n.roster.applied keyed.values).isEmpty with
      | true => exact .inl ⟨rfl, rfl⟩
      | false => exact .inr ⟨rfl, _, rfl⟩

/-- How a node goes on with the users that have keys, unless their keying was broken off. -/
def afterKeys (config : NodeConfig) :
    Except Fault (OrderedMap Int User) × Node → Except Fault Bool × Node
  | (.error fault, n) => (.error fault, n)
  | (.ok keyed, n) => (.ok (n.settle config keyed).1, (n.settle config keyed).2)

theorem reconcile_eq (n : Node) (config : NodeConfig) (users : List User) :
    n.reconcile config users = afterKeys config (n.keyUsers config users) := by
  unfold reconcile afterKeys settle
  rcases n.keyUsers config users with ⟨_ | keyed, m⟩
  · rfl
  · dsimp only
    cases m.roster.handle with
    | none => rcases m.startEngine config keyed with ⟨_ | _, k⟩ <;> rfl
    | some h => cases (Diff.between m.roster.applied keyed.values).isEmpty <;> simp

/-- What a node does with a list of users: for want of a key it breaks off, or it goes on with the
users that have one. -/
theorem reconcile_cases (n : Node) (config : NodeConfig) (users : List User) :
    ∃ m, Listens n m
      ∧ ((∃ fault, (keySome config.cipher.keyLength users).result = .error fault
          ∧ n.reconcile config users = (.error fault, m))
        ∨ ∃ keyed, (keySome config.cipher.keyLength users).result = .ok keyed
          ∧ n.reconcile config users
            = (.ok (m.settle config keyed).1, (m.settle config keyed).2)) := by
  refine ⟨_, listens_keyUsers n config users, ?_⟩
  rw [reconcile_eq, keyUsers]
  dsimp only
  cases (keySome config.cipher.keyLength users).result with
  | error fault => exact .inl ⟨fault, rfl, rfl⟩
  | ok keyed => exact .inr ⟨keyed, rfl, rfl⟩

/-- A node does not break off if the secrets of a list have bytes. -/
theorem reconcile_of_legible (n : Node) (config : NodeConfig) {users : List User}
    (hl : Legible users) : ∃ m, Listens n m ∧ n.reconcile config users
      = (.ok (m.settle config (wanted config.cipher.keyLength users)).1,
        (m.settle config (wanted config.cipher.keyLength users)).2) := by
  have hw := result_of_legible config.cipher.keyLength_pos hl
  obtain ⟨m, hm, ⟨fault, hf, -⟩ | ⟨keyed, hk, hr⟩⟩ := reconcile_cases n config users
  · cases hw.symm.trans hf
  · cases hw.symm.trans hk
    exact ⟨m, hm, hr⟩

theorem manages_removeAll (n : Node) (h : Engine.Handle) (ids : List Int) :
    Manages n (n.removeAll h ids).2 :=
  (operates_manages n).removeAll (.refl n) h ids

theorem manages_addAll (n : Node) (h : Engine.Handle) (kept : List Int) (users : List User) :
    Manages n (n.addAll h kept users).2.2 :=
  (operates_manages n).addAll (.refl n) h kept users

theorem manages_apply (n : Node) (h : Engine.Handle) (d : Diff) : Manages n (n.apply h d).2 :=
  (operates_manages n).apply (.refl n) h d

theorem manages_reconcile (n : Node) (config : NodeConfig) (users : List User) :
    Manages n (n.reconcile config users).2 :=
  (operates_manages n).reconcile (.refl n) config users

/-! ### The sync cycle -/

/-- What is kept by what a sync cycle makes of the answers: by notices, by a note of the last list and
of the outcome, and by what is done with a configuration and with a list. -/
structure Settles (P : Node → Prop) : Prop where
  note : ∀ {n} notice, notice.isSpoolFault = false → P n → P (n.note notice)
  roster : ∀ {n} r, r.handle = n.roster.handle → r.config = n.roster.config →
    r.applied = n.roster.applied → r.busy = n.roster.busy → P n → P { n with roster := r }
  adopt : ∀ {n} config, P n → P (n.adopt config).2
  reconcile : ∀ {n config} users, n.roster.config = some config → P n →
    P (n.reconcile config users).2

/-- What is kept by a sync cycle: by both requests, and by what is made of the answers. -/
structure Cycles (P : Node → Prop) : Prop extends Settles P where
  config : ∀ {n}, P n → P (n.retrying n.plan.retry Panel.Endpoint.config.errand fetchConfig).2
  users : ∀ {n}, P n → P (n.retrying n.plan.retry Panel.Endpoint.users.errand fetchUsers).2

namespace Settles

variable {P : Node → Prop} {n : Node}

theorem synced (hp : Settles P) (h : P n) (ok : Bool) (message : String) :
    P (n.synced ok message) :=
  hp.roster _ rfl rfl rfl rfl h

theorem useUsers (hp : Settles P) (h : P n) (users : List User) : P (n.useUsers users).2 := by
  have hf : P { n with roster := { n.roster with fetched := some users } } :=
    hp.roster _ rfl rfl rfl rfl h
  unfold Node.useUsers
  split
  · exact hp.synced (hp.note _ rfl h) _ _
  · dsimp only
    split
    · exact hf
    · next config hc => exact hp.reconcile users hc hf

theorem syncFailed (hp : Settles P) (h : P n) (fault : Fault) : P (n.syncFailed fault) := by
  unfold Node.syncFailed
  split
  · exact hp.synced h _ _
  · exact h

end Settles

namespace Cycles

variable {P : Node → Prop} {n : Node}

theorem refresh (hp : Cycles P) (h : P n) : P n.refresh.2 := by
  have hr := hp.config h
  unfold Node.refresh
  split
  · next config m hm => rw [hm] at hr; exact hp.adopt config hr
  · next what m hm => rw [hm] at hr; exact hp.note _ rfl hr
  · next fault m _ hm =>
    rw [hm] at hr
    split
    · exact hp.note _ rfl hr
    · split
      · exact hp.note _ rfl hr
      · exact hr

theorem syncUsers (hp : Cycles P) (h : P n) : P n.syncUsers.2 := by
  have hr := hp.users h
  unfold Node.syncUsers
  split
  · next users m hm => rw [hm] at hr; exact hp.useUsers hr users
  · next what m hm =>
    rw [hm] at hr
    split
    · exact hr
    · exact hp.useUsers hr _
  · next fault m _ hm =>
    rw [hm] at hr
    split
    · exact hp.synced (hp.note _ rfl hr) _ _
    · exact hr

theorem sync (hp : Cycles P) (h : P n) : P n.sync.2 := by
  unfold Node.sync
  split
  · exact hp.note _ rfl h
  · have hr := hp.refresh h
    split
    · next fault m hm => rw [hm] at hr; exact hp.syncFailed hr fault
    · next m hm =>
      rw [hm] at hr
      have hu := hp.syncUsers hr
      split
      · next fault k hk => rw [hk] at hu; exact hp.syncFailed hu fault
      · next ok k hk => rw [hk] at hu; exact hu

end Cycles

/-- From `n` to `n'` the node did no more than a sync cycle may do. -/
structure Syncs (n n' : Node) : Prop where
  counts : Counts n n'
  phase : n'.phase = n.phase
  refuses : n'.refuses = n.refuses
  calls : n.calls ≤ n'.calls
  config : n.roster.config.isSome → n'.roster.config.isSome
  busy : n'.roster.busy = n.roster.busy

theorem Syncs.trans {n₁ n₂ n₃ : Node} (h : Syncs n₁ n₂) (h' : Syncs n₂ n₃) : Syncs n₁ n₃ :=
  ⟨h.counts.trans h'.counts, h'.phase.trans h.phase, h'.refuses.trans h.refuses,
    Nat.le_trans h.calls h'.calls, fun hc => h'.config (h.config hc), h'.busy.trans h.busy⟩

theorem Manages.syncs {n n' : Node} (h : Manages n n') : Syncs n n' :=
  ⟨h.counts, h.phase, h.refuses, h.calls, fun hc => h.config ▸ hc, h.busy⟩

theorem Syncs.refl (n : Node) : Syncs n n := (Manages.refl n).syncs

theorem syncs_configured (n : Node) (config : NodeConfig) : Syncs n (n.configured config) :=
  ⟨.of_eq rfl rfl, rfl, rfl, Nat.le_refl _, fun _ => rfl, rfl⟩

theorem syncs_restart (n : Node) (config : NodeConfig) : Syncs n (n.restart config).2 := by
  have hn := manages_note n (.configChanged config.port config.cipher)
  have hs := (hn.trans (manages_stopEngine _)).syncs.trans (syncs_configured _ config)
  obtain ⟨m, hm, ⟨fault, -, hr⟩ | ⟨keyed, -, hr⟩⟩ := restart_cases n config
  · rw [hr]
    exact hs.trans hm.manages.syncs
  · rw [hr]
    exact (hs.trans hm.manages.syncs).trans (manages_startEngine m config keyed).syncs

theorem syncs_adopt (n : Node) (config : NodeConfig) : Syncs n (n.adopt config).2 := by
  unfold adopt
  split
  · exact syncs_restart n config
  · split
    · exact syncs_restart n config
    · exact syncs_configured n config

/-- The node that takes a list for the last one. -/
def knowing (n : Node) (users : List User) : Node :=
  { n with roster := { n.roster with fetched := some users } }

theorem syncs_knowing (n : Node) (users : List User) : Syncs n (n.knowing users) :=
  ⟨.of_eq rfl rfl, rfl, rfl, Nat.le_refl _, id, rfl⟩

theorem cycles_syncs (n : Node) : Cycles (Syncs n) where
  config h := h.trans (listens_retrying listens_fetchConfig _ _ _).manages.syncs
  users h := h.trans (listens_retrying listens_fetchUsers _ _ _).manages.syncs
  note notice hn h := h.trans (manages_note _ notice hn).syncs
  roster _ _ hc _ hb h :=
    h.trans ⟨.of_eq rfl rfl, rfl, rfl, Nat.le_refl _, fun hs => hc ▸ hs, hb⟩
  adopt config h := h.trans (syncs_adopt _ config)
  reconcile {_ config} users _ h := h.trans (manages_reconcile _ config users).syncs

theorem syncs_refresh (n : Node) : Syncs n n.refresh.2 := (cycles_syncs n).refresh (.refl n)

/-- A sync cycle does to the traffic no more than count. -/
theorem syncs_sync (n : Node) : Syncs n n.sync.2 := (cycles_syncs n).sync (.refl n)

end ProxyNode.Node
