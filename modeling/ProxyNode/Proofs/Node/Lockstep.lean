import ProxyNode.Proofs.Node.Halves
import ProxyNode.Proofs.Node.Likeness

/-!
# Node — Lockstep, alike nodes go on alike

A sync cycle of two nodes that differ in nothing but what a likeness allows has the same result on
both and leaves them so, if none of them is told to stop for want of patience.

* `Matches.reconcile`: so does all work on the engine, which knows no patience.
* `Matches.refresh`, `Matches.syncUsers`: the two halves of a sync cycle.
* `Matches.sync`: the cycle.
-/

namespace ProxyNode.Node.Matches

variable {L : Likeness} {past past' : List Event} {a b : Node}

/-! ### Work on the engine -/

theorem synced (h : Matches L past past' a b) (ok : Bool) (message : String) :
    Matches L past past' (a.synced ok message) (b.synced ok message) :=
  h.withRoster { h.roster with lastSync := rfl }

theorem release (h : Matches L past past' a b) : Matches L past past' a.release b.release :=
  h.withRoster (h.roster.hold none OrderedMap.matches_empty)

theorem configured (h : Matches L past past' a b) (config : NodeConfig) :
    Matches L past past' (a.configured config) (b.configured config) :=
  h.withRoster { h.roster with config := rfl }

theorem stopEngine (h : Matches L past past' a b) :
    Matches L past past' a.stopEngine b.stopEngine := by
  unfold Node.stopEngine
  rw [h.roster.handle]
  split
  · exact h
  · next k _ =>
    obtain ⟨refusal, m, m', hx, hy, hm⟩ := (h.call (.stop k)).exists
    rw [hx, hy]
    cases refusal with
    | none => exact hm.release
    | some cause => exact (hm.note _).release

theorem startEngine (h : Matches L past past' a b) (config : NodeConfig)
    {users users' : OrderedMap Int User} (hu : Table.Matches L.toGuise users users') :
    Agrees Eq (Matches L past past') (a.startEngine config users)
      (b.startEngine config users') := by
  obtain ⟨refusal, m, m', hx, hy, hm⟩ := (h.call (.start config hu.values)).exists
  unfold Node.startEngine
  rw [hx, hy]
  cases refusal with
  | none =>
      refine ⟨rfl, ?_⟩
      dsimp only
      rw [hm.engine.latest, hu.size]
      exact (hm.withRoster (hm.roster.hold m.engine.latest hu)).note _
  | some cause => exact ⟨rfl, (hm.note _).release⟩

theorem keyUsers (h : Matches L past past' a b) (config : NodeConfig) {users users' : List User}
    (hu : Users.Matches L.toGuise users users') :
    Agrees (Outcomes (Table.Matches L.toGuise)) (Matches L past past') (a.keyUsers config users)
      (b.keyUsers config users') := by
  have hk := keySome_matches hu config.cipher.keyLength
  unfold Node.keyUsers
  dsimp only
  rw [hk.skipped]
  exact ⟨hk.result, both_foldl (f := fun n (s : Int × Fault) => n.note (.userSkipped s.1 s.2))
    (fun s hm => hm.note _) h _⟩

theorem removeAll (h : Matches L past past' a b) (k : Engine.Handle) (ids : List Int) :
    Agrees Eq (Matches L past past') (a.removeAll k ids) (b.removeAll k ids) := by
  induction ids generalizing a b with
  | nil => exact ⟨rfl, h⟩
  | cons id rest ih =>
      obtain ⟨refusal, m, m', hx, hy, hm⟩ := (h.call (.remove k id)).exists
      unfold Node.removeAll
      rw [hx, hy]
      cases refusal with
      | none =>
          exact ih (hm.withRoster (hm.roster.register (hm.roster.applied.erase id)))
      | some cause =>
          obtain ⟨kept, n, n', hx, hy, hn⟩ :=
            (ih (hm.note (.removeFailed id (.engine cause)))).exists
          dsimp only
          rw [hx, hy]
          exact ⟨rfl, hn⟩

theorem addAll (h : Matches L past past' a b) (k : Engine.Handle) (kept : List Int)
    {users users' : List User} (hu : Users.Matches L.toGuise users users') :
    ∃ added failures m m', a.addAll k kept users = (added, failures, m)
      ∧ b.addAll k kept users' = (added, failures, m') ∧ Matches L past past' m m' := by
  induction hu generalizing a b with
  | nil => exact ⟨0, 0, a, b, rfl, rfl, h⟩
  | @cons u u' rest rest' hu _ ih =>
      unfold Node.addAll
      rw [hu.id]
      split
      · exact ih h
      · obtain ⟨refusal, m, m', hx, hy, hm⟩ := (h.call (.add k u.id hu.key)).exists
        rw [hx, hy]
        cases refusal with
        | none =>
            obtain ⟨added, failures, n, n', hx, hy, hn⟩ :=
              ih (hm.withRoster (hm.roster.register (hm.roster.applied.insert u.id hu)))
            dsimp only
            rw [hx, hy]
            exact ⟨_, _, _, _, rfl, rfl, hn⟩
        | some cause =>
            obtain ⟨added, failures, n, n', hx, hy, hn⟩ :=
              ih (hm.note (.addFailed u.id (.engine cause)))
            dsimp only
            rw [hx, hy]
            exact ⟨_, _, _, _, rfl, rfl, hn⟩

theorem apply (h : Matches L past past' a b) (k : Engine.Handle) {d d' : Diff}
    (hd : Diff.Matches L.toGuise d d') :
    Agrees Eq (Matches L past past') (a.apply k d) (b.apply k d') := by
  obtain ⟨kept, m, m', hx, hy, hm⟩ := (h.removeAll k d.remove).exists
  obtain ⟨added, refused, n, n', hx', hy', hn⟩ := hm.addAll k kept hd.add
  unfold Node.apply
  rw [hd.remove, hx, hy]
  dsimp only
  rw [hx', hy']
  dsimp only
  rw [hn.roster.applied.size]
  exact ⟨rfl, hn.note _⟩

theorem settle (h : Matches L past past' a b) (config : NodeConfig)
    {keyed keyed' : OrderedMap Int User} (hk : Table.Matches L.toGuise keyed keyed') :
    Agrees Eq (Matches L past past') (a.settle config keyed) (b.settle config keyed') := by
  unfold Node.settle
  rw [h.roster.handle]
  split
  · obtain ⟨started, n, n', hx, hy, hn⟩ := (h.startEngine config hk).exists
    rw [hx, hy]
    cases started with
    | true => exact ⟨rfl, hn.synced _ _⟩
    | false => exact ⟨rfl, hn.synced _ _⟩
  · next k _ =>
    have hd := between_matches h.roster.applied hk.values
    dsimp only
    rw [hd.isEmpty, h.roster.applied.size]
    split
    · exact ⟨rfl, (h.note _).synced _ _⟩
    · obtain ⟨ok, n, n', hx, hy, hn⟩ := (h.apply k hd).exists
      rw [hx, hy, hd.remove, hd.add.length_eq]
      exact ⟨rfl, hn.synced _ _⟩

theorem reconcile (h : Matches L past past' a b) (config : NodeConfig) {users users' : List User}
    (hu : Users.Matches L.toGuise users users') :
    Agrees Eq (Matches L past past') (a.reconcile config users) (b.reconcile config users') := by
  obtain ⟨hkeyed, hm⟩ := h.keyUsers config hu
  rw [reconcile_eq, reconcile_eq]
  generalize a.keyUsers config users = x, b.keyUsers config users' = y at hkeyed hm
  obtain ⟨r, m⟩ := x
  obtain ⟨r', m'⟩ := y
  cases hkeyed with
  | error fault => exact ⟨rfl, hm⟩
  | ok hk =>
      obtain ⟨hs, hn⟩ := settle hm config hk
      exact ⟨congrArg Except.ok hs, hn⟩

/-! ### The sync cycle -/

theorem restart (h : Matches L past past' a b) (config : NodeConfig) :
    Agrees Eq (Matches L past past') (a.restart config) (b.restart config) := by
  have hs := (h.note (.configChanged config.port config.cipher)).stopEngine.configured config
  obtain ⟨hkeyed, hm⟩ := hs.keyUsers config h.roster.applied.values
  unfold Node.restart
  dsimp only
  generalize Node.keyUsers _ config a.roster.applied.values = x,
    Node.keyUsers _ config b.roster.applied.values = y at hkeyed hm
  obtain ⟨r, m⟩ := x
  obtain ⟨r', m'⟩ := y
  cases hkeyed with
  | error fault => exact ⟨rfl, hm⟩
  | ok hk => exact ⟨rfl, (Matches.startEngine hm config hk).nodes⟩

theorem adopt (h : Matches L past past' a b) (config : NodeConfig) :
    Agrees Eq (Matches L past past') (a.adopt config) (b.adopt config) := by
  unfold Node.adopt
  rw [h.roster.config]
  split
  · exact h.restart config
  · split
    · exact h.restart config
    · exact ⟨rfl, h.configured config⟩

theorem knowing (h : Matches L past past' a b) {users users' : List User}
    (hu : Users.Matches L.toGuise users users') :
    Matches L past past' (a.knowing users) (b.knowing users') :=
  h.withRoster (h.roster.know hu)

theorem useUsers (h : Matches L past past' a b) {users users' : List User}
    (hu : Users.Matches L.toGuise users users') :
    Agrees Eq (Matches L past past') (a.useUsers users) (b.useUsers users') := by
  have hknown := h.knowing hu
  have hc := h.roster.config
  cases hu with
  | nil => exact ⟨rfl, (h.note .emptyList).synced _ _⟩
  | cons hu hrest =>
      cases ha : a.roster.config with
      | none =>
          rw [useUsers_of_unconfigured ha (List.cons_ne_nil _ _),
            useUsers_of_unconfigured (hc.trans ha) (List.cons_ne_nil _ _)]
          exact ⟨rfl, hknown⟩
      | some config =>
          rw [useUsers_of_ne_nil ha (List.cons_ne_nil _ _),
            useUsers_of_ne_nil (hc.trans ha) (List.cons_ne_nil _ _)]
          exact hknown.reconcile config (.cons hu hrest)

theorem configFetch (h : Matches L past past' a b)
    (hfair : Fair L.ahead a.configFetch.2 b.configFetch.2) :
    Agrees (Outcomes Eq) (Matches L past past') a.configFetch b.configFetch := by
  unfold Node.configFetch at hfair ⊢
  rw [h.plan] at hfair ⊢
  exact (paced L past past').retrying (fun hm => hm.fetchConfig) h _ _ hfair

theorem userFetch (h : Matches L past past' a b)
    (hfair : Fair L.ahead a.userFetch.2 b.userFetch.2) :
    Agrees (Outcomes (Users.Matches L.toGuise)) (Matches L past past') a.userFetch
      b.userFetch := by
  unfold Node.userFetch at hfair ⊢
  rw [h.plan] at hfair ⊢
  exact (paced L past past').retrying (fun hm => hm.fetchUsers) h _ _ hfair

theorem afterConfig {x y : Except Fault NodeConfig × Node}
    (h : Agrees (Outcomes Eq) (Matches L past past') x y) :
    Agrees Eq (Matches L past past') (afterConfig x) (afterConfig y) := by
  obtain ⟨r, m⟩ := x
  obtain ⟨r', m'⟩ := y
  obtain ⟨ho, hm⟩ := h
  cases ho with
  | ok hc =>
      cases hc
      exact hm.adopt _
  | error fault =>
      cases fault with
      | notModified _ | transient _ | config _ | shortSecret _ _ => exact ⟨rfl, hm.note _⟩
      | rejected _ _ _ | engine _ | spool _ | unexpected _ => exact ⟨rfl, hm⟩

theorem afterUsers {x y : Except Fault (List User) × Node}
    (h : Agrees (Outcomes (Users.Matches L.toGuise)) (Matches L past past') x y) :
    Agrees Eq (Matches L past past') (afterUsers x) (afterUsers y) := by
  obtain ⟨r, m⟩ := x
  obtain ⟨r', m'⟩ := y
  obtain ⟨ho, hm⟩ := h
  cases ho with
  | ok hu => exact hm.useUsers hu
  | error fault =>
      cases fault with
      | transient _ | config _ | shortSecret _ _ => exact ⟨rfl, (hm.note _).synced _ _⟩
      | rejected _ _ _ | engine _ | spool _ | unexpected _ => exact ⟨rfl, hm⟩
      | notModified what =>
          have hf := hm.roster.fetched
          dsimp only at hm hf
          unfold Node.afterUsers
          dsimp only
          generalize m.roster.fetched = known, m'.roster.fetched = known' at hf
          cases hf with
          | none => exact ⟨rfl, hm⟩
          | some hu => exact hm.useUsers hu

theorem refresh (h : Matches L past past' a b) (hfair : Fair L.ahead a.refresh.2 b.refresh.2) :
    Agrees Eq (Matches L past past') a.refresh b.refresh := by
  rw [refresh_eq, refresh_eq]
  exact afterConfig (h.configFetch (hfair.before (heeds_refresh a) (heeds_refresh b)))

theorem syncUsers (h : Matches L past past' a b)
    (hfair : Fair L.ahead a.syncUsers.2 b.syncUsers.2) :
    Agrees Eq (Matches L past past') a.syncUsers b.syncUsers := by
  rw [syncUsers_eq, syncUsers_eq]
  exact afterUsers (h.userFetch (hfair.before (heeds_syncUsers a) (heeds_syncUsers b)))

theorem syncFailed (h : Matches L past past' a b) (fault : Fault) :
    Matches L past past' (a.syncFailed fault) (b.syncFailed fault) := by
  unfold Node.syncFailed
  split
  · exact h.synced _ _
  · exact h

theorem endSync {x y : Except Fault Bool × Node} (h : Agrees Eq (Matches L past past') x y) :
    Agrees Eq (Matches L past past') (endSync x) (endSync y) := by
  obtain ⟨r, m, m', rfl, rfl, hm⟩ := h.exists
  cases r with
  | ok ok => exact ⟨rfl, hm⟩
  | error fault => exact ⟨rfl, hm.syncFailed fault⟩

/-- A sync cycle. -/
theorem sync (h : Matches L past past' a b) (hfair : Fair L.ahead a.sync.2 b.sync.2) :
    Agrees Eq (Matches L past past') a.sync b.sync := by
  have hb := h.roster.busy
  cases hbusy : a.roster.busy with
  | true =>
      rw [sync_of_busy hbusy, sync_of_busy (hb.trans hbusy)]
      exact ⟨rfl, h.note _⟩
  | false =>
      rw [sync_eq hbusy, sync_eq (hb.trans hbusy)] at hfair ⊢
      obtain ⟨r, m, m', hx, hy, hm⟩ := (h.refresh
        (hfair.before (heeds_afterRefresh _) (heeds_afterRefresh _))).exists
      rw [hx, hy] at hfair ⊢
      cases r with
      | ok =>
          exact endSync (hm.syncUsers (hfair.before (heeds_endSync _) (heeds_endSync _)))
      | error fault => exact ⟨rfl, hm.syncFailed fault⟩

end ProxyNode.Node.Matches
