import ProxyNode.Proofs.Node.Shutdown
import ProxyNode.Proofs.Node.Start
import ProxyNode.Proofs.Panel.Tags

/-!
# Node — Passes, from single steps to whole cycles

All that a node does between its start and its end is made of a few kinds of steps: it writes to the
journal, waits, asks the panel, calls the engine, and changes what it knows of its users and of its
traffic.  What every such step keeps is kept by the cycles, by the last report, and up to the
outcome of a start.  Only the stop signal, the phase and the fatal fault are set by other means.

* `retrying_of_steps`, `untilReady_of_steps`: what single steps keep, asking again and again keeps.
* `Books`: what is kept by the single steps of all work on the traffic.
* `Sends`: what is kept by the single steps of a report too, which neither calls the engine nor
  changes what the node knows of its users.
* `Sends.report`, `Sends.finalFlush`: so do the reports.
* `Works`: what is kept by the single steps of all work on the engine and the users.
* `Pulls`: what is kept by the single steps of a sync cycle too, which does not touch the traffic.
* `Pulls.sync`: so does the cycle.
* `Passes`: what is kept by all single steps, and so by both cycles.
* `Passes.start_cases`: the outcomes of a start, up to which it is kept.
* `passes_fixed`: what is settled when a node is made is kept in this way.
-/

namespace ProxyNode

/-- Whether an event is a record of what the node did by itself. -/
def Event.isRecord : Event → Bool
  | .resumed _ | .delivered _ | .retired _ | .spoolWritten _ | .noted _ => true
  | _ => false

namespace Node

/-- What notices, waits and every attempt keep is kept by a call that is tried again. -/
theorem retrying_of_steps {P : Node → Prop} (hnote : ∀ {n} notice, P n → P (n.note notice))
    (hwait : ∀ {n} seconds, P n → P (n.wait seconds).2) {α : Type}
    (attempt : Node → Except Fault α × Node) (hattempt : ∀ {n}, P n → P (attempt n).2) {n : Node}
    (h : P n) (policy : Retry) (errand : String) : P (n.retrying policy errand attempt).2 := by
  refine Retry.run_keeps (P := P) (fun s hs => hattempt hs) (fun fault delay s hs => ?_) h
  have hn := hnote (.retrying errand fault delay) hs
  exact waitFor_keeps hn (hwait delay hn)

/-- So it is by asking until there is something to use. -/
theorem untilReady_of_steps {P : Node → Prop} (hnote : ∀ {n} notice, P n → P (n.note notice))
    (hwait : ∀ {n} seconds, P n → P (n.wait seconds).2) {α : Type}
    {fetch : Node → Except Fault α × Node} (hfetch : ∀ {n}, P n → P (fetch n).2)
    (errand : String) (rounds : Nat) {n : Node} (h : P n) :
    P (untilReady errand fetch rounds n).2 := by
  induction rounds generalizing n with
  | zero => exact h
  | succ rounds ih =>
      have hr := retrying_of_steps hnote hwait fetch hfetch h n.plan.retry errand
      unfold untilReady
      split
      · exact h
      · split
        · next a m hm =>
          rw [hm] at hr
          exact hr
        · next fault m hm =>
          rw [hm] at hr
          split
          · have hn := hnote (.notReady errand fault) hr
            have hw := waitFor_keeps hn (hwait (startPause m.plan.retry) hn)
            split
            · next refused k hk => rw [hk] at hw; exact hw
            · next stopped k hk => rw [hk] at hw; exact ih hw
          · exact hr

/-! ### The traffic -/

/-- What is kept by the single steps of all work on the traffic. -/
structure Books (P : Node → Prop) : Prop where
  log : ∀ {n} e, e.isRecord = true → P n → P (n.log e)
  ledger : ∀ {n} l, P n → P { n with ledger := l }

namespace Books

variable {P : Node → Prop} {n : Node}

theorem note (hp : Books P) (h : P n) (notice : Notice) : P (n.note notice) :=
  hp.log (.noted notice) rfl h

theorem spooled (hp : Books P) (h : P n) (spool : Spool) : P (n.spooled spool) :=
  hp.log (.spoolWritten spool.table) rfl (hp.ledger { n.ledger with spool := some spool } h)

theorem noteSums (hp : Books P) (h : P n) (s : Snapshot) (notice : Notice) :
    P (n.noteSums s notice).2 := by
  unfold Node.noteSums
  split
  · exact hp.note h notice
  · exact h

theorem clearSpool (hp : Books P) (h : P n) : P n.clearSpool := by
  rcases clearSpool_cases n with ⟨-, hc⟩ | ⟨spool, fault, -, -, -, hc⟩ | ⟨spool, -, -, -, hc⟩
  · rw [hc]
    exact h
  · rw [hc]
    exact hp.note (hp.spooled h _) _
  · rw [hc]
    exact hp.ledger _ (hp.spooled h _)

theorem delivered (hp : Books P) (h : P n) (s : Snapshot) : P (n.delivered s).2 := by
  have hb : P ((n.log (.delivered s)).clearSpool.billed s) :=
    hp.ledger _ (hp.clearSpool (hp.log (.delivered s) rfl h))
  rcases delivered_cases n s with hd | ⟨message, hd⟩
  · rw [hd]
    exact hb
  · rw [hd]
    exact hp.noteSums (hp.ledger _ hb) s _

theorem undelivered (hp : Books P) (h : P n) (s : Snapshot) (fault : Fault) :
    P (n.undelivered s fault) := by
  unfold Node.undelivered
  split
  · exact hp.ledger _ (hp.note h _)
  · split
    · exact hp.ledger _ (hp.note h _)
    · exact h

theorem retire (hp : Books P) (h : P n) (s : Snapshot) : P (n.retire s).2 := by
  have hl : P (n.log (.retired s)) := hp.log _ rfl h
  rcases retire_cases n s with ⟨-, hr⟩ | ⟨spool, -, ⟨-, hr⟩ | ⟨fault, -, hr⟩⟩
  · rw [hr]
    exact hp.noteSums hl _ _
  · rw [hr]
    exact hp.spooled hl _
  · rw [hr]
    exact hp.noteSums (hp.note (hp.spooled hl _) _) _ _

theorem resume (hp : Books P) (h : P n) : P n.resume.2 := by
  rcases resume_cases n with ⟨hr, -⟩ | ⟨spool, pending, -, -, -, hr⟩
  · rw [hr]
    exact h
  · rw [hr]
    have hrestore : P (n.restore pending) := hp.ledger _ h
    exact hp.noteSums (hp.log (.resumed pending) rfl (hp.ledger _ hrestore)) _ _

end Books

/-! ### Reports -/

/-- What is kept by the single steps of a report. -/
structure Sends (P : Node → Prop) : Prop extends Books P where
  wait : ∀ {n} seconds, P n → P (n.wait seconds).2
  push : ∀ {n} timeout body, P n → P (n.ask .push timeout body).2

namespace Sends

variable {P : Node → Prop} {n : Node}

theorem send (hp : Sends P) (h : P n) (s : Snapshot) (timeout : Option Float) :
    P (n.push s timeout).2 := by
  unfold Node.push
  split
  · exact hp.push timeout _ h
  · exact h

theorem report (hp : Sends P) (h : P n) (timeout : Option Float) (policy : Retry) :
    P (n.report timeout policy).2 := by
  have hd : P n.drain.2 := hp.ledger _ h
  have hr := retrying_of_steps (P := P) (fun notice hm => hp.note hm notice) hp.wait
    (fun m => m.push n.drain.1 timeout) (fun hm => hp.send hm n.drain.1 timeout) hd policy
    Panel.Endpoint.push.errand
  unfold Node.report
  dsimp only
  split
  · exact hp.ledger _ (hp.note hd .nothingToPush)
  · split
    · next m hm =>
      rw [hm] at hr
      have hdel := hp.delivered hr n.drain.1
      split
      · next fault k hk => rw [hk] at hdel; exact hdel
      · next k hk => rw [hk] at hdel; exact hdel
    · next fault m hm =>
      rw [hm] at hr
      have hu : P ((m.undelivered n.drain.1 fault).restore n.drain.1) :=
        hp.ledger _ (hp.undelivered hr n.drain.1 fault)
      split
      · exact hu
      · exact hu

theorem finalFlush (hp : Sends P) (h : P n) : P n.finalFlush.2 :=
  finalFlush_induction (P := P) (Q := P) (hp.report h _ .once) (fun hm => hp.note hm _) id
    (fun hm _ => hp.ledger _ hm) fun hm => hp.retire (hp.ledger _ hm) _

end Sends

/-! ### Sync cycles -/

/-- What is kept by the single steps of all work on the engine and the users. -/
structure Works (P : Node → Prop) : Prop where
  note : ∀ {n} notice, P n → P (n.note notice)
  call : ∀ {n} c, P n → P (n.call c).2
  roster : ∀ {n} r, P n → P { n with roster := r }

namespace Works

variable {P : Node → Prop} {n : Node}

theorem operates (hp : Works P) : Operates P where
  note notice _ h := hp.note notice h
  call c h := hp.call c h
  roster r _ _ _ h := hp.roster r h

theorem restart (hp : Works P) (h : P n) (config : NodeConfig) : P (n.restart config).2 := by
  have hs := hp.operates.stopEngine (hp.note (.configChanged config.port config.cipher) h)
  have hc : P (Node.configured _ config) := hp.roster _ hs
  have hk := hp.operates.keyUsers hc config n.roster.applied.values
  unfold Node.restart
  dsimp only
  split
  · next fault m hm => rw [hm] at hk; exact hk
  · next keyed m hm => rw [hm] at hk; exact hp.operates.startEngine hk config keyed

theorem settles (hp : Works P) : Settles P where
  note notice _ h := hp.note notice h
  roster r _ _ _ _ h := hp.roster r h
  adopt config h := by
    unfold adopt
    split
    · exact hp.restart h config
    · split
      · exact hp.restart h config
      · exact hp.roster _ h
  reconcile users _ h := hp.operates.reconcile h _ users

/-- A launch is off, or refused by the engine, or done. -/
theorem launch_cases (hp : Works P) (hattach : ∀ {n}, P n → P n.attach) (h : P n)
    (config : NodeConfig) (users : List User) :
    ∃ m, P m ∧ ((∃ fault, n.launch config users = m.startFault fault)
      ∨ (∃ fault, n.launch config users = (.error fault, m.fail fault))
      ∨ ∃ keyed notice,
        n.launch config users = (.ok true, (m.launched config users keyed).note notice)) := by
  have hn : P (if users.isEmpty then n.note .noUsers else n) := by
    split
    · exact hp.note .noUsers h
    · exact h
  unfold Node.launch
  dsimp only
  generalize (if users.isEmpty = true then n.note .noUsers else n) = m at hn
  cases keyAll config.cipher.keyLength users with
  | error fault => exact ⟨m, hn, .inl ⟨fault, rfl⟩⟩
  | ok keyed =>
      have hc := hp.call (.start config keyed.values) (hattach hn)
      dsimp only
      rcases hcall : m.attach.call (.start config keyed.values) with ⟨_ | cause, k⟩
      · rw [hcall] at hc
        exact ⟨k, hc, .inr (.inr ⟨keyed, _, rfl⟩)⟩
      · rw [hcall] at hc
        exact ⟨k, hc, .inr (.inl ⟨_, rfl⟩)⟩

end Works

/-- What is kept by the single steps of a sync cycle, in which the client changes no more than its
tags. -/
structure Pulls (P : Node → Prop) : Prop extends Works P where
  wait : ∀ {n} seconds, P n → P (n.wait seconds).2
  ask : ∀ {n e}, e ≠ .push → P n → P (n.ask e none none).2
  client : ∀ {n} c, c.untagged = n.client.untagged → P n → P { n with client := c }

namespace Pulls

variable {P : Node → Prop} {n : Node}

theorem fetchConfig (hp : Pulls P) (h : P n) : P n.fetchConfig.2 := by
  have ha : P (n.ask .config none none).2 := hp.ask Panel.configReader.fetches h
  exact hp.client _ (Panel.configReader.untagged_accept _ _) ha

theorem fetchUsers (hp : Pulls P) (h : P n) : P n.fetchUsers.2 := by
  have ha : P (n.ask .users none none).2 := hp.ask Panel.userReader.fetches h
  refine List.foldlRecOn _ _ ?_ fun m hm item _ => hp.note (.malformedUser item) hm
  exact hp.client _ (Panel.userReader.untagged_accept _ _) ha

theorem cycles (hp : Pulls P) : Cycles P :=
  { hp.settles with
    config := fun h => retrying_of_steps hp.note hp.wait _ hp.fetchConfig h _ _
    users := fun h => retrying_of_steps hp.note hp.wait _ hp.fetchUsers h _ _ }

theorem sync (hp : Pulls P) (h : P n) : P n.sync.2 := hp.cycles.sync h

end Pulls

/-! ### All of it -/

/-- What is kept by the single steps of a node. -/
structure Passes (P : Node → Prop) : Prop where
  log : ∀ {n} e, P n → P (n.log e)
  wait : ∀ {n} seconds, P n → P (n.wait seconds).2
  ask : ∀ {n} e timeout body, P n → P (n.ask e timeout body).2
  call : ∀ {n} c, P n → P (n.call c).2
  attach : ∀ {n}, P n → P n.attach
  client : ∀ {n} c, P n → P { n with client := c }
  roster : ∀ {n} r, P n → P { n with roster := r }
  ledger : ∀ {n} l, P n → P { n with ledger := l }

namespace Passes

variable {P : Node → Prop} {n : Node}

theorem retrying {α : Type} {attempt : Node → Except Fault α × Node} (hp : Passes P)
    (hattempt : ∀ {n}, P n → P (attempt n).2) (h : P n) (policy : Retry) (errand : String) :
    P (n.retrying policy errand attempt).2 :=
  retrying_of_steps (P := P) (fun notice hm => hp.log (.noted notice) hm) hp.wait attempt hattempt h
    policy errand

theorem note (hp : Passes P) (h : P n) (notice : Notice) : P (n.note notice) :=
  hp.log (.noted notice) h

theorem sends (hp : Passes P) : Sends P where
  log e _ h := hp.log e h
  wait := hp.wait
  push := hp.ask .push
  ledger := hp.ledger

theorem pulls (hp : Passes P) : Pulls P where
  note notice h := hp.note h notice
  wait := hp.wait
  ask _ h := hp.ask _ none none h
  call := hp.call
  client c _ h := hp.client c h
  roster := hp.roster

theorem operates (hp : Passes P) : Operates P := hp.pulls.operates

theorem cycles (hp : Passes P) : Cycles P := hp.pulls.cycles

theorem sync (hp : Passes P) (h : P n) : P n.sync.2 := hp.pulls.sync h

theorem report (hp : Passes P) (h : P n) (timeout : Option Float) (policy : Retry) :
    P (n.report timeout policy).2 :=
  hp.sends.report h timeout policy

/-! ### The start -/

theorem untilReady {α : Type} {fetch : Node → Except Fault α × Node} (hp : Passes P)
    (hfetch : ∀ {n}, P n → P (fetch n).2) (errand : String) (rounds : Nat) (h : P n) :
    P (Node.untilReady errand fetch rounds n).2 :=
  untilReady_of_steps (P := P) (fun notice hm => hp.note hm notice) hp.wait hfetch errand rounds h

/-- The outcomes of a start: it fails, which may or may not be fatal, or it is told to stop, or the
node runs. -/
theorem start_cases (hp : Passes P) (h : P { n with phase := .starting }) :
    ∃ m, P m ∧ ((∃ fault, n.start = (.error fault, m)) ∨ (∃ fault, n.start = m.startFault fault)
      ∨ (∃ fault, n.start = (.error fault, m.fail fault)) ∨ n.start = (.ok false, m)
      ∨ ∃ config users keyed notice,
        n.start = (.ok true, (m.launched config users keyed).note notice)) := by
  have hr := hp.sends.resume h
  unfold Node.start
  split
  · next fault m hm =>
    rw [hm] at hr
    exact ⟨m, hr, .inl ⟨fault, rfl⟩⟩
  · next m hm =>
    rw [hm] at hr
    have hc := hp.untilReady hp.pulls.fetchConfig Panel.Endpoint.config.errand
      (m.stop.patience + 1) hr
    split
    · next fault k hk =>
      rw [ready] at hk
      rw [hk] at hc
      exact ⟨k, hc, .inr (.inl ⟨fault, rfl⟩)⟩
    · next k hk =>
      rw [ready] at hk
      rw [hk] at hc
      exact ⟨k, hc, .inr (.inr (.inr (.inl rfl)))⟩
    · next config k hk =>
      rw [ready] at hk
      rw [hk] at hc
      have hu := hp.untilReady hp.pulls.fetchUsers Panel.Endpoint.users.errand
        (k.stop.patience + 1) hc
      split
      · next fault l hl =>
        rw [ready] at hl
        rw [hl] at hu
        exact ⟨l, hu, .inr (.inl ⟨fault, rfl⟩)⟩
      · next l hl =>
        rw [ready] at hl
        rw [hl] at hu
        exact ⟨l, hu, .inr (.inr (.inr (.inl rfl)))⟩
      · next users l hl =>
        rw [ready] at hl
        rw [hl] at hu
        obtain ⟨q, hq, hf | hf | ⟨keyed, notice, hf⟩⟩ :=
          hp.pulls.launch_cases hp.attach hu config users
        · exact ⟨q, hq, .inr (.inl hf)⟩
        · exact ⟨q, hq, .inr (.inr (.inl hf))⟩
        · exact ⟨q, hq, .inr (.inr (.inr (.inr ⟨config, users, keyed, notice, hf⟩)))⟩

end Passes

/-- What was settled when the nodes were made is the same for both. -/
structure Fixed (n n' : Node) : Prop where
  plan : n'.plan = n.plan
  clock : n'.clock = n.clock

section Settled

variable {n n₁ n₂ n₃ : Node}

theorem Fixed.refl (n : Node) : Fixed n n := ⟨rfl, rfl⟩

theorem Fixed.trans (h : Fixed n₁ n₂) (h' : Fixed n₂ n₃) : Fixed n₁ n₃ :=
  ⟨h'.plan.trans h.plan, h'.clock.trans h.clock⟩

theorem fixed_raise (n : Node) : Fixed n n.raise := by
  unfold raise
  split
  · exact .refl n
  · exact ⟨rfl, rfl⟩

theorem fixed_wait (n : Node) (seconds : Float) : Fixed n (n.wait seconds).2 := by
  unfold wait
  split
  · have hw : Fixed n { n with
        stop := { n.stop with patience := n.stop.patience - 1 }
        journal := .waited seconds :: n.journal } := ⟨rfl, rfl⟩
    dsimp only
    split
    · exact hw.trans (fixed_raise _)
    · exact hw
  · exact .refl n

theorem fixed_emit (n : Node) (d : Delta) : Fixed n (n.emit d) :=
  List.foldlRecOn (motive := Fixed n) _ _ (.refl n) fun _ hm _ _ => hm.trans ⟨rfl, rfl⟩

theorem fixed_ask (n : Node) (e : Panel.Endpoint) (timeout : Option Float)
    (body : Option (OrderedMap String Amount)) : Fixed n (n.ask e timeout body).2 := by
  have hc : Fixed n ((n.panel.next e).1.counted.foldl emit
      { n.log (n.sent e timeout body) with panel := (n.panel.next e).2 }) :=
    List.foldlRecOn (motive := Fixed n) _ _ ⟨rfl, rfl⟩ fun m hm d _ => hm.trans (fixed_emit m d)
  unfold ask
  dsimp only
  split
  · exact hc.trans (fixed_raise _)
  · exact hc

theorem fixed_call (n : Node) (c : Engine.Call) : Fixed n (n.call c).2 := by
  unfold call
  dsimp only
  split <;> exact ⟨rfl, rfl⟩

theorem fixed_attach (n : Node) : Fixed n n.attach := by
  unfold attach
  split
  · exact .refl n
  · exact ⟨rfl, rfl⟩

theorem passes_fixed (n : Node) : Passes (Fixed n) where
  log _ h := h.trans ⟨rfl, rfl⟩
  wait seconds h := h.trans (fixed_wait _ seconds)
  ask e timeout body h := h.trans (fixed_ask _ e timeout body)
  call c h := h.trans (fixed_call _ c)
  attach h := h.trans (fixed_attach _)
  client _ h := h.trans ⟨rfl, rfl⟩
  roster _ h := h.trans ⟨rfl, rfl⟩
  ledger _ h := h.trans ⟨rfl, rfl⟩

end Settled

end Node

end ProxyNode
