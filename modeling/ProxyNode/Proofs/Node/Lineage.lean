import ProxyNode.Proofs.Node.Carry

/-!
# Node — Lineage, one spool and many lives

A spool outlives the processes that use it.  Each life starts a new node on the spool that the one
before left, and ends with a shutdown; over any number of lives no traffic is lost and none is
counted twice.

* `Life`: one process, from its start to the end of its shutdown.
* `life_of_run`: a run is one.
* `Life.exact`: what a life took over and counted was acknowledged in it or is left in the spool.
* `lineage_exact`: the same of any number of lives.
-/

namespace ProxyNode.Node

/-- What a node that took in `rows` leaves behind is exact: its spool has what is not
acknowledged. -/
def Settled (rows : Snapshot) (n : Node) : Prop :=
  ∃ spool left, n.ledger.spool = some spool ∧ spool.peek = .ok left ∧ left.Nonneg
    ∧ ∀ id, n.counted id + rows.amountOf id = n.acknowledged id + left.amountOf id

variable {rows : Snapshot} {n n' : Node}

theorem Settled.of_eq (h : n.Settled rows) (hl : n'.ledger.spool = n.ledger.spool)
    (hbooked : n'.booked = n.booked) : n'.Settled rows := by
  obtain ⟨spool, left, hspool, hp, hn, heq⟩ := h
  have hb : n'.booked = [] ++ n.booked := hbooked
  refine ⟨spool, left, hl.trans hspool, hp, hn, fun id => ?_⟩
  rw [counted_of_booked hb, acknowledged_of_booked hb]
  simpa using heq id

/-- With nothing left in the counters the spool has what is not acknowledged. -/
theorem settled_of_isEmpty (hb : n.Balanced rows.amountOf 0 0) (hh : n.Holds rows false)
    (hrows : rows.Nonneg) (he : n.drain.1.isEmpty = true) : n.drain.2.Settled rows := by
  have hacc (id : Int) : n.ledger.accumulator.amountOf id = 0 := by
    rw [← Accumulator.amountOf_peek hb.placed]
    exact n.drain_fst ▸ Snapshot.amountOf_of_isEmpty he id
  have heq (id : Int) : n.counted id + rows.amountOf id = n.acknowledged id := by
    rw [hb.traffic id, hacc, hh.retired, Pi.zero_apply, add_zero, add_zero, add_zero]
  obtain ⟨spool, hs, ⟨-, hp, hack⟩ | ⟨-, left, hp, hleft⟩⟩ := hh.spool
  · refine ⟨spool, rows, hs, hp, hrows, fun id => ?_⟩
    -- Nothing was acknowledged, so nothing was counted and there were no rows.
    have hz : rows.amountOf id + n.counted id = 0 := by
      rw [add_comm, heq, hack rfl]
    have hr := ((add_eq_zero_iff_of_nonneg (hrows.amountOf id) (n.counted_nonneg id)).mp hz).1
    show n.counted id + rows.amountOf id = n.acknowledged id + rows.amountOf id
    rw [heq, hr, add_zero]
  · refine ⟨spool, left, hs, hp, fun e hm => ?_, fun id => ?_⟩
    · rw [List.isEmpty_iff.mp hleft] at hm
      cases hm
    · rw [Snapshot.amountOf_of_isEmpty hleft, add_zero]
      exact heq id

/-- What is drained and saved is what is not acknowledged. -/
theorem settled_of_save (hb : n.Balanced rows.amountOf 0 0) (hh : n.Holds rows false)
    {spool after : Spool} (hs : spool.save n.drain.1 = (.ok (), after)) :
    ((n.drain.2.log (.retired n.drain.1)).spooled after).Settled rows := by
  have hbooked : ((n.drain.2.log (.retired n.drain.1)).spooled after).booked
      = [.spoolWritten after.table, .retired n.drain.1] ++ n.booked := rfl
  refine ⟨after, n.drain.1, rfl, Spool.peek_of_save hs, hh.nonneg_drain, fun id => ?_⟩
  rw [counted_of_booked hbooked, acknowledged_of_booked hbooked, drain_fst,
    Accumulator.amountOf_peek hb.placed]
  have ht := hb.traffic id
  rw [hh.retired, Pi.zero_apply, add_zero, add_zero] at ht
  simpa [Event.countedOf, Event.acknowledgedOf] using ht

/-- A last report that comes to an end leaves in the spool what is not acknowledged, if the spool
takes it. -/
theorem settled_finalFlush (hb : n.Balanced rows.amountOf 0 0) (hc : n.Carries rows)
    (hrows : rows.Nonneg) {ok : Bool}
    (hr : (n.report (some n.plan.finalReportTimeout) .once).1 = .ok ok)
    (hf : ¬ n.finalFlush.2.SpoolFailed) : n.finalFlush.2.Settled rows := by
  rcases finalFlush_cases n with ⟨fault, herr, -⟩ | ⟨ok', m, hm, k, hk, hd⟩
  · rw [hr] at herr
    cases herr
  · have hbm := hb.report (some n.plan.finalReportTimeout) .once
    have hcm := hc.report (some n.plan.finalReportTimeout) .once
    rw [hm] at hbm hcm
    obtain ⟨hbk, hck⟩ : k.Balanced rows.amountOf 0 0 ∧ k.Carries rows := by
      rcases hk with rfl | rfl
      · exact ⟨hbm, hcm⟩
      · exact ⟨hbm.counts (listens_note m _).counts, hcm.counts (listens_note m _).counts⟩
    rcases hd with ⟨he, hflush⟩ | ⟨-, hflush⟩
    · rw [hflush] at hf ⊢
      rcases hck with hfk | hhk
      · exact absurd hfk hf
      · exact settled_of_isEmpty hbk hhk hrows he
    · rw [hflush] at hf ⊢
      rcases hck with hfk | hhk
      · have hfd : k.drain.2.SpoolFailed := hfk.grows (.refl k)
        exact absurd (hfd.grows (grows_retire _ _)) hf
      · rcases retire_cases k.drain.2 k.drain.1 with
          ⟨hnone, -⟩ | ⟨spool, -, ⟨hok, hret⟩ | ⟨fault, -, hret⟩⟩
        · obtain ⟨spool, hs, -⟩ := hhk.spool
          exact absurd (hs.symm.trans hnone) nofun
        · rw [hret]
          exact settled_of_save hbk hhk (Prod.ext hok rfl)
        · rw [hret] at hf
          have hfail : (((k.drain.2.log (.retired k.drain.1)).spooled
              (spool.save k.drain.1).2).note (.spoolFailed fault)).SpoolFailed :=
            ⟨.noted (.spoolFailed fault), List.mem_cons_self, rfl⟩
          exact absurd (hfail.grows (counts_noteSums _ _ _).grows) hf

/-- How the last report of a shutdown ends. -/
def lastReport (n : Node) (inFlight : List Cycle) : Except Fault Bool :=
  ((n.closing inFlight).stopEngine.report
    (some (n.closing inFlight).stopEngine.plan.finalReportTimeout) .once).1

theorem settled_shutdown (hb : n.Balanced rows.amountOf 0 0) (hc : n.Carries rows)
    (ho : n.IsOpen) (hrows : rows.Nonneg) {inFlight : List Cycle} {ok : Bool}
    (hr : n.lastReport inFlight = .ok ok) (hf : ¬ (n.shutdown inFlight).2.SpoolFailed) :
    (n.shutdown inFlight).2.Settled rows := by
  have hp := counts_phase n .stopping
  have hbc := (Balanced.accounts rows.amountOf).kept.closing (hb.counts hp) inFlight
  have hcc := (Carries.accounts rows).kept.closing (hc.counts hp) inFlight
  have hbk := hbc.counts (manages_stopEngine _).counts
  have hck := hcc.counts (manages_stopEngine _).counts
  -- The cycles under way and the stop of the engine keep both invariants up to the last report.
  have hset := settled_finalFlush hbk hck hrows hr
  rcases shutdown_cases n inFlight with ⟨hp, -⟩ | ⟨-, ⟨fault, m, hm, hs⟩ | ⟨m, hm, hs⟩⟩
  · exact absurd hp ho
  · rw [hm] at hset
    rw [hs] at hf ⊢
    exact hset hf
  · rw [hm] at hset
    rw [hs] at hf ⊢
    have hk := (counts_phase m (if n.phase = .failed then .failed else .stopped)).trans
      (listens_note _ .shutDown).counts
    have hm : m.Settled rows := hset fun hfm => hf (hfm.grows hk.grows)
    exact hm.of_eq rfl (booked_of_log (e := .noted .shutDown) rfl rfl)

/-- One process on the spool `spool`: a new node is started, does what it does if the start
succeeds, and is shut down.  Its last report comes to an end, be it that the panel acknowledged it,
refused it or could not be reached, and no write to the spool fails.  `m` is the node at the end and
`after` the spool that it leaves. -/
structure Life (spool : Spool) (m : Node) (after : Spool) : Prop where
  begun : ∃ (n : Node) (running : List Action) (inFlight : List Cycle),
    n.IsNew ∧ n.ledger.spool = some spool
    ∧ (∃ ok, (n.live (fun n => n.acts running)).2.lastReport inFlight = .ok ok)
    ∧ m = ((n.live fun n => n.acts running).2.shutdown inFlight).2
  written : ¬ m.SpoolFailed
  left : m.ledger.spool = some after

/-- A run is such a process: what goes on while it waits to be stopped is a sequence of actions. -/
theorem life_of_run {n : Node} {activity : Activity} {spool after : Spool} (h : n.IsNew)
    (hs : n.ledger.spool = some spool)
    (hok : ∃ ok, Node.lastReport
      (n.live fun n => (n.beside (ticks activity.cycle activity.rounds)).idle).2
      activity.inFlight = .ok ok)
    (hwritten : ¬ (n.run activity).2.SpoolFailed)
    (hleft : (n.run activity).2.ledger.spool = some after) :
    Life spool (n.run activity).2 after := by
  obtain ⟨l, hlive, hrun⟩ := exists_runWith n activity
  have hend := runWith_snd n l activity.inFlight
  rw [← hrun] at hend
  exact ⟨⟨n, l, activity.inFlight, h, hs, hlive ▸ hok, hend⟩, hwritten, hleft⟩

/-- One life after the other, each on the table that the one before it left.  `nodes` are the nodes
at the ends of the lives. -/
inductive Lineage : Spool → List Node → Spool → Prop where
  | nil (spool : Spool) : Lineage spool [] spool
  | cons {spool after next last : Spool} {m : Node} {nodes : List Node}
      (life : Life spool m after) (table : next.found = after.found)
      (rest : Lineage next nodes last) : Lineage spool (m :: nodes) last

theorem live_induction {P : Node → Prop} {n : Node} (running : List Action) (hs : P n.start.2)
    (hact : ∀ n a, P n → P (n.act a)) : P (n.live fun n => n.acts running).2 := by
  unfold live
  split
  · next fault m hm =>
    rw [hm] at hs
    exact hs
  · next m hm =>
    rw [hm] at hs
    exact acts_induction hact hs running
  · next m hm =>
    rw [hm] at hs
    exact hs

/-- What a life took over and counted was acknowledged in it or is left in the spool. -/
theorem Life.exact {spool after : Spool} {m : Node} (h : Life spool m after)
    (hp : spool.peek = .ok rows) (hrows : rows.Nonneg) :
    ∃ left, after.peek = .ok left ∧ left.Nonneg
      ∧ ∀ id, m.counted id + rows.amountOf id = m.acknowledged id + left.amountOf id := by
  obtain ⟨⟨n, running, inFlight, hnew, hs, ⟨ok, hok⟩, rfl⟩, hwritten, hleft⟩ := h
  have hstart : n.start.2.Balanced rows.amountOf 0 0 := by
    have htaken : (fun id => (0 : Int → Amount) id + n.spooledOf id) = rows.amountOf := by
      funext id
      rw [Pi.zero_apply, zero_add, spooledOf, hs, Option.map_some, hp]
    exact htaken ▸ hnew.balanced.start
  have hb := live_induction running hstart
    fun n a hn => (Balanced.accounts _).kept.act hn a
  have hc := live_induction running (Carries.start hnew hs hp hrows)
    fun n a hn => (Carries.accounts _).kept.act hn a
  have ho := live_induction running (isOpen_start n) fun n a hn => kept_isOpen.act hn a
  generalize (n.live fun n => n.acts running).2 = k at hb hc ho hok hwritten hleft
  obtain ⟨spool', left, hspool, hpeek, hn, heq⟩ := settled_shutdown hb hc ho hrows hok hwritten
  obtain rfl : spool' = after := Option.some.inj (hspool.symm.trans hleft)
  exact ⟨left, hpeek, hn, heq⟩

/-- Over any number of lives no traffic is lost and none is counted twice: of every user, what the
spool held at the beginning and what all lives counted is what the panel acknowledged in all of them
and what the spool holds at the end.  That the rows at the beginning are not negative is no
restriction: a spool is made without rows, and what a life saves are sums of deltas, which have no
sign, and of rows that it took over (`Life.exact`). -/
theorem lineage_exact {spool last : Spool} {nodes : List Node} (h : Lineage spool nodes last)
    {rows : Snapshot} (hp : spool.peek = .ok rows) (hrows : rows.Nonneg) :
    ∃ left, last.peek = .ok left
      ∧ ∀ id, rows.amountOf id + (nodes.map fun m => m.counted id).sum
        = (nodes.map fun m => m.acknowledged id).sum + left.amountOf id := by
  induction h generalizing rows with
  | nil spool => exact ⟨rows, hp, fun id => add_comm _ _⟩
  | @cons spool after next last m nodes life table rest ih =>
      obtain ⟨between, hb, hn, heq⟩ := life.exact hp hrows
      obtain ⟨left, hl, hsum⟩ := ih ((Spool.peek_congr table).trans hb) hn
      refine ⟨left, hl, fun id => ?_⟩
      rw [List.map_cons, List.map_cons, List.sum_cons, List.sum_cons, ← add_assoc,
        add_comm (rows.amountOf id), heq id, add_assoc, hsum id, add_assoc]

/-- The sample on some spool, with one answer to all its reports; while a report is under way its
user sends more. -/
def sampleOn (spool : Spool) (answer : Panel.Answer) : Node :=
  { sample with
    panel := { sample.panel with push := [{
      counted := [sampleDelta]
      answer := answer }] }
    ledger := { spool := some spool } }

/-- That node at the end of a life in which it only waits to be stopped. -/
def sampleEnd (spool : Spool) (answer : Panel.Answer) : Node :=
  (((sampleOn spool answer).live fun n => n.acts []).2.shutdown []).2

/-- The spool that it leaves. -/
def sampleLeft (spool : Spool) (answer : Panel.Answer) : Spool :=
  (sampleEnd spool answer).ledger.spool.getD spool

theorem life_sampleOn (spool : Spool) (answer : Panel.Answer) (ok : Bool)
    (h : ((sampleOn spool answer).live fun n => n.acts []).2.lastReport [] = .ok ok
      ∧ ¬ (sampleEnd spool answer).SpoolFailed
      ∧ (sampleEnd spool answer).ledger.spool.isSome = true) :
    Life spool (sampleEnd spool answer) (sampleLeft spool answer) := by
  obtain ⟨hok, hwritten, hleft⟩ := h
  have hnew : (sampleOn spool answer).IsNew :=
    ⟨rfl, rfl, ⟨16, by decide, rfl⟩, rfl, rfl, rfl, rfl⟩
  refine ⟨⟨sampleOn spool answer, [], [], hnew, rfl, ⟨ok, hok⟩, rfl⟩, hwritten, ?_⟩
  obtain ⟨after, ha⟩ := Option.isSome_iff_exists.mp hleft
  rw [sampleLeft, ha]
  rfl

/-- A life in which the panel cannot be reached, and one after it in which the panel acknowledges
all that the first one left, and what is sent meanwhile goes to the spool. -/
theorem lineage_exact_sample :
    ∃ nodes last left, Lineage { table := some [⟨1, "5", "7"⟩] } nodes last ∧ nodes.length = 2
      ∧ last.peek = .ok left
      ∧ (∀ id, (Snapshot.ofEntries [⟨1, ⟨5, 7⟩⟩]).amountOf id
          + (nodes.map fun m => m.counted id).sum
        = (nodes.map fun m => m.acknowledged id).sum + left.amountOf id)
      ∧ (nodes.map fun m => m.acknowledged 1).sum = ⟨7, 10⟩ ∧ left.amountOf 1 = ⟨2, 3⟩ := by
  have hfirst := life_sampleOn { table := some [⟨1, "5", "7"⟩] } (.failed "") false
    (by decide +kernel)
  have hsecond := life_sampleOn (sampleLeft { table := some [⟨1, "5", "7"⟩] } (.failed ""))
    (.response { text := "null" }) true (by decide +kernel)
  have hlineage := Lineage.cons hfirst rfl (.cons hsecond rfl (.nil _))
  have hentries : (Snapshot.ofEntries [⟨1, ⟨5, 7⟩⟩]).entries = [⟨1, ⟨5, 7⟩⟩] := by decide +kernel
  have hrows : (Snapshot.ofEntries [⟨1, ⟨5, 7⟩⟩]).Nonneg := by
    intro e he
    rw [hentries, List.mem_singleton] at he
    exact he ▸ ⟨by decide, by decide⟩
  obtain ⟨left, hl, hsum⟩ := lineage_exact hlineage (by decide +kernel) hrows
  have hleft : (sampleLeft (sampleLeft { table := some [⟨1, "5", "7"⟩] } (.failed ""))
      (.response { text := "null" })).peek.map (fun s => s.amountOf 1) = .ok ⟨2, 3⟩ := by
    decide +kernel
  rw [hl] at hleft
  exact ⟨_, _, left, hlineage, rfl, hl, hsum, by decide +kernel, Except.ok.inj hleft⟩

end ProxyNode.Node
