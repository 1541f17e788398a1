import Mathlib.Tactic.Abel
import ProxyNode.Proofs.Node.Kept

/-!
# Node — Conservation

No traffic is lost and none is counted twice.  At any time what was counted and what starts took in
from the spool has been acknowledged by the panel, is in the counters, or was drained by a shutdown.

* `Balanced`: the books of a node, with what a cycle under way holds in its hands.
* `Balanced.counts`, `Balanced.report`, `Balanced.start`, `Balanced.shutdown`: each operation keeps
  them.
* `after_balanced`: so does any number of steps.
* `traffic_conserved`: what that says of a node that began with nothing.
-/

namespace ProxyNode.Node

/-- The books are balanced, `taken` being what starts took in, `held` what was drained and not
booked yet, and `unbooked` what was acknowledged and is not in the node's own sum yet. -/
structure Balanced (taken held : Int → Amount) (unbooked : Int) (n : Node) : Prop where
  placed : n.ledger.accumulator.Placed
  traffic : ∀ id, n.counted id + taken id
    = n.acknowledged id + n.ledger.accumulator.amountOf id + n.retired id + held id
  reports : n.ledger.reported + unbooked = n.acknowledgedTotal

/-- What a start would take in of a user's traffic. -/
def spooledOf (n : Node) (id : Int) : Amount :=
  match n.ledger.spool.map Spool.peek with
  | some (.ok pending) => pending.amountOf id
  | _ => 0

/-- What is left of the traffic of a node without books of its own is nothing. -/
theorem IsNew.balanced {n : Node} (h : n.IsNew) : n.Balanced 0 0 0 where
  placed := h.accumulator.placed
  traffic id := by
    simp [counted, acknowledged, retired, h.journal, h.accumulator.amountOf id]
  reports := by
    simp [acknowledgedTotal, h.journal, h.reported]

/-- From `n` to `n'` nothing happened to the traffic, the spool apart. -/
structure Quiet (n n' : Node) : Prop where
  accumulator : n'.ledger.accumulator = n.ledger.accumulator
  reported : n'.ledger.reported = n.ledger.reported
  grows : Grows n n'
  booked : ∃ l : List Event, (∀ e ∈ l, e.isTraffic = false) ∧ n'.booked = l ++ n.booked

theorem Quiet.refl (n : Node) : Quiet n n := ⟨rfl, rfl, .refl n, [], List.forall_mem_nil _, rfl⟩

theorem Quiet.trans {n₁ n₂ n₃ : Node} (h : Quiet n₁ n₂) (h' : Quiet n₂ n₃) : Quiet n₁ n₃ := by
  obtain ⟨l, hs, hl⟩ := h.booked
  obtain ⟨l', hs', hl'⟩ := h'.booked
  refine ⟨h'.accumulator.trans h.accumulator, h'.reported.trans h.reported,
    h.grows.trans h'.grows, l' ++ l, ?_, ?_⟩
  · intro e he
    rcases List.mem_append.mp he with he | he
    · exact hs' e he
    · exact hs e he
  · rw [hl', hl, List.append_assoc]

theorem quiet_note (n : Node) (notice : Notice) : Quiet n (n.note notice) := by
  refine ⟨rfl, rfl, .of_log (e := .noted notice) rfl, ?_⟩
  by_cases h : (Event.noted notice).isBooked = true
  · exact ⟨[.noted notice], List.forall_mem_singleton.mpr rfl,
      List.filter_cons_of_pos h⟩
  · exact ⟨[], List.forall_mem_nil _, List.filter_cons_of_neg h⟩

theorem quiet_spooled (n : Node) (spool : Spool) : Quiet n (n.spooled spool) :=
  ⟨rfl, rfl, .of_log (e := .spoolWritten spool.table) rfl, [.spoolWritten spool.table],
    List.forall_mem_singleton.mpr rfl, rfl⟩

theorem quiet_clearSpool (n : Node) : Quiet n n.clearSpool := by
  rcases clearSpool_cases n with ⟨-, h⟩ | ⟨spool, fault, -, -, -, h⟩ | ⟨spool, -, -, -, h⟩
  · rw [h]
    exact .refl n
  · rw [h]
    exact (quiet_spooled n _).trans (quiet_note _ _)
  · rw [h]
    have ho : Quiet (n.spooled spool.clear.2) { n.spooled spool.clear.2 with
        ledger := { (n.spooled spool.clear.2).ledger with owed := false } } :=
      ⟨rfl, rfl, .refl _, [], List.forall_mem_nil _, rfl⟩
    exact (quiet_spooled n _).trans ho

theorem countedOf_nonneg (e : Event) (id : Int) : 0 ≤ e.countedOf id := by
  cases e with
  | counted d => exact d.of_nonneg id
  | _ => exact le_refl 0

theorem counted_nonneg (n : Node) (id : Int) : 0 ≤ n.counted id := by
  refine List.sum_nonneg fun a ha => ?_
  obtain ⟨e, -, rfl⟩ := List.mem_map.mp ha
  exact countedOf_nonneg e id

/-- What is drained stays in the journal. -/
theorem grows_retire (n : Node) (s : Snapshot) : Grows n (n.retire s).2 := by
  have hl : Grows n (n.log (.retired s)) := .of_log (e := .retired s) rfl
  rcases retire_cases n s with ⟨-, h⟩ | ⟨spool, -, ⟨-, h⟩ | ⟨fault, -, h⟩⟩
  · rw [h]
    exact hl.trans (counts_noteSums _ _ _).grows
  · rw [h]
    exact hl.trans (quiet_spooled _ _).grows
  · rw [h]
    have hq := (quiet_spooled (n.log (.retired s)) (spool.save s).2).trans
      (quiet_note _ (.spoolFailed fault))
    exact (hl.trans hq.grows).trans (counts_noteSums _ _ _).grows

namespace Balanced

variable {taken held : Int → Amount} {unbooked : Int} {n n' : Node}

/-- Counting is booked as it happens. -/
theorem counts (h : n.Balanced taken held unbooked) (hc : Counts n n') :
    n'.Balanced taken held unbooked := by
  obtain ⟨l, ha, hb⟩ := hc.counted
  have hcounted (id : Int) : n'.counted id = (l.map fun d => d.of id).sum + n.counted id := by
    rw [counted_of_booked hb id, List.map_reverse, List.map_reverse, List.sum_reverse,
      List.map_map]
    rfl
  refine ⟨ha ▸ h.placed.foldl_record l, fun id => ?_, ?_⟩
  · rw [hcounted, acknowledged_of_booked hb, retired_of_booked hb, sum_of_kind fun _ => rfl,
      sum_of_kind fun _ => rfl, zero_add, zero_add, ha,
      Accumulator.amountOf_foldl_record h.placed, add_assoc, h.traffic id]
    abel
  · rw [hc.reported, acknowledgedTotal_of_booked hb, sum_of_kind fun _ => rfl, zero_add, h.reports]

/-- Notices have nothing to do with the books. -/
theorem quiet (h : n.Balanced taken held unbooked) (hq : Quiet n n') :
    n'.Balanced taken held unbooked := by
  obtain ⟨l, hs, hb⟩ := hq.booked
  have hz := fun id e he => Event.eq_zero_of_not_traffic id (e := e) he
  refine ⟨hq.accumulator ▸ h.placed, fun id => ?_, ?_⟩
  · rw [counted_of_booked hb, acknowledged_of_booked hb, retired_of_booked hb,
      sum_of_still (fun e he => (hz id e he).1) hs, sum_of_still (fun e he => (hz id e he).2.1) hs,
      sum_of_still (fun e he => (hz id e he).2.2.1) hs, zero_add, zero_add, zero_add,
      hq.accumulator, h.traffic id]
  · rw [hq.reported, acknowledgedTotal_of_booked hb,
      sum_of_still (fun e he => (hz 0 e he).2.2.2) hs, zero_add, h.reports]

/-- What is drained is held. -/
theorem drain (h : n.Balanced taken 0 unbooked) :
    n.drain.2.Balanced taken n.drain.1.amountOf unbooked where
  placed := h.placed.drain
  traffic id := by
    have hs : n.drain.1.amountOf id = n.ledger.accumulator.amountOf id := by
      rw [drain_fst, Accumulator.amountOf_peek h.placed]
    have hd : n.drain.2.ledger.accumulator.amountOf id = 0 :=
      Accumulator.amountOf_drain n.ledger.accumulator id
    have ht : n.counted id + taken id = _ := h.traffic id
    rw [hd, hs]
    show n.counted id + taken id = n.acknowledged id + 0 + n.retired id + _
    rw [ht, Pi.zero_apply]
    abel
  reports := h.reports

/-- What is given back is not held any longer. -/
theorem restore {s : Snapshot} (h : n.Balanced taken s.amountOf unbooked) :
    (n.restore s).Balanced taken 0 unbooked where
  placed := h.placed.restore s
  traffic id := by
    show n.counted id + taken id = n.acknowledged id
      + (n.ledger.accumulator.restore s).amountOf id + n.retired id + 0
    rw [Accumulator.amountOf_restore h.placed, h.traffic id]
    abel
  reports := h.reports

/-- What the panel acknowledges is not held any longer, and has yet to be added to the sum. -/
theorem delivers {s : Snapshot} (hs : s.Distinct) (h : n.Balanced taken s.amountOf 0)
    (hd : Delivers s n n') : n'.Balanced taken 0 (s.up + s.down) := by
  obtain ⟨before, ⟨e, tag, timeout, body⟩, turn, panel, hb, hack, rfl, ha⟩ := hd
  have hbal := h.counts hb.counts
  -- Between the two stretches of counting the request is the only entry that is booked.
  have hbooked : ({ before.log (.asked ⟨e, tag, timeout, some s.payload⟩ turn) with
      panel := panel } : Node).booked
        = [.asked ⟨e, tag, timeout, some s.payload⟩ turn] ++ before.booked :=
    List.filter_cons_of_pos hack
  refine counts ?_ ha.counts
  refine ⟨hbal.placed, fun id => ?_, ?_⟩
  · rw [counted_of_booked hbooked, acknowledged_of_booked hbooked, retired_of_booked hbooked]
    have hp : Event.acknowledgedOf id (.asked ⟨e, tag, timeout, some s.payload⟩ turn)
        = s.amountOf id := by
      rw [Event.acknowledgedOf, if_pos hack, Panel.Request.posted_payload hs]
    have ht := hbal.traffic id
    simp only [List.map_cons, List.map_nil, List.sum_cons, List.sum_nil, hp, Event.countedOf,
      Event.retiredOf, zero_add, add_zero, Pi.zero_apply]
    rw [ht]
    show _ = s.amountOf id + before.acknowledged id + before.ledger.accumulator.amountOf id
      + before.retired id
    abel
  · rw [acknowledgedTotal_of_booked hbooked, ← hbal.reports, List.map_singleton,
      List.sum_singleton, Event.acknowledgedTotal, if_pos hack,
      Panel.Request.postedTotal_payload hs, Int.add_zero, Int.add_comm]
    rfl

/-- A report that was acknowledged is added to the sum, whether or not the spool is cleared. -/
theorem delivered {s : Snapshot} (h : n.Balanced taken 0 (s.up + s.down)) :
    (n.delivered s).2.Balanced taken 0 0 := by
  have hc := (h.counts (rests_log rfl n).counts).quiet (quiet_clearSpool (n.log (.delivered s)))
  have hb : ((n.log (.delivered s)).clearSpool.billed s).Balanced taken 0 0 :=
    ⟨hc.placed, hc.traffic, (Int.add_zero _).trans hc.reports⟩
  exact hb.counts (counts_delivered n s)

/-- A report cycle keeps the books balanced, however the report ends. -/
theorem report (h : n.Balanced taken 0 0) (timeout : Option Float) (policy : Retry) :
    (n.report timeout policy).2.Balanced taken 0 0 := by
  rcases report_cases n timeout policy with ⟨he, -, hr⟩ | ⟨m, hm, -, hr⟩ | ⟨m, fault, hm, -, hr⟩
  · rw [hr]
    have hz : n.drain.1.amountOf = 0 := funext (Snapshot.amountOf_of_isEmpty he)
    have hd := h.drain
    rw [hz] at hd
    exact hd.counts (counts_noted _ _ _ _)
  · rw [hr]
    have hs : n.drain.1.Distinct := by
      rw [drain_fst]
      exact Accumulator.distinct_peek _
    exact (h.drain.delivers hs hm).delivered
  · rw [hr]
    exact ((h.drain.counts hm.counts).counts (counts_undelivered m _ fault)).restore

/-- What a start takes in from the spool is booked as taken. -/
theorem resume (h : n.Balanced taken 0 0) :
    n.resume.2.Balanced (fun id => taken id + n.spooledOf id) 0 0 := by
  rcases resume_cases n with ⟨hr, he⟩ | ⟨spool, pending, hs, hp, -, hr⟩
  · have hz (id : Int) : n.spooledOf id = 0 := by
      unfold spooledOf
      split
      · next pending hm =>
        obtain ⟨spool, hs, hp⟩ := Option.map_eq_some_iff.mp hm
        exact Snapshot.amountOf_of_isEmpty (he spool pending hs hp) id
      · rfl
    rw [hr]
    simpa only [hz, add_zero] using h
  · have hb : n.Balanced (fun id => taken id + n.spooledOf id) pending.amountOf 0 := by
      refine ⟨h.placed, fun id => ?_, h.reports⟩
      rw [spooledOf, hs, Option.map_some, hp, ← add_assoc, h.traffic id, Pi.zero_apply, add_zero]
    have hq : Quiet (n.restore pending) (n.owing pending) :=
      ⟨rfl, rfl, .of_log (e := .resumed pending) rfl, [], List.forall_mem_nil _,
        booked_of_log (e := .resumed pending) rfl rfl⟩
    rw [hr]
    exact (hb.restore.quiet hq).counts (counts_noteSums _ _ _)

/-- What a running node does keeps the books balanced. -/
theorem accounts (taken : Int → Amount) : Accounts (Balanced taken 0 0) :=
  ⟨counts, fun timeout policy h => h.report timeout policy⟩

/-- A start keeps the books balanced, with what it takes in. -/
theorem start (h : n.Balanced taken 0 0) :
    n.start.2.Balanced (fun id => taken id + n.spooledOf id) 0 0 :=
  (accounts _).kept.start (h.counts (counts_phase n .starting)).resume

/-- What is retired is booked as such, whether the spool takes it or not. -/
theorem retire {s : Snapshot} (h : n.Balanced taken s.amountOf 0) :
    (n.retire s).2.Balanced taken 0 0 := by
  have hbooked : (n.log (.retired s)).booked = [.retired s] ++ n.booked := rfl
  have hr : (n.log (.retired s)).Balanced taken 0 0 := by
    refine ⟨h.placed, fun id => ?_, ?_⟩
    · rw [counted_of_booked hbooked, acknowledged_of_booked hbooked, retired_of_booked hbooked]
      simp only [List.map_cons, List.map_nil, List.sum_cons, List.sum_nil, Event.countedOf,
        Event.acknowledgedOf, Event.retiredOf, zero_add, add_zero, Pi.zero_apply]
      rw [h.traffic id]
      show _ = n.acknowledged id + n.ledger.accumulator.amountOf id
        + (s.amountOf id + n.retired id)
      abel
    · rw [acknowledgedTotal_of_booked hbooked, ← h.reports]
      simp [Event.acknowledgedTotal, Node.log]
  rcases retire_cases n s with ⟨-, h'⟩ | ⟨spool, -, ⟨-, h'⟩ | ⟨fault, -, h'⟩⟩
  · rw [h']
    exact hr.counts (counts_noteSums _ _ _)
  · rw [h']
    exact hr.quiet (quiet_spooled _ _)
  · rw [h']
    exact (hr.quiet ((quiet_spooled _ _).trans (quiet_note _ _))).counts (counts_noteSums _ _ _)

theorem finalFlush (h : n.Balanced taken 0 0) : n.finalFlush.2.Balanced taken 0 0 := by
  refine finalFlush_induction (P := Balanced taken 0 0) (h.report _ .once) ?_ id ?_ ?_
  · exact fun hm => hm.counts (listens_note _ _).counts
  · intro k hk he
    have hz : k.drain.1.amountOf = 0 := funext (Snapshot.amountOf_of_isEmpty he)
    have hd := hk.drain
    rw [hz] at hd
    exact hd
  · exact fun hk => hk.drain.retire

/-- A shutdown keeps the books balanced. -/
theorem shutdown (h : n.Balanced taken 0 0) (inFlight : List Cycle) :
    (n.shutdown inFlight).2.Balanced taken 0 0 := by
  have hs := h.counts (counts_phase n .stopping)
  have hc := (accounts taken).kept.closing hs inFlight
  have hf := (hc.counts (manages_stopEngine _).counts).finalFlush
  exact shutdown_induction h hf fun phase hm => hm.counts (counts_shutDown _ phase)

end Balanced

/-- What the starts among some steps take in of a user's traffic from the spool. -/
def restored (id : Int) (n : Node) : List Step → Amount
  | [] => 0
  | .start :: rest => n.spooledOf id + restored id n.start.2 rest
  | s :: rest => restored id (n.step s) rest

/-- Any number of steps keep the books balanced. -/
theorem after_balanced {taken : Int → Amount} {n : Node} (h : n.Balanced taken 0 0)
    (steps : List Step) :
    (n.after steps).Balanced (fun id => taken id + restored id n steps) 0 0 := by
  -- `taken` is general, since each start adds to it what it takes in.
  induction steps generalizing n taken with
  | nil => simpa [restored, after] using h
  | cons s rest ih =>
      cases s with
      | start =>
          have hs := ih h.start
          simp only [add_assoc] at hs
          exact hs
      | act a => exact ih ((Balanced.accounts taken).kept.act h a)
      | shutdown inFlight => exact ih (h.shutdown inFlight)

/-- No traffic is lost and none is counted twice: of every user, what was counted and what starts
took in from the spool is what the panel acknowledged, what a look at the counters shows, and what
shutdowns drained.  The node's own sum is that of all acknowledged reports. -/
theorem traffic_conserved {n : Node} (h : n.IsNew) (steps : List Step) :
    (∀ id, (n.after steps).counted id + restored id n steps
      = (n.after steps).acknowledged id + (n.after steps).ledger.accumulator.peek.amountOf id
        + (n.after steps).retired id)
    ∧ (n.after steps).ledger.reported = (n.after steps).acknowledgedTotal := by
  have hb := after_balanced h.balanced steps
  refine ⟨fun id => ?_, ?_⟩
  · rw [Accumulator.amountOf_peek hb.placed]
    simpa using hb.traffic id
  · simpa using hb.reports

/-- The sample takes five and seven bytes in from its spool.  Its first report is acknowledged with
these and its last one with what was counted meanwhile; what is counted then is drained. -/
theorem traffic_conserved_sample :
    (sample.after [.start, .act (.report none .once), .shutdown []]).acknowledged 1 = ⟨7, 10⟩
    ∧ (sample.after [.start, .act (.report none .once), .shutdown []]).retired 1 = ⟨2, 3⟩
    ∧ (sample.after [.start, .act (.report none .once), .shutdown []]).ledger.reported
      = (sample.after [.start, .act (.report none .once), .shutdown []]).acknowledgedTotal :=
  ⟨by decide +kernel, by decide +kernel, (traffic_conserved isNew_sample _).2⟩

end ProxyNode.Node
