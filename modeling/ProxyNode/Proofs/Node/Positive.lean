import ProxyNode.Proofs.Node.Conservation
import ProxyNode.Proofs.Traffic.Spool

/-!
# Node — Positive, no count falls below zero

The engine counts upwards only.  If what a node finds in its spool is not negative, nothing that it
counts, reports, drains or saves ever is.

* `le_amountOf_of_counts`: counting takes nothing away.
* `Positive`: no count is negative, neither in the node nor in its books nor in its spool.
* `Positive.accounts`, `Positive.start`, `Positive.shutdown`: every operation keeps it so.
-/

namespace ProxyNode.Node

/-- Counting takes nothing away. -/
theorem le_amountOf_of_counts {n n' : Node} (h : n.ledger.accumulator.Placed) (hc : Counts n n')
    (id : Int) : n.ledger.accumulator.amountOf id ≤ n'.ledger.accumulator.amountOf id := by
  obtain ⟨l, ha, -⟩ := hc.counted
  rw [ha, Accumulator.amountOf_foldl_record h]
  refine le_add_of_nonneg_right (List.sum_nonneg ?_)
  intro a hm
  obtain ⟨d, -, rfl⟩ := List.mem_map.mp hm
  exact d.of_nonneg id

/-- If the spool of a node can be read, what it holds is not negative. -/
def SpoolsNonneg (n : Node) : Prop :=
  ∀ spool s, n.ledger.spool = some spool → spool.peek = .ok s → s.Nonneg

/-- No count is negative: in the counters, in what the panel acknowledged, in what shutdowns drained
and in the spool. -/
structure Positive (n : Node) : Prop where
  placed : n.ledger.accumulator.Placed
  pending : ∀ id, 0 ≤ n.ledger.accumulator.amountOf id
  acknowledged : ∀ id, 0 ≤ n.acknowledged id
  retired : ∀ id, 0 ≤ n.retired id
  spool : n.SpoolsNonneg

theorem IsNew.positive {n : Node} (h : n.IsNew) (hs : n.SpoolsNonneg) : n.Positive where
  placed := h.accumulator.placed
  pending id := (h.accumulator.amountOf id).ge
  acknowledged id := by simp [Node.acknowledged, h.journal]
  retired id := by simp [Node.retired, h.journal]
  spool := hs

namespace Positive

variable {n n' : Node} {s : Snapshot}

theorem counts (h : n.Positive) (hc : Counts n n') : n'.Positive := by
  obtain ⟨l, ha, hb⟩ := hc.counted
  refine ⟨ha ▸ h.placed.foldl_record l, fun id => ?_, fun id => ?_, fun id => ?_, ?_⟩
  · exact (h.pending id).trans (le_amountOf_of_counts h.placed hc id)
  · rw [acknowledged_of_booked hb, sum_of_kind fun _ => rfl, zero_add]
    exact h.acknowledged id
  · rw [retired_of_booked hb, sum_of_kind fun _ => rfl, zero_add]
    exact h.retired id
  · unfold SpoolsNonneg
    rw [hc.spool]
    exact h.spool

/-- Where no traffic is moved it is enough to look at the spool. -/
theorem quiet (h : n.Positive) (hq : Quiet n n') (hs : n'.SpoolsNonneg) : n'.Positive := by
  obtain ⟨l, hl, hb⟩ := hq.booked
  have hz := fun id e he => Event.eq_zero_of_not_traffic id (e := e) he
  refine ⟨hq.accumulator ▸ h.placed, fun id => hq.accumulator ▸ h.pending id, fun id => ?_,
    fun id => ?_, hs⟩
  · rw [acknowledged_of_booked hb, sum_of_still (fun e he => (hz id e he).2.1) hl, zero_add]
    exact h.acknowledged id
  · rw [retired_of_booked hb, sum_of_still (fun e he => (hz id e he).2.2.1) hl, zero_add]
    exact h.retired id

theorem drain (h : n.Positive) : n.drain.2.Positive where
  placed := h.placed.drain
  pending id := (Accumulator.amountOf_drain n.ledger.accumulator id).ge
  acknowledged := h.acknowledged
  retired := h.retired
  spool := h.spool

/-- No count that is drained is negative. -/
theorem nonneg_drain (h : n.Positive) : n.drain.1.Nonneg := by
  rw [drain_fst]
  intro e he
  rw [← Snapshot.amountOf_of_mem (Accumulator.distinct_peek _) he,
    Accumulator.amountOf_peek h.placed]
  exact h.pending e.id

theorem restore (h : n.Positive) (hs : s.Nonneg) : (n.restore s).Positive where
  placed := h.placed.restore s
  pending id := by
    have hr := Accumulator.amountOf_restore h.placed s id
    exact hr ▸ add_nonneg (h.pending id) (hs.amountOf id)
  acknowledged := h.acknowledged
  retired := h.retired
  spool := h.spool

theorem delivers (h : n.Positive) (hdistinct : s.Distinct) (hs : s.Nonneg)
    (hd : Delivers s n n') : n'.Positive := by
  obtain ⟨before, ⟨e, tag, timeout, body⟩, turn, panel, hb, hack, rfl, ha⟩ := hd
  have hk := h.counts hb.counts
  have hbooked : ({ before.log (.asked ⟨e, tag, timeout, some s.payload⟩ turn) with
      panel := panel } : Node).booked
        = [.asked ⟨e, tag, timeout, some s.payload⟩ turn] ++ before.booked :=
    List.filter_cons_of_pos hack
  refine counts ?_ ha.counts
  refine ⟨hk.placed, hk.pending, fun id => ?_, fun id => ?_, hk.spool⟩
  · rw [acknowledged_of_booked hbooked, List.map_singleton, List.sum_singleton,
      Event.acknowledgedOf, if_pos hack, Panel.Request.posted_payload hdistinct]
    exact add_nonneg (hs.amountOf id) (hk.acknowledged id)
  · have hz : Event.retiredOf id (.asked ⟨e, tag, timeout, some s.payload⟩ turn) = 0 := rfl
    rw [retired_of_booked hbooked, List.map_singleton, List.sum_singleton, hz, zero_add]
    exact hk.retired id

/-- A spool that was cleared holds nothing, and one that refused holds what it held. -/
theorem clearSpool (h : n.Positive) : n.clearSpool.Positive := by
  refine h.quiet (quiet_clearSpool n) ?_
  intro after held hs hp
  rcases clearSpool_cases n with
    ⟨-, hc⟩ | ⟨spool, fault, -, hspool, herr, hc⟩ | ⟨spool, -, -, hok, hc⟩
  · rw [hc] at hs
    exact h.spool after held hs hp
  · rw [hc] at hs
    cases hs
    exact h.spool spool held hspool ((Spool.peek_of_clear_error (Prod.ext herr rfl)).symm.trans hp)
  · rw [hc] at hs
    cases hs
    obtain ⟨left, hleft, he⟩ := Spool.isEmpty_of_clear (Prod.ext hok rfl)
    rw [hleft] at hp
    cases hp
    intro e hm
    rw [List.isEmpty_iff.mp he] at hm
    cases hm

theorem delivered (h : n.Positive) (s : Snapshot) : (n.delivered s).2.Positive := by
  have hc := (h.counts (rests_log (e := .delivered s) rfl n).counts).clearSpool
  have hb : ((n.log (.delivered s)).clearSpool.billed s).Positive :=
    ⟨hc.placed, hc.pending, hc.acknowledged, hc.retired, hc.spool⟩
  exact hb.counts (counts_delivered n s)

theorem report (h : n.Positive) (timeout : Option Float) (policy : Retry) :
    (n.report timeout policy).2.Positive := by
  rcases report_cases n timeout policy with ⟨-, -, hr⟩ | ⟨m, hm, -, hr⟩ | ⟨m, fault, hm, -, hr⟩
  · rw [hr]
    exact h.drain.counts (counts_noted _ _ _ _)
  · rw [hr]
    exact (h.drain.delivers (n.drain_fst ▸ Accumulator.distinct_peek _) h.nonneg_drain
      hm).delivered _
  · rw [hr]
    exact ((h.drain.counts hm.counts).counts (counts_undelivered m _ fault)).restore
      h.nonneg_drain

theorem accounts : Accounts Positive := ⟨counts, fun timeout policy h => h.report timeout policy⟩

theorem owing (h : n.Positive) (hs : s.Nonneg) : (n.owing s).Positive := by
  have hk := h.restore hs
  exact hk.quiet ⟨rfl, rfl, .of_log (e := .resumed s) rfl, [], List.forall_mem_nil _,
    booked_of_log (e := .resumed s) rfl rfl⟩ hk.spool

theorem resume (h : n.Positive) : n.resume.2.Positive := by
  rcases resume_cases n with ⟨hr, -⟩ | ⟨spool, pending, hs, hp, -, hr⟩
  · rw [hr]
    exact h
  · rw [hr]
    exact (h.owing (h.spool spool pending hs hp)).counts (counts_noteSums _ _ _)

theorem start (h : n.Positive) : n.start.2.Positive :=
  accounts.kept.start (h.counts (counts_phase n .starting)).resume

/-- What is saved is not negative, and a spool that refused holds what it held. -/
theorem retire (h : n.Positive) (hs : s.Nonneg) : (n.retire s).2.Positive := by
  have hbooked : (n.log (.retired s)).booked = [.retired s] ++ n.booked := rfl
  have hl : (n.log (.retired s)).Positive := by
    refine ⟨h.placed, h.pending, fun id => ?_, fun id => ?_, h.spool⟩
    · have hz : Event.acknowledgedOf id (.retired s) = 0 := rfl
      rw [acknowledged_of_booked hbooked, List.map_singleton, List.sum_singleton, hz, zero_add]
      exact h.acknowledged id
    · rw [retired_of_booked hbooked, List.map_singleton, List.sum_singleton]
      exact add_nonneg (hs.amountOf id) (h.retired id)
  rcases retire_cases n s with ⟨-, hr⟩ | ⟨spool, hspool, ⟨hok, hr⟩ | ⟨fault, herr, hr⟩⟩
  · rw [hr]
    exact hl.counts (counts_noteSums _ _ _)
  · rw [hr]
    refine hl.quiet (quiet_spooled _ _) ?_
    rintro after held ⟨⟩ hp
    rw [Spool.peek_of_save (Prod.ext hok rfl)] at hp
    cases hp
    exact hs
  · rw [hr]
    refine (hl.quiet ((quiet_spooled _ _).trans (quiet_note _ (.spoolFailed fault))) ?_).counts
      (counts_noteSums _ _ _)
    rintro after held ⟨⟩ hp
    exact h.spool spool held hspool ((Spool.peek_of_save_error (Prod.ext herr rfl)).symm.trans hp)

theorem finalFlush (h : n.Positive) : n.finalFlush.2.Positive := by
  refine finalFlush_induction (P := Positive) (h.report _ .once) ?_ id ?_ ?_
  · exact fun hm => hm.counts (listens_note _ _).counts
  · exact fun hk _ => hk.drain
  · exact fun hk => hk.drain.retire hk.nonneg_drain

theorem shutdown (h : n.Positive) (inFlight : List Cycle) : (n.shutdown inFlight).2.Positive := by
  have hc := accounts.kept.closing (h.counts (counts_phase n .stopping)) inFlight
  have hf := (hc.counts (manages_stopEngine _).counts).finalFlush
  exact shutdown_induction h hf fun phase hm => hm.counts (counts_shutDown _ phase)

/-- Any number of steps leave no count negative. -/
theorem after (h : n.Positive) (steps : List Step) : (n.after steps).Positive := by
  refine after_induction (P := Positive) (fun n s hn => ?_) h steps
  cases s with
  | start => exact hn.start
  | act a => exact accounts.kept.act hn a
  | shutdown inFlight => exact hn.shutdown inFlight

end Positive

end ProxyNode.Node
