import ProxyNode.Proofs.Node.Conservation
import ProxyNode.Proofs.Traffic.Spool

/-!
# Node — Trades, what a running node does to its books

Until a node is shut down nothing is drained for good, and a spool that works goes on working.

* `Trades`: the relation between a node and the same node later.
* `trades_report`, `trades_start`, `trades_after`: whatever is done before a shutdown does no more.
-/

namespace ProxyNode.Node

variable {n n₁ n₂ n₃ n' : Node} {s : Snapshot}

/-- A node with a spool that works. -/
def SpoolWorks (n : Node) : Prop := ∃ spool, n.ledger.spool = some spool ∧ spool.Works

/-- From `n` to `n'` nothing was drained for good, and a spool that worked works. -/
structure Trades (n n' : Node) : Prop where
  grows : Grows n n'
  retired : ∀ id, n'.retired id = n.retired id
  works : n.SpoolWorks → n'.SpoolWorks

theorem Trades.refl (n : Node) : Trades n n := ⟨.refl n, fun _ => rfl, id⟩

theorem Trades.trans (h : Trades n₁ n₂) (h' : Trades n₂ n₃) : Trades n₁ n₃ :=
  ⟨h.grows.trans h'.grows, fun id => (h'.retired id).trans (h.retired id),
    fun hw => h'.works (h.works hw)⟩

theorem Counts.trades (h : Counts n n') : Trades n n' := by
  obtain ⟨deltas, -, hb⟩ := h.counted
  refine ⟨h.grows, fun id => ?_, ?_⟩
  · rw [retired_of_booked hb, sum_of_kind fun _ => rfl, zero_add]
  · unfold SpoolWorks
    rw [h.spool]
    exact id

theorem Quiet.trades (h : Quiet n n') (hw : n.SpoolWorks → n'.SpoolWorks) : Trades n n' := by
  obtain ⟨l, hl, hb⟩ := h.booked
  refine ⟨h.grows, fun id => ?_, hw⟩
  rw [retired_of_booked hb,
    sum_of_still (fun e he => (Event.eq_zero_of_not_traffic id he).2.2.1) hl, zero_add]

theorem Delivers.trades (h : Delivers s n n') : Trades n n' := by
  obtain ⟨before, request, turn, panel, hb, hack, -, ha⟩ := h
  have hbooked : ({ before.log (.asked request turn) with panel := panel } : Node).booked
      = [.asked request turn] ++ before.booked := List.filter_cons_of_pos hack
  have hs : Trades before { before.log (.asked request turn) with panel := panel } := by
    refine ⟨.of_log (e := .asked request turn) rfl, fun id => ?_, fun hw => hw⟩
    exact (retired_of_booked hbooked id).trans (zero_add _)
  exact (hb.counts.trades.trans hs).trans ha.counts.trades

theorem trades_clearSpool (n : Node) : Trades n n.clearSpool := by
  refine (quiet_clearSpool n).trades ?_
  rintro ⟨spool, hs, hw⟩
  have hc : spool.clear.2.Works := hw.write (.ok [])
  rcases clearSpool_cases n with
    ⟨-, h⟩ | ⟨spool', fault, -, hs', -, h⟩ | ⟨spool', -, hs', -, h⟩
  · rw [h]
    exact ⟨spool, hs, hw⟩
  · obtain rfl : spool = spool' := Option.some.inj (hs.symm.trans hs')
    rw [h]
    exact ⟨_, rfl, hc⟩
  · obtain rfl : spool = spool' := Option.some.inj (hs.symm.trans hs')
    rw [h]
    exact ⟨_, rfl, hc⟩

theorem trades_delivered (n : Node) (s : Snapshot) : Trades n (n.delivered s).2 := by
  have hl := (rests_log (e := .delivered s) rfl n).counts.trades
  have hc := hl.trans (trades_clearSpool (n.log (.delivered s)))
  have hb : Trades n ((n.log (.delivered s)).clearSpool.billed s) :=
    hc.trans ⟨.refl _, fun _ => rfl, id⟩
  exact hb.trans (counts_delivered n s).trades

theorem trades_drain (n : Node) : Trades n n.drain.2 := ⟨.refl n, fun _ => rfl, id⟩

theorem trades_restore (n : Node) (s : Snapshot) : Trades n (n.restore s) :=
  ⟨.refl n, fun _ => rfl, id⟩

theorem trades_report (n : Node) (timeout : Option Float) (policy : Retry) :
    Trades n (n.report timeout policy).2 := by
  rcases report_cases n timeout policy with ⟨-, -, hr⟩ | ⟨m, hm, -, hr⟩ | ⟨m, fault, hm, -, hr⟩
  · rw [hr]
    exact (trades_drain n).trans (counts_noted _ _ _ _).trades
  · rw [hr]
    exact ((trades_drain n).trans hm.trades).trans (trades_delivered m _)
  · rw [hr]
    have hc := (hm.counts.trans (counts_undelivered m n.drain.1 fault)).trades
    exact ((trades_drain n).trans hc).trans (trades_restore _ _)

theorem trades_accounts (n : Node) : Accounts (Trades n) :=
  ⟨fun h hc => h.trans hc.trades, fun timeout policy h => h.trans (trades_report _ timeout policy)⟩

theorem trades_resume (n : Node) : Trades n n.resume.2 := by
  rcases resume_cases n with ⟨hr, -⟩ | ⟨spool, pending, -, -, -, hr⟩
  · rw [hr]
    exact .refl n
  · have ho : Trades (n.restore pending) (n.owing pending) :=
      ⟨.of_log (e := .resumed pending) rfl, fun id => by
        have hb : (n.owing pending).booked = [] ++ (n.restore pending).booked :=
          booked_of_log (e := .resumed pending) rfl rfl
        exact (retired_of_booked hb id).trans (zero_add _), id⟩
    rw [hr]
    exact ((trades_restore n pending).trans ho).trans (counts_noteSums _ _ _).trades

theorem trades_start (n : Node) : Trades n n.start.2 :=
  (trades_accounts n).kept.start
    ((counts_phase n .starting).trades.trans (trades_resume { n with phase := .starting }))

/-- What is done with a node before its shutdown drains nothing for good. -/
theorem trades_after (n : Node) {steps : List Step}
    (hopen : ∀ s ∈ steps, s.isShutdown = false) : Trades n (n.after steps) :=
  after_induction_of_open (P := Trades n) (fun _ h => h.trans (trades_start _))
    (fun _ a h => (trades_accounts n).kept.act h a) (.refl n) hopen

end ProxyNode.Node
