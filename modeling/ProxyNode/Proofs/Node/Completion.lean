import ProxyNode.Proofs.Node.Lineage
import ProxyNode.Proofs.Node.Positive
import ProxyNode.Proofs.Node.Registry
import ProxyNode.Proofs.Node.Requests
import ProxyNode.Proofs.Node.Trades

/-!
# Node — Completion of a shutdown

A shutdown lets go of the engine and sends one last report.  If that report ends in a way that was
reckoned with, the shutdown comes to its end and the spool has what the panel did not acknowledge.
Otherwise it breaks off: the node stays where it is and the traffic in the counters.

* `Answer.settles`: the answers that were reckoned with.
* `Solvent`: a node that has drained nothing for good and has a spool that works.
* `finalFlush_of_settles`, `finalFlush_of_not_settles`: how the last report ends.
* `shutdown_completes`: how a shutdown ends, at any node that has not been shut down yet.
* `shutdown_breaks_off`: a panel that answers a report with "not modified" breaks it off.
-/

namespace ProxyNode

namespace Panel

/-- Whether reading a text as JSON is given up for its depth. -/
def isTooDeep (text : String) : Bool :=
  match Json.read text with
  | .error (.tooDeep _) => true
  | _ => false

/-- Whether an answer to a report was reckoned with: it acknowledges the report, refuses it, or
leaves open what became of it in a way that is usual for a network. -/
def Answer.settles : Answer → Bool
  | .timedOut _ => true
  | .failed _ => true
  | .broken _ => false
  | .response r =>
    r.status ≠ 304 && (Client.isBusy r.status || 400 ≤ r.status || !isTooDeep r.text)

/-- Whether a report comes to an end: it was taken, or failed in a way that was reckoned with. -/
def isSettled : Except Fault Unit → Bool
  | .ok () => true
  | .error fault => fault.isRejected || fault.isTransient

theorem Client.isSettled_acceptPush (c : Client) (a : Answer) :
    isSettled (c.acceptPush a) = a.settles := by
  cases a with
  | timedOut detail => rfl
  | failed detail => rfl
  | broken cause => rfl
  | response r =>
      by_cases h304 : r.status = 304
      · simp [acceptPush, receive, Answer.settles, isSettled, h304, Fault.isRejected,
          Fault.isTransient]
      · by_cases hbusy : isBusy r.status = true
        · simp [acceptPush, receive, Answer.settles, isSettled, h304, hbusy, Fault.isRejected,
            Fault.isTransient]
        · by_cases h400 : 400 ≤ r.status
          · simp [acceptPush, receive, Answer.settles, isSettled, h304, hbusy, h400,
              Fault.isRejected]
          · simp only [acceptPush, receive, Answer.settles, isTooDeep, h304, hbusy, h400, if_false]
            rcases Json.read r.text with (_ | _ | nested) | body <;>
              simp [isSettled, Fault.isRejected, Fault.isTransient, h304]

end Panel

namespace Node

variable {n p : Node} {s : Snapshot} {taken : Int → Amount} {traffic : List Entry}
  {inFlight : List Cycle}

/-! ### What was counted and taken in -/

/-- What a node counted, as entries. -/
def countedEntries (n : Node) : List Entry :=
  n.journal.filterMap fun
    | .counted d => some ⟨d.id, d.amount⟩
    | _ => none

/-- What a start would take in, as entries. -/
def spooledEntries (n : Node) : List Entry :=
  match n.ledger.spool.map Spool.peek with
  | some (.ok pending) => pending.entries
  | _ => []

/-- What the starts among some steps take in, as entries. -/
def takenEntries (n : Node) : List Step → List Entry
  | [] => []
  | .start :: rest => n.spooledEntries ++ takenEntries n.start.2 rest
  | s :: rest => takenEntries (n.step s) rest

theorem trafficOf_append (l l' : List Entry) (id : Int) :
    trafficOf (l ++ l') id = trafficOf l id + trafficOf l' id := by
  rw [trafficOf, List.map_append, List.sum_append]
  rfl

theorem trafficOf_countedEntries (n : Node) (id : Int) :
    trafficOf n.countedEntries id = n.counted id := by
  unfold countedEntries counted trafficOf
  induction n.journal with
  | nil => rfl
  | cons e rest ih =>
      rw [List.map_cons, List.sum_cons, ← ih]
      cases e with
      | counted d => rfl
      | _ => exact (zero_add _).symm

theorem trafficOf_spooledEntries (n : Node) (id : Int) :
    trafficOf n.spooledEntries id = n.spooledOf id := by
  unfold spooledEntries spooledOf
  rcases n.ledger.spool.map Spool.peek with _ | _ | pending
  · rfl
  · rfl
  · rfl

theorem trafficOf_takenEntries (n : Node) (steps : List Step) (id : Int) :
    trafficOf (takenEntries n steps) id = restored id n steps := by
  induction steps generalizing n with
  | nil => rfl
  | cons s rest ih =>
      cases s with
      | start => rw [takenEntries, trafficOf_append, trafficOf_spooledEntries, ih, restored]
      | act a => exact ih _
      | shutdown inFlight => exact ih _

/-- What was counted is not counted back. -/
theorem counted_le_of_grows {n' : Node} (h : Grows n n') (id : Int) :
    n.counted id ≤ n'.counted id := by
  obtain ⟨l, hl⟩ := h
  rw [counted, counted, ← hl, List.map_append, List.sum_append]
  refine le_add_of_nonneg_left (List.sum_nonneg fun a ha => ?_)
  obtain ⟨e, -, rfl⟩ := List.mem_map.mp ha
  exact countedOf_nonneg e id

/-- Of traffic that is manageable all that a node drains is tractable. -/
theorem tractable_drain (hb : n.Balanced taken 0 0) (hp : n.Positive) (hm : Manageable traffic)
    (hle : ∀ id, n.counted id + taken id ≤ trafficOf traffic id) : n.drain.1.Tractable := by
  refine hm.tractable (n.drain_fst ▸ Accumulator.distinct_peek _) hp.nonneg_drain fun id => ?_
  -- What is in the counters is what was counted and taken in, less what left them.
  rw [drain_fst, Accumulator.amountOf_peek hp.placed]
  refine le_trans ?_ (hle id)
  rw [hb.traffic id, Pi.zero_apply, add_zero]
  exact (le_add_of_nonneg_left (hp.acknowledged id)).trans (le_add_of_nonneg_right (hp.retired id))

/-! ### The last report -/

theorem delivered_of_tractable (n : Node) (h : s.Tractable) : (n.delivered s).1 = .ok () := by
  unfold delivered
  dsimp only
  rw [if_pos h.total, noteSums, if_pos h.sums]

/-- Whether the last report of a node comes to an end: there is nothing to report, or the answer was
reckoned with. -/
def settles (n : Node) : Bool :=
  n.drain.1.isEmpty || (n.panel.next .push).1.answer.settles

/-- A report that is sent once ends as its answer says. -/
theorem push_once (n : Node) (s : Snapshot) (timeout : Option Float) (hp : s.isPostable = true) :
    Panel.isSettled (n.push s timeout).1 = (n.panel.next .push).1.answer.settles := by
  rw [push, if_pos hp]
  exact Panel.Client.isSettled_acceptPush _ _

theorem report_once_of_settles (h : n.settles = true) (ht : n.drain.1.Tractable)
    (timeout : Option Float) : ∃ ok, (n.report timeout .once).1 = .ok ok := by
  by_cases he : n.drain.1.isEmpty = true
  · exact ⟨true, by rw [report_of_nothing he]⟩
  · -- Without a second attempt the result is what the client makes of the one answer.
    have hs := (push_once n.drain.2 n.drain.1 timeout ht.postable).trans
      ((Bool.or_eq_true_iff.mp h).resolve_left he)
    unfold report
    dsimp only
    rw [if_neg he]
    split
    · next m hm =>
      have hd := m.delivered_of_tractable ht
      split
      · next fault k hk => rw [hk] at hd; cases hd
      · exact ⟨true, rfl⟩
    · next fault m hm =>
      have hm : n.drain.2.push n.drain.1 timeout = (.error fault, m) := hm
      rw [hm] at hs
      have hs : (fault.isRejected || fault.isTransient) = true := hs
      exact ⟨false, by rw [if_pos hs]⟩

/-- A report whose answer was not reckoned with breaks off, with all its traffic given back. -/
theorem report_once_of_not_settles (h : n.settles = false) (timeout : Option Float) :
    ∃ m fault, Listens n.drain.2 m
      ∧ n.report timeout .once = (.error fault, m.restore n.drain.1) := by
  obtain ⟨he, ha⟩ := Bool.or_eq_false_iff.mp h
  have hs : Panel.isSettled (n.drain.2.push n.drain.1 timeout).1 = false := by
    by_cases hp : n.drain.1.isPostable = true
    · rw [push_once _ _ _ hp]
      exact ha
    · rw [push, if_neg hp]
      rfl
  unfold report
  dsimp only
  rw [if_neg (Bool.eq_false_iff.mp he)]
  split
  · next m hm =>
    have hm : n.drain.2.push n.drain.1 timeout = (.ok (), m) := hm
    rw [hm] at hs
    cases hs
  · next fault m hm =>
    rcases pushing_cases _ _ _ _ _ hm with ⟨hr, -⟩ | ⟨fault', -, hl⟩
    · cases hr
    · have hm : n.drain.2.push n.drain.1 timeout = (.error fault, m) := hm
      rw [hm] at hs
      have hs : (fault.isRejected || fault.isTransient) = false := hs
      obtain ⟨hrejected, htransient⟩ := Bool.or_eq_false_iff.mp hs
      refine ⟨m, fault, hl, ?_⟩
      rw [if_neg (Bool.eq_false_iff.mp hs), undelivered,
        if_neg (Bool.eq_false_iff.mp hrejected), if_neg (Bool.eq_false_iff.mp htransient)]

/-- What was not acknowledged of all that was counted and taken in is in the spool. -/
def Stored (taken : Int → Amount) (n : Node) : Prop :=
  ∃ left spool, n.ledger.spool = some spool ∧ (left.isEmpty = false → spool.peek = .ok left)
    ∧ ∀ id, n.counted id + taken id = n.acknowledged id + left.amountOf id

/-- What was not acknowledged of all that was counted and taken in is in the counters. -/
def Pending (taken : Int → Amount) (n : Node) : Prop :=
  ∀ id, n.counted id + taken id = n.acknowledged id + n.ledger.accumulator.peek.amountOf id

theorem Stored.shutDown (h : n.Stored taken) (phase : Phase) :
    (Node.note { n with phase := phase } .shutDown).Stored taken := by
  obtain ⟨left, spool, hs, hp, heq⟩ := h
  have hb : (Node.note { n with phase := phase } .shutDown).booked = [] ++ n.booked :=
    booked_of_log (e := .noted .shutDown) rfl rfl
  refine ⟨left, spool, hs, hp, fun id => ?_⟩
  rw [counted_of_booked hb, acknowledged_of_booked hb]
  simpa using heq id

/-- A node that has drained nothing for good and has a spool that works. -/
structure Solvent (taken : Int → Amount) (n : Node) : Prop where
  balanced : n.Balanced taken 0 0
  positive : n.Positive
  retired : ∀ id, n.retired id = 0
  works : n.SpoolWorks

namespace Solvent

theorem trades (h : n.Solvent taken) (ht : Trades n p) (hb : p.Balanced taken 0 0)
    (hp : p.Positive) : p.Solvent taken :=
  ⟨hb, hp, fun id => (ht.retired id).trans (h.retired id), ht.works h.works⟩

theorem counts (h : n.Solvent taken) (hc : Counts n p) : p.Solvent taken :=
  h.trades hc.trades (h.balanced.counts hc) (h.positive.counts hc)

theorem report (h : n.Solvent taken) (timeout : Option Float) (policy : Retry) :
    (n.report timeout policy).2.Solvent taken :=
  h.trades (trades_report n timeout policy) (h.balanced.report timeout policy)
    (h.positive.report timeout policy)

theorem accounts : Accounts (Solvent taken) :=
  ⟨counts, fun timeout policy h => h.report timeout policy⟩

theorem pending (h : n.Solvent taken) : n.Pending taken := by
  intro id
  rw [h.balanced.traffic id, h.retired id, Accumulator.amountOf_peek h.balanced.placed,
    Pi.zero_apply, add_zero, add_zero]

/-- With nothing left in the counters there is nothing to be stored. -/
theorem stored_of_isEmpty (h : n.Solvent taken) (he : n.drain.1.isEmpty = true) :
    n.drain.2.Stored taken := by
  obtain ⟨spool, hs, -⟩ := h.works
  refine ⟨n.drain.1, spool, hs, fun hne => absurd he (Bool.eq_false_iff.mp hne), fun id => ?_⟩
  rw [drain_fst]
  exact h.pending id

/-- What is drained for a spool that works is stored there. -/
theorem stored_retire (h : n.Solvent taken) (ht : n.drain.1.Tractable) :
    (n.drain.2.retire n.drain.1).1 = .ok ()
    ∧ (n.drain.2.retire n.drain.1).2.Stored taken := by
  obtain ⟨spool, hspool, hworks⟩ := h.works
  have hd : n.drain.1.Distinct := n.drain_fst ▸ Accumulator.distinct_peek _
  have hok := Spool.save_of_works hworks hd ht
  rcases retire_cases n.drain.2 n.drain.1 with
    ⟨hnone, -⟩ | ⟨spool', hs', ⟨-, hr⟩ | ⟨fault, herr, -⟩⟩
  · exact absurd (hspool.symm.trans hnone) nofun
  · obtain rfl : spool = spool' := Option.some.inj (hspool.symm.trans hs')
    rw [hr]
    have hbooked : ((n.drain.2.log (.retired n.drain.1)).spooled
        (spool.save n.drain.1).2).booked
        = [.spoolWritten (spool.save n.drain.1).2.table, .retired n.drain.1] ++ n.booked := rfl
    refine ⟨rfl, n.drain.1, _, rfl, fun _ => Spool.peek_of_save (Prod.ext hok rfl), fun id => ?_⟩
    rw [counted_of_booked hbooked, acknowledged_of_booked hbooked, drain_fst]
    simpa [Event.countedOf, Event.acknowledgedOf] using h.pending id
  · obtain rfl : spool = spool' := Option.some.inj (hspool.symm.trans hs')
    rw [hok] at herr
    cases herr

/-- The journal keeps what was there before the last report. -/
theorem grows_finalFlush (n : Node) : Grows n n.finalFlush.2 := by
  refine finalFlush_induction (P := Grows n) (trades_report n _ .once).grows ?_ id ?_ ?_
  · exact fun hm => hm.trans (listens_note _ .finalReportFailed).counts.grows
  · exact fun hk _ => hk
  · intro k hk
    have hd : Grows n k.drain.2 := hk
    exact hd.trans (grows_retire _ _)

/-- A last report that settles comes to its end, and the spool has what was not acknowledged. -/
theorem finalFlush_of_settles (h : n.Solvent taken) (hm : Manageable traffic)
    (hle : ∀ id, n.finalFlush.2.counted id + taken id ≤ trafficOf traffic id)
    (hs : n.settles = true) : n.finalFlush.1 = .ok () ∧ n.finalFlush.2.Stored taken := by
  -- What was counted up to any earlier moment is part of what was counted at the end.
  have htractable {k : Node} (hk : k.Solvent taken) (hg : Grows k n.finalFlush.2) :
      k.drain.1.Tractable :=
    tractable_drain hk.balanced hk.positive hm fun id =>
      (add_le_add (counted_le_of_grows hg id) le_rfl).trans (hle id)
  have hr := h.report (some n.plan.finalReportTimeout) .once
  obtain ⟨ok, hok⟩ := report_once_of_settles hs (htractable h (grows_finalFlush n))
    (some n.plan.finalReportTimeout)
  rcases finalFlush_cases n with ⟨fault, herr, -⟩ | ⟨ok', m, hm, k, hk, hd⟩
  · rw [hok] at herr
    cases herr
  · rw [hm] at hr
    have hsolvent : k.Solvent taken := by
      rcases hk with rfl | rfl
      · exact hr
      · exact hr.counts (listens_note m _).counts
    rcases hd with ⟨he, hf⟩ | ⟨-, hf⟩
    · rw [hf]
      exact ⟨rfl, hsolvent.stored_of_isEmpty he⟩
    · have hg : Grows k n.finalFlush.2 := by
        rw [hf]
        exact grows_retire k.drain.2 k.drain.1
      rw [hf]
      exact hsolvent.stored_retire (htractable hsolvent hg)

/-- A last report that does not settle breaks off, and all that was not acknowledged is in the
counters again. -/
theorem finalFlush_of_not_settles (h : n.Solvent taken) (hs : n.settles = false) :
    (∃ fault, n.finalFlush.1 = .error fault) ∧ n.finalFlush.2.Pending taken
    ∧ n.finalFlush.2.ledger.spool = n.ledger.spool := by
  obtain ⟨m, fault, hl, hr⟩ :=
    report_once_of_not_settles hs (some n.plan.finalReportTimeout)
  have hrep := h.report (some n.plan.finalReportTimeout) .once
  rcases finalFlush_cases n with ⟨fault', -, hf⟩ | ⟨ok, m', hm, -⟩
  · rw [hf]
    refine ⟨⟨fault', rfl⟩, hrep.pending, ?_⟩
    rw [hr]
    exact hl.counts.spool
  · rw [hr] at hm
    cases hm

theorem after {n : Node} (h : n.IsNew) {spool : Spool} (hs : n.ledger.spool = some spool)
    (hw : spool.Works) (hp : n.SpoolsNonneg) {steps : List Step}
    (hopen : ∀ s ∈ steps, s.isShutdown = false) :
    (n.after steps).Solvent fun id => restored id n steps := by
  have ht := trades_after n hopen
  have hb := after_balanced h.balanced steps
  simp only [Pi.zero_apply, zero_add] at hb
  refine ⟨hb, (h.positive hp).after steps, fun id => (ht.retired id).trans ?_,
    ht.works ⟨spool, hs, hw⟩⟩
  simp [Node.retired, h.journal]

end Solvent

/-! ### The shutdown -/

/-- The node when the cycles under way have come to their end and the engine is stopped. -/
def halted (n : Node) (inFlight : List Cycle) : Node := (n.closing inFlight).stopEngine

/-- A shutdown whose last report settles comes to its end. -/
theorem shutdown_of_settles (h : (n.halted inFlight).Solvent taken) (ho : n.IsOpen)
    (hm : Manageable ((n.shutdown inFlight).2.countedEntries ++ traffic))
    (htaken : ∀ id, trafficOf traffic id = taken id) (hs : (n.halted inFlight).settles = true) :
    (n.shutdown inFlight).1 = .ok ()
    ∧ (n.shutdown inFlight).2.phase = (if n.phase = .failed then .failed else .stopped)
    ∧ (n.shutdown inFlight).2.Stored taken := by
  have hcounted : (n.shutdown inFlight).2.counted = (n.halted inFlight).finalFlush.2.counted := by
    rcases shutdown_cases n inFlight with ⟨hp, -⟩ | ⟨-, ⟨fault, m, hf, he⟩ | ⟨m, hf, he⟩⟩
    · exact absurd hp ho
    · rw [he, halted, hf]
    · have hb : (Node.note { m with phase := if n.phase = .failed then .failed else .stopped }
          .shutDown).booked = [] ++ m.booked := booked_of_log (e := .noted .shutDown) rfl rfl
      rw [he, halted, hf]
      exact funext fun id => (counted_of_booked hb id).trans (zero_add _)
  obtain ⟨hok, hstored⟩ := h.finalFlush_of_settles hm (fun id => by
    rw [trafficOf_append, trafficOf_countedEntries, htaken, hcounted]) hs
  rcases shutdown_cases n inFlight with ⟨hp, -⟩ | ⟨-, ⟨fault, m, hf, -⟩ | ⟨m, hf, he⟩⟩
  · exact absurd hp ho
  · rw [halted, hf] at hok
    cases hok
  · rw [halted, hf] at hstored
    rw [he]
    exact ⟨rfl, rfl, hstored.shutDown _⟩

/-- A shutdown whose last report does not settle breaks off there. -/
theorem shutdown_of_not_settles (h : (n.halted inFlight).Solvent taken) (ho : n.IsOpen)
    (hs : (n.halted inFlight).settles = false) :
    (∃ fault, (n.shutdown inFlight).1 = .error fault)
    ∧ (n.shutdown inFlight).2.phase = (n.halted inFlight).phase
    ∧ (n.shutdown inFlight).2.ledger.spool = (n.halted inFlight).ledger.spool
    ∧ (n.shutdown inFlight).2.Pending taken := by
  obtain ⟨⟨fault', herr⟩, hpending, hspool⟩ := h.finalFlush_of_not_settles hs
  have hphase := (keepsRoster_finalFlush (n.halted inFlight)).phase
  rcases shutdown_cases n inFlight with ⟨hp, -⟩ | ⟨-, ⟨fault, m, hf, he⟩ | ⟨m, hf, -⟩⟩
  · exact absurd hp ho
  · rw [halted, hf] at hpending hphase hspool
    rw [he]
    exact ⟨⟨fault, rfl⟩, hphase, hspool, hpending⟩
  · rw [halted, hf] at herr
    cases herr

/-- A shutdown lets go of the engine, and sends no more than one report after that. -/
theorem released_shutdown (h : n.Tended) (ho : n.IsOpen) (inFlight : List Cycle) :
    (n.shutdown inFlight).2.roster.handle = none
    ∧ (n.shutdown inFlight).2.engine.anyRunning = false
    ∧ Pushes 1 (n.halted inFlight) (n.shutdown inFlight).2 := by
  have hclosing := Tended.attends.kept.closing (h.same (sameUsers_phase _ .stopping)) inFlight
  obtain ⟨htended, hnone⟩ := hclosing.stopEngine
  have hrun := (htended.inStep.none hnone).2
  have hkeeps := keepsRoster_finalFlush (n.closing inFlight).stopEngine
  have hpushes := pushes_finalFlush (n.closing inFlight).stopEngine
  rw [← hkeeps.roster] at hnone
  rw [← hkeeps.engine] at hrun
  rcases shutdown_cases n inFlight with ⟨hp, -⟩ | ⟨-, ⟨fault, m, hf, he⟩ | ⟨m, hf, he⟩⟩
  · exact absurd hp ho
  · rw [hf] at hnone hrun hpushes
    rw [he]
    exact ⟨hnone, hrun, hpushes⟩
  · rw [hf] at hnone hrun hpushes
    rw [he]
    have hu : Unasked m (Node.note { m with
        phase := if n.phase = .failed then .failed else .stopped } .shutDown) := ⟨rfl, rfl⟩
    exact ⟨hnone, hrun, hpushes.trans hu.pushes⟩

/-- A shutdown always lets go of the engine, and sends no more than one report after that.  If the
report settles, the shutdown comes to its end with all that was not acknowledged in the spool;
otherwise it breaks off with that in the counters and the spool as it was. -/
theorem shutdown_completes {n₀ n : Node} (h : n₀.IsNew) {spool : Spool}
    (hs : n₀.ledger.spool = some spool) (hw : spool.Works) (hp : n₀.SpoolsNonneg)
    (hstops : ∀ k handle, n₀.refuses k (.stop handle) = false) {steps : List Step}
    (hopen : ∀ s ∈ steps, s.isShutdown = false) (hn : n = n₀.after steps) (inFlight : List Cycle)
    (hm : Manageable ((n.shutdown inFlight).2.countedEntries ++ takenEntries n₀ steps)) :
    (n.shutdown inFlight).2.roster.handle = none
    ∧ (n.shutdown inFlight).2.engine.anyRunning = false
    ∧ Pushes 1 (n.halted inFlight) (n.shutdown inFlight).2
    ∧ ((n.halted inFlight).settles = true →
      (n.shutdown inFlight).1 = .ok ()
      ∧ (n.shutdown inFlight).2.phase = (if n.phase = .failed then .failed else .stopped)
      ∧ (n.shutdown inFlight).2.Stored fun id => restored id n₀ steps)
    ∧ ((n.halted inFlight).settles = false →
      (∃ fault, (n.shutdown inFlight).1 = .error fault)
      ∧ (n.shutdown inFlight).2.phase = (n.halted inFlight).phase
      ∧ (n.shutdown inFlight).2.ledger.spool = (n.halted inFlight).ledger.spool
      ∧ (n.shutdown inFlight).2.Pending fun id => restored id n₀ steps) := by
  have hbegun : n.Solvent fun id => restored id n₀ steps := hn ▸ Solvent.after h hs hw hp hopen
  have htended : n.Tended := hn ▸ Tended.attends.after (h.tended hstops) steps
  have hopened : n.IsOpen := hn ▸ h.isOpen_after hopen
  -- The cycles under way and the stop of the engine come before the last report.
  have hclosing := Solvent.accounts.kept.closing (hbegun.counts (counts_phase n .stopping)) inFlight
  have hsolvent : (n.halted inFlight).Solvent fun id => restored id n₀ steps :=
    hclosing.counts (manages_stopEngine _).counts
  obtain ⟨hhandle, hrun, hpushes⟩ := released_shutdown htended hopened inFlight
  exact ⟨hhandle, hrun, hpushes,
    shutdown_of_settles hsolvent hopened hm (trafficOf_takenEntries n₀ steps),
    shutdown_of_not_settles hsolvent hopened⟩

/-- The sample on a spool with one row, with a panel that cannot be reached with reports. -/
def sampleUnreached : Node := sampleOn { table := some [⟨1, "5", "7"⟩] } (.failed "")

/-- The sample on an empty spool, with a panel that answers a report with "not modified". -/
def sampleUnmodified : Node := sampleOn { table := some [] } (.response { status := 304 })

/-- What the samples do before their shutdown. -/
def sampleSteps : List Step := [.start, .act (.count sampleDelta)]

theorem spoolsNonneg_sampleUnreached : sampleUnreached.SpoolsNonneg := by
  rintro spool s ⟨⟩ hp
  have hpeek : ({ table := some [⟨1, "5", "7"⟩] } : Spool).peek
      = .ok (Snapshot.ofEntries [⟨1, ⟨5, 7⟩⟩]) := by decide +kernel
  have hrow : (Snapshot.ofEntries [⟨1, ⟨5, 7⟩⟩]).entries = [⟨1, ⟨5, 7⟩⟩] := by decide +kernel
  obtain rfl := Except.ok.inj (hpeek.symm.trans hp)
  rw [Snapshot.Nonneg, hrow]
  exact List.forall_mem_singleton.mpr ⟨by decide, by decide⟩

/-- All that the first sample took from the spool and counted, also while it waited for an answer to
its last report, is in the spool when it has been shut down. -/
theorem shutdown_completes_sample :
    (((sampleUnreached.after sampleSteps).shutdown []).1 = .ok ()
    ∧ ((sampleUnreached.after sampleSteps).shutdown []).2.phase = .stopped)
    ∧ ((sampleUnreached.after sampleSteps).shutdown []).2.ledger.spool.bind Spool.table
      = some [⟨1, "9", "13"⟩] := by
  have hentries : ((sampleUnreached.after sampleSteps).shutdown []).2.countedEntries
      ++ takenEntries sampleUnreached sampleSteps
      = [⟨1, ⟨2, 3⟩⟩, ⟨1, ⟨2, 3⟩⟩, ⟨1, ⟨5, 7⟩⟩] := by decide +kernel
  have hmanageable : Manageable (((sampleUnreached.after sampleSteps).shutdown []).2.countedEntries
      ++ takenEntries sampleUnreached sampleSteps) := by
    rw [hentries]
    exact ⟨by decide +kernel, by decide +kernel, by decide +kernel⟩
  have hnew : sampleUnreached.IsNew := ⟨rfl, rfl, ⟨16, by decide, rfl⟩, rfl, rfl, rfl, rfl⟩
  have hopen : ∀ s ∈ sampleSteps, s.isShutdown = false := by decide +kernel
  have hrun := shutdown_completes hnew rfl ⟨rfl, rfl, fun _ => rfl⟩
    spoolsNonneg_sampleUnreached (fun _ _ => rfl) hopen rfl [] hmanageable
  obtain ⟨hok, hphase, -⟩ := hrun.2.2.2.1 (by decide +kernel)
  exact ⟨⟨hok, hphase.trans (if_neg (by decide +kernel))⟩, by decide +kernel⟩

/-- The shutdown of the second sample breaks off: the node goes on stopping, and what it counted is in
its counters only. -/
theorem shutdown_breaks_off :
    ((sampleUnmodified.after sampleSteps).shutdown []).1
      = .error (.notModified (Panel.Endpoint.label .push))
    ∧ ((sampleUnmodified.after sampleSteps).shutdown []).2.phase = .stopping
    ∧ ((sampleUnmodified.after sampleSteps).shutdown []).2.ledger.spool.bind Spool.table = some []
    ∧ ((sampleUnmodified.after sampleSteps).shutdown []).2.ledger.accumulator.peek.amountOf 1
      = ⟨4, 6⟩ := by
  decide +kernel

end Node

end ProxyNode
