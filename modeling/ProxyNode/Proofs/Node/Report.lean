import ProxyNode.Node.Report
import ProxyNode.Proofs.Node.Frames

/-!
# Node — Report, by its outcome

What a report cycle can do.  Either there was nothing to report, or the panel acknowledged what was
drained (`Delivers`), or the panel did not and what was drained is given back.

* `push_cases`: a single request delivers, or does no more than count.
* `report_cases`: the three outcomes of a cycle, with the node that each leaves.
* `keepsRoster_report`: a report cycle does nothing to the users and the engine.
-/

namespace ProxyNode.Node

/-- What is drained is what a look at the counters shows. -/
theorem drain_fst (n : Node) : n.drain.1 = n.ledger.accumulator.peek := by
  show n.ledger.accumulator.drain.1 = _
  rw [Accumulator.drain_eq]

/-- From `n` to `n'` the panel acknowledged a report of `s`, and nothing else happened but
counting. -/
def Delivers (s : Snapshot) (n n' : Node) : Prop :=
  ∃ (before : Node) (request : Panel.Request) (turn : Panel.Turn) (panel : Panel.Script),
    Listens n before
    ∧ Event.isAcknowledged (.asked request turn) = true
    ∧ request.body = some s.payload
    ∧ Listens { before.log (.asked request turn) with panel := panel } n'

theorem Delivers.keeps {s : Snapshot} {n n' : Node} (h : Delivers s n n') : KeepsRoster n n' := by
  obtain ⟨before, request, turn, panel, hb, -, -, ha⟩ := h
  have hs : KeepsRoster before { before.log (.asked request turn) with panel := panel } :=
    ⟨rfl, rfl, rfl, rfl, rfl, rfl⟩
  exact (hb.keeps.trans hs).trans ha.keeps

/-- A single request delivers, or does no more than count. -/
theorem push_cases (n : Node) (s : Snapshot) (timeout : Option Float) :
    ((n.push s timeout).1 = .ok () ∧ Delivers s n (n.push s timeout).2)
    ∨ ∃ fault, (n.push s timeout).1 = .error fault ∧ Listens n (n.push s timeout).2 := by
  unfold push
  split
  · dsimp only
    by_cases ha : (n.panel.next .push).1.answer.acknowledges = true
    · refine .inl ⟨(Panel.Client.acceptPush_eq_ok_iff _ _).mpr ha, n,
        n.client.request .push timeout (some s.payload), (n.panel.next .push).1,
        (n.panel.next .push).2, .refl n, ?_, rfl, listens_ask_from n .push timeout _⟩
      exact Bool.and_eq_true_iff.mpr ⟨rfl, ha⟩
    · have hs : (n.sent .push timeout (some s.payload)).isBooked = false :=
        Bool.eq_false_iff.mpr fun h => ha (Bool.and_eq_true_iff (x := true).mp h).2
      have hl := listens_ask hs
      cases hr : (n.ask .push timeout (some s.payload)).2.client.acceptPush
          (n.ask .push timeout (some s.payload)).1 with
      | ok u => exact absurd ((Panel.Client.acceptPush_eq_ok_iff _ _).mp hr) ha
      | error fault => exact .inr ⟨fault, rfl, hl⟩
  · exact .inr ⟨_, rfl, .refl n⟩

/-- Sending a report, under a policy, delivers or does no more than count. -/
theorem pushing_cases (n : Node) (s : Snapshot) (timeout : Option Float) (policy : Retry)
    (errand : String) {r : Except Fault Unit} {m : Node}
    (h : n.retrying policy errand (fun n => n.push s timeout) = (r, m)) :
    (r = .ok () ∧ Delivers s n m) ∨ ∃ fault, r = .error fault ∧ Listens n m := by
  obtain ⟨hr, hm⟩ := Prod.mk.inj h
  subst hr hm
  refine Retry.run_spec (P := Listens n)
    (Q := fun r m => (r = .ok () ∧ Delivers s n m) ∨ ∃ fault, r = .error fault ∧ Listens n m)
    ?_ ?_ ?_ (.refl n)
  · intro k hk
    rcases push_cases k s timeout with ⟨hr, before, request, turn, panel, hb, hd⟩ | ⟨fault, hr, hl⟩
    · exact .inl ⟨hr, before, request, turn, panel, hk.trans hb, hd⟩
    · exact .inr ⟨fault, hr, hk.trans hl⟩
  · rintro fault delay k - (⟨hr, -⟩ | ⟨fault', hr, hl⟩)
    · cases hr
    · have hn := hl.trans (listens_note k (.retrying errand fault delay))
      have hw := waitFor_keeps hn (hn.trans (listens_wait _ delay))
      exact ⟨hw, .inr ⟨fault', hr, hw⟩⟩
  · rintro fault delay - k refused m - (⟨hr, -⟩ | ⟨fault', -, hl⟩) hm
    · cases hr
    · obtain ⟨rfl, -⟩ := eq_of_waitUnless_error hm
      exact .inr ⟨refused, rfl, hl.trans (listens_note k (.retrying errand fault delay))⟩

/-- The three outcomes of a report cycle, with the node that each leaves. -/
theorem report_cases (n : Node) (timeout : Option Float) (policy : Retry) :
    (n.drain.1.isEmpty = true
      ∧ (n.report timeout policy).1 = .ok true
      ∧ (n.report timeout policy).2
        = (n.drain.2.note .nothingToPush).reportedAs true "nothing to report")
    ∨ (∃ m, Delivers n.drain.1 n.drain.2 m
      ∧ (n.report timeout policy).1 = (m.delivered n.drain.1).1.map (fun _ => true)
      ∧ (n.report timeout policy).2 = (m.delivered n.drain.1).2)
    ∨ (∃ m fault, Listens n.drain.2 m
      ∧ (n.report timeout policy).1
        = (if fault.isRejected || fault.isTransient then .ok false else .error fault)
      ∧ (n.report timeout policy).2 = (m.undelivered n.drain.1 fault).restore n.drain.1) := by
  by_cases he : n.drain.1.isEmpty = true
  · rw [report_of_nothing he]
    exact .inl ⟨he, rfl, rfl⟩
  · refine .inr ?_
    unfold report
    dsimp only
    rw [if_neg he]
    split
    · next m hm =>
      rcases pushing_cases _ _ _ _ _ hm with ⟨-, hd⟩ | ⟨fault, hr, -⟩
      · refine .inl ⟨m, hd, ?_⟩
        split
        · next fault k hk => rw [hk]; exact ⟨rfl, rfl⟩
        · next k hk => rw [hk]; exact ⟨rfl, rfl⟩
      · cases hr
    · next fault m hm =>
      rcases pushing_cases _ _ _ _ _ hm with ⟨hr, -⟩ | ⟨fault', -, hl⟩
      · cases hr
      · refine .inr ⟨m, fault, hl, ?_⟩
        split <;> exact ⟨rfl, rfl⟩

/-- A spool is cleared if its rows are owed; then the rows are owed no longer, unless the spool
fails. -/
theorem clearSpool_cases (n : Node) :
    ((n.ledger.owed = false ∨ n.ledger.spool = none) ∧ n.clearSpool = n)
    ∨ (∃ spool fault, n.ledger.owed = true ∧ n.ledger.spool = some spool
      ∧ spool.clear.1 = .error fault
      ∧ n.clearSpool = (n.spooled spool.clear.2).note (.spoolNotCleared fault))
    ∨ (∃ spool, n.ledger.owed = true ∧ n.ledger.spool = some spool ∧ spool.clear.1 = .ok ()
      ∧ n.clearSpool = { n.spooled spool.clear.2 with
        ledger := { (n.spooled spool.clear.2).ledger with owed := false } }) := by
  unfold clearSpool
  by_cases ho : n.ledger.owed = true
  · rw [if_pos ho]
    cases hs : n.ledger.spool with
    | none => exact .inl ⟨.inr rfl, rfl⟩
    | some spool =>
        refine .inr ?_
        rcases hc : spool.clear with ⟨fault | u, after⟩
        · exact .inl ⟨spool, fault, ho, rfl, by rw [hc], by rw [hc]; dsimp only; rw [hc]⟩
        · exact .inr ⟨spool, ho, rfl, by rw [hc], by rw [hc]; dsimp only; rw [hc]⟩
  · rw [if_neg ho]
    exact .inl ⟨.inl (Bool.eq_false_iff.mpr ho), rfl⟩

/-- The node that has added a report that was acknowledged to its own sum. -/
def billed (n : Node) (s : Snapshot) : Node :=
  { n with ledger := { n.ledger with reported := n.ledger.reported + (s.up + s.down) } }

/-- After an acknowledged report the spool is cleared and the report added to the sum, whether or not
the sums can be written out. -/
theorem delivered_cases (n : Node) (s : Snapshot) :
    (n.delivered s).2 = (n.log (.delivered s)).clearSpool.billed s
    ∨ ∃ message, (n.delivered s).2
      = ((((n.log (.delivered s)).clearSpool.billed s).reportedAs true message).noteSums s
        (.pushed s.size s.up s.down)).2 := by
  unfold delivered
  dsimp only
  split
  · exact .inr ⟨_, rfl⟩
  · exact .inl rfl

/-! ### The traffic -/

theorem counts_noteSums (n : Node) (s : Snapshot) (notice : Notice)
    (h : notice.isSpoolFault = false := by rfl) : Counts n (n.noteSums s notice).2 := by
  unfold noteSums
  split
  · exact (listens_note n notice h).counts
  · exact .refl n

theorem counts_reportedAs (n : Node) (ok : Bool) (message : String) :
    Counts n (n.reportedAs ok message) :=
  ⟨.refl n, rfl, rfl, rfl, [], rfl, rfl⟩

/-- Noting how a report cycle went is no more than counting. -/
theorem counts_noted (n : Node) (notice : Notice) (ok : Bool) (message : String)
    (h : notice.isSpoolFault = false := by rfl) :
    Counts n ((n.note notice).reportedAs ok message) :=
  (listens_note n notice h).counts.trans (counts_reportedAs _ _ _)

/-- What follows the sum is no more than counting. -/
theorem counts_delivered (n : Node) (s : Snapshot) :
    Counts ((n.log (.delivered s)).clearSpool.billed s) (n.delivered s).2 := by
  rcases delivered_cases n s with h | ⟨message, h⟩
  · rw [h]
    exact .refl _
  · rw [h]
    exact (counts_reportedAs _ _ _).trans (counts_noteSums _ _ _)

theorem counts_undelivered (n : Node) (s : Snapshot) (fault : Fault) :
    Counts n (n.undelivered s fault) := by
  unfold undelivered
  split
  · exact counts_noted n _ _ _
  · split
    · exact counts_noted n _ _ _
    · exact .refl n

/-! ### The users and the engine -/

theorem keepsRoster_clearSpool (n : Node) : KeepsRoster n n.clearSpool := by
  rcases clearSpool_cases n with ⟨-, h⟩ | ⟨spool, fault, -, -, -, h⟩ | ⟨spool, -, -, -, h⟩
  · rw [h]
    exact .refl n
  · rw [h]
    exact ⟨rfl, rfl, rfl, rfl, rfl, rfl⟩
  · rw [h]
    exact ⟨rfl, rfl, rfl, rfl, rfl, rfl⟩

theorem keepsRoster_noteSums (n : Node) (s : Snapshot) (notice : Notice) :
    KeepsRoster n (n.noteSums s notice).2 := by
  unfold noteSums
  split
  · exact ⟨rfl, rfl, rfl, rfl, rfl, rfl⟩
  · exact .refl n

theorem keepsRoster_ledger (n : Node) (l : Ledger) : KeepsRoster n { n with ledger := l } :=
  ⟨rfl, rfl, rfl, rfl, rfl, rfl⟩

theorem keepsRoster_delivered (n : Node) (s : Snapshot) : KeepsRoster n (n.delivered s).2 := by
  have hl : KeepsRoster n (n.log (.delivered s)) := ⟨rfl, rfl, rfl, rfl, rfl, rfl⟩
  have hb : KeepsRoster n ((n.log (.delivered s)).clearSpool.billed s) :=
    (hl.trans (keepsRoster_clearSpool (n.log (.delivered s)))).trans (keepsRoster_ledger _ _)
  rcases delivered_cases n s with h | ⟨message, h⟩
  · rw [h]
    exact hb
  · rw [h]
    exact (hb.trans (keepsRoster_ledger _ _)).trans (keepsRoster_noteSums _ _ _)

theorem keepsRoster_undelivered (n : Node) (s : Snapshot) (fault : Fault) :
    KeepsRoster n (n.undelivered s fault) := by
  unfold undelivered
  split
  · exact ⟨rfl, rfl, rfl, rfl, rfl, rfl⟩
  · split
    · exact ⟨rfl, rfl, rfl, rfl, rfl, rfl⟩
    · exact .refl n

/-- A report cycle does nothing to the users and the engine. -/
theorem keepsRoster_report (n : Node) (timeout : Option Float) (policy : Retry) :
    KeepsRoster n (n.report timeout policy).2 := by
  have hd : KeepsRoster n n.drain.2 := ⟨rfl, rfl, rfl, rfl, rfl, rfl⟩
  rcases report_cases n timeout policy with ⟨-, -, hr⟩ | ⟨m, hm, -, hr⟩ | ⟨m, fault, hm, -, hr⟩
  · have hn : KeepsRoster n.drain.2 (n.drain.2.note .nothingToPush) := ⟨rfl, rfl, rfl, rfl, rfl, rfl⟩
    rw [hr]
    exact (hd.trans hn).trans (keepsRoster_ledger _ _)
  · rw [hr]
    exact (hd.trans hm.keeps).trans (keepsRoster_delivered m n.drain.1)
  · rw [hr]
    exact ((hd.trans hm.keeps).trans (keepsRoster_undelivered m n.drain.1 fault)).trans
      (keepsRoster_ledger _ _)

end ProxyNode.Node
