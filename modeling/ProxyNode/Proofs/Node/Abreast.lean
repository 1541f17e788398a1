import ProxyNode.Proofs.Node.Pace

/-!
# Node — Abreast, two nodes with the same traffic

Two nodes that have the same traffic and get the same answers to their reports, whatever their users
and their engines are.  Both report alike.

* `Abreast`: the nodes that may differ in all else, and what happened to them since.
* `Abreast.report`: a report cycle has the same result on both and leaves them so, if none of them
  is told to stop for want of patience.
* `Abreast.finalFlush`, `Abreast.resume`: so do a last report and the look at the spool.
* `Reports`: what a report leaves alone.
-/

namespace ProxyNode

namespace Node

/-- Two nodes with the same traffic, to which the same has happened since their journals were `past`
and `past'`. -/
structure Abreast (k : Nat) (past past' : List Event) (a b : Node) : Prop where
  plan : b.plan = a.plan
  clock : b.clock = a.clock
  client : b.client.untagged = a.client.untagged
  turns : b.panel.push = a.panel.push
  listeners : b.engine.listeners = a.engine.listeners
  ledger : b.ledger = a.ledger
  stop : a.stop.Ahead k b.stop
  journal : ∃ l, a.journal = l ++ past ∧ b.journal = l ++ past'

/-- What is made of the answer to a report of `s`. -/
def afterPush (s : Snapshot) : Except Fault Unit × Node → Except Fault Bool × Node
  | (.ok (), n) => ((n.delivered s).1.map fun _ => true, (n.delivered s).2)
  | (.error fault, n) =>
    let n := (n.undelivered s fault).restore s
    if fault.isRejected || fault.isTransient then (.ok false, n) else (.error fault, n)

theorem afterPush_ok (s : Snapshot) (n : Node) :
    afterPush s (.ok (), n) = ((n.delivered s).1.map fun _ => true, (n.delivered s).2) := rfl

theorem report_eq {n : Node} (h : n.drain.1.isEmpty = false) (timeout : Option Float)
    (policy : Retry) :
    n.report timeout policy = afterPush n.drain.1 (n.drain.2.retrying policy
      Panel.Endpoint.push.errand fun m => m.push n.drain.1 timeout) := by
  unfold report
  dsimp only
  rw [if_neg (Bool.eq_false_iff.mp h)]
  generalize n.drain.2.retrying policy Panel.Endpoint.push.errand _ = x
  obtain ⟨_ | _, m⟩ := x
  · rfl
  · rw [afterPush_ok]
    dsimp only
    rcases m.delivered n.drain.1 with ⟨_ | _, k⟩ <;> rfl

theorem Books.afterPush {P : Node → Prop} (hp : Books P) {s : Snapshot}
    {x : Except Fault Unit × Node} (h : P x.2) : P (afterPush s x).2 := by
  unfold Node.afterPush
  split
  · dsimp only at h ⊢
    exact hp.delivered h s
  · next fault n =>
    have hu : P ((n.undelivered s fault).restore s) := hp.ledger _ (hp.undelivered h s fault)
    dsimp only
    split
    · exact hu
    · exact hu

variable {k : Nat} {past past' : List Event} {a b : Node}

namespace Abreast

theorem paced (k : Nat) (past past' : List Event) : Paced k (Abreast k past past') where
  clock h := h.clock
  stop h := h.stop
  signal events h hs := by
    obtain ⟨l, hl, hl'⟩ := h.journal
    refine { h with stop := hs, journal := ⟨events ++ l, ?_, ?_⟩ }
    · exact (congrArg (events ++ ·) hl).trans (List.append_assoc _ _ _).symm
    · exact (congrArg (events ++ ·) hl').trans (List.append_assoc _ _ _).symm

theorem log (h : Abreast k past past' a b) (e : Event) :
    Abreast k past past' (a.log e) (b.log e) :=
  (paced k past past').log h e

theorem note (h : Abreast k past past' a b) (notice : Notice) :
    Abreast k past past' (a.note notice) (b.note notice) :=
  h.log (.noted notice)

theorem withLedger (h : Abreast k past past' a b) (l : Ledger) :
    Abreast k past past' { a with ledger := l } { b with ledger := l } :=
  { h with ledger := rfl }

/-! ### Reports -/

theorem count (h : Abreast k past past' a b) (d : Delta) :
    Abreast k past past' (a.count d) (b.count d) := by
  have hl := (h.withLedger { a.ledger with accumulator := a.ledger.accumulator.record d }).log
    (.counted d)
  unfold Node.count
  rw [h.ledger]
  exact hl

theorem emit (h : Abreast k past past' a b) (d : Delta) :
    Abreast k past past' (a.emit d) (b.emit d) := by
  unfold Node.emit Engine.emit
  rw [h.listeners]
  exact both_foldl (fun e hm => hm.count e.2) h _

theorem ask (h : Abreast k past past' a b) (timeout : Option Float)
    (body : Option (OrderedMap String Amount)) :
    Agrees Eq (Abreast k past past') (a.ask .push timeout body) (b.ask .push timeout body) := by
  have hr : b.client.request .push timeout body = a.client.request .push timeout body :=
    (congrArg (fun c : Panel.Client => c.request .push timeout body) h.client :)
  unfold Node.ask Panel.Script.next
  dsimp only
  rw [hr, h.turns]
  refine ⟨rfl, (paced k past past').turn (fun d hm => hm.emit d) ?_ rfl rfl⟩
  exact { h.log (.asked (a.client.request .push timeout body) (Panel.take a.panel.push).1) with
    turns := rfl }

theorem push (h : Abreast k past past' a b) (s : Snapshot) (timeout : Option Float) :
    Agrees (Outcomes Eq) (Abreast k past past') (a.push s timeout) (b.push s timeout) := by
  unfold Node.push
  split
  · obtain ⟨answer, m, m', hx, hy, hm⟩ := (h.ask timeout (some s.payload)).exists
    have hc : m'.client.acceptPush answer = m.client.acceptPush answer :=
      (congrArg (fun c : Panel.Client => c.acceptPush answer) hm.client :)
    rw [hx, hy]
    dsimp only
    rw [hc]
    exact ⟨.refl (fun _ => rfl) _, hm⟩
  · exact ⟨.error _, h⟩

theorem drain (h : Abreast k past past' a b) :
    Agrees Eq (Abreast k past past') a.drain b.drain := by
  unfold Node.drain
  rw [h.ledger]
  exact ⟨rfl, h.withLedger _⟩

theorem restore (h : Abreast k past past' a b) (s : Snapshot) :
    Abreast k past past' (a.restore s) (b.restore s) := by
  unfold Node.restore
  rw [h.ledger]
  exact h.withLedger _

theorem reportedAs (h : Abreast k past past' a b) (ok : Bool) (message : String) :
    Abreast k past past' (a.reportedAs ok message) (b.reportedAs ok message) := by
  unfold Node.reportedAs
  rw [h.ledger]
  exact h.withLedger _

theorem spooled (h : Abreast k past past' a b) (spool : Spool) :
    Abreast k past past' (a.spooled spool) (b.spooled spool) := by
  have hl := (h.withLedger { a.ledger with spool := some spool }).log (.spoolWritten spool.table)
  unfold Node.spooled
  rw [h.ledger]
  exact hl

theorem paid (h : Abreast k past past' a b) :
    Abreast k past past' { a with ledger := { a.ledger with owed := false } }
      { b with ledger := { b.ledger with owed := false } } := by
  rw [h.ledger]
  exact h.withLedger _

theorem owing (h : Abreast k past past' a b) :
    Abreast k past past' { a with ledger := { a.ledger with owed := true } }
      { b with ledger := { b.ledger with owed := true } } := by
  rw [h.ledger]
  exact h.withLedger _

theorem noteSums (h : Abreast k past past' a b) (s : Snapshot) (notice : Notice) :
    Agrees Eq (Abreast k past past') (a.noteSums s notice) (b.noteSums s notice) := by
  unfold Node.noteSums
  split
  · exact ⟨rfl, h.note notice⟩
  · exact ⟨rfl, h⟩

theorem clearSpool (h : Abreast k past past' a b) :
    Abreast k past past' a.clearSpool b.clearSpool := by
  unfold Node.clearSpool
  rw [h.ledger]
  split
  · split
    · exact h
    · next spool _ =>
      split
      · exact (h.spooled _).note _
      · next after _ => exact (h.spooled after).paid
  · exact h

theorem delivered (h : Abreast k past past' a b) (s : Snapshot) :
    Agrees Eq (Abreast k past past') (a.delivered s) (b.delivered s) := by
  have hc := (h.log (.delivered s)).clearSpool
  unfold Node.delivered
  dsimp only
  rw [hc.ledger]
  split
  · exact ((hc.withLedger _).reportedAs _ _).noteSums _ _
  · exact ⟨rfl, hc.withLedger _⟩

theorem undelivered (h : Abreast k past past' a b) (s : Snapshot) (fault : Fault) :
    Abreast k past past' (a.undelivered s fault) (b.undelivered s fault) := by
  unfold Node.undelivered
  split
  · exact (h.note _).reportedAs _ _
  · split
    · exact (h.note _).reportedAs _ _
    · exact h

theorem afterPush {s : Snapshot} {x y : Except Fault Unit × Node}
    (h : Agrees (Outcomes Eq) (Abreast k past past') x y) :
    Agrees Eq (Abreast k past past') (afterPush s x) (afterPush s y) := by
  obtain ⟨r, m⟩ := x
  obtain ⟨r', m'⟩ := y
  obtain ⟨ho, hm⟩ := h
  cases ho with
  | ok hu =>
      dsimp only at hm
      obtain ⟨r, n, n', hx, hy, hn⟩ := (hm.delivered s).exists
      rw [afterPush_ok, afterPush_ok, hx, hy]
      exact ⟨rfl, hn⟩
  | error fault =>
      have hr := (hm.undelivered s fault).restore s
      unfold Node.afterPush
      dsimp only
      split
      · exact ⟨rfl, hr⟩
      · exact ⟨rfl, hr⟩

/-- A report cycle. -/
theorem report (h : Abreast k past past' a b) (timeout : Option Float) (policy : Retry)
    (hfair : Fair k (a.report timeout policy).2 (b.report timeout policy).2) :
    Agrees Eq (Abreast k past past') (a.report timeout policy) (b.report timeout policy) := by
  obtain ⟨hs, hd⟩ := h.drain
  cases he : a.drain.1.isEmpty with
  | true =>
      rw [report_of_nothing he, report_of_nothing (hs ▸ he)]
      exact ⟨rfl, (hd.note _).reportedAs _ _⟩
  | false =>
      rw [report_eq he, report_eq (hs ▸ he), ← hs] at hfair ⊢
      exact afterPush ((paced k past past').retrying (fun hm => hm.push _ timeout) hd policy _
        (hfair.before ((passes_heeds _).sends.afterPush (.refl _))
          ((passes_heeds _).sends.afterPush (.refl _))))

theorem retire (h : Abreast k past past' a b) (s : Snapshot) :
    Agrees Eq (Abreast k past past') (a.retire s) (b.retire s) := by
  have hl := h.log (.retired s)
  unfold Node.retire
  dsimp only
  rw [hl.ledger]
  split
  · exact hl.noteSums _ _
  · split
    · exact ⟨rfl, hl.spooled _⟩
    · exact ((hl.spooled _).note _).noteSums _ _

/-- A last report, of nodes that have the same patience. -/
theorem finalFlush (h : Abreast 0 past past' a b) :
    Agrees Eq (Abreast 0 past past') a.finalFlush b.finalFlush := by
  obtain ⟨r, m, m', hx, hy, hm⟩ :=
    (h.report (some a.plan.finalReportTimeout) .once (.inl rfl)).exists
  unfold Node.finalFlush
  rw [h.plan, hx, hy]
  cases r with
  | error fault => exact ⟨rfl, hm⟩
  | ok ok =>
      have hn : Abreast 0 past past' (if ok then m else m.note .finalReportFailed)
          (if ok then m' else m'.note .finalReportFailed) := by
        split
        · exact hm
        · exact hm.note _
      obtain ⟨leftover, n, n', hx, hy, hd⟩ := hn.drain.exists
      dsimp only
      rw [hx, hy]
      dsimp only
      split
      · exact ⟨rfl, hd⟩
      · exact hd.retire leftover

/-- The look at the spool. -/
theorem resume (h : Abreast k past past' a b) :
    Agrees Eq (Abreast k past past') a.resume b.resume := by
  unfold Node.resume
  rw [h.ledger]
  split
  · exact ⟨rfl, h⟩
  · split
    · exact ⟨rfl, h⟩
    · split
      · exact ⟨rfl, h⟩
      · exact ((h.restore _).owing.log _).noteSums _ _

end Abreast

/-! ### What a report leaves alone -/

/-- From `n` to `n'` nothing happened but to the traffic. -/
structure Reports (n n' : Node) : Prop where
  plan : n'.plan = n.plan
  clock : n'.clock = n.clock
  client : n'.client = n.client
  config : n'.panel.config = n.panel.config
  users : n'.panel.users = n.panel.users
  counted : n'.stop.counted = n.stop.counted
  engine : n'.engine = n.engine
  refuses : n'.refuses = n.refuses
  calls : n'.calls = n.calls
  roster : n'.roster = n.roster
  phase : n'.phase = n.phase
  fatal : n'.fatal = n.fatal

theorem Reports.refl (n : Node) : Reports n n :=
  ⟨rfl, rfl, rfl, rfl, rfl, rfl, rfl, rfl, rfl, rfl, rfl, rfl⟩

theorem Reports.raise {n n' : Node} (h : Reports n n') : Reports n n'.raise := by
  unfold Node.raise
  split
  · exact h
  · exact { h with }

theorem Reports.emit {n n' : Node} (h : Reports n n') (d : Delta) : Reports n (n'.emit d) :=
  List.foldlRecOn (motive := Reports n) _ _ h fun _ hm _ _ => { hm with }

theorem sends_reports (n : Node) : Sends (Reports n) where
  log _ _ h := { h with }
  wait seconds h := by
    unfold Node.wait
    split
    · dsimp only
      split
      · exact Reports.raise { h with }
      · exact { h with }
    · exact h
  push {m} timeout body h := by
    have hc := List.foldlRecOn (motive := Reports n) (m.panel.next .push).1.counted emit
      (b := { m.log (m.sent .push timeout body) with panel := (m.panel.next .push).2 })
      { h with } fun _ hm d _ => hm.emit d
    unfold Node.ask
    dsimp only
    split
    · exact hc.raise
    · exact hc
  ledger _ h := { h with }

theorem reports_report (n : Node) (timeout : Option Float) (policy : Retry) :
    Reports n (n.report timeout policy).2 :=
  (sends_reports n).report (.refl n) timeout policy

end Node

end ProxyNode
