import ProxyNode.Proofs.Node.Moments

/-!
# Node — Survival, of what the spool held

What a start takes in from the spool stays there until the panel has acknowledged a report.  That
report has all of it, since until then the counters have it at the end of every operation, and a
report takes all that the counters have.

* `Guards`: what keeps it so, with the share that the counters or a report under way have in it.
* `Keeps.report`, `Keeps.start`, `safe_shutdown`: each operation keeps it so.
* `spool_survives_kill`: it is so at every moment of a run, up to the end of its shutdown.
-/

namespace ProxyNode.Node

open Event

/-- It is safe so far, and either all that the spool held is acknowledged, or the spool is as it was
and `stake` holds. -/
structure Guards (table : Option (List Row)) (rows : Snapshot) (stake : Prop) (n : Node) : Prop where
  safe : n.Safe table rows
  still : Unchanged table n.booked
  covered : (∀ id, rows.amountOf id ≤ n.acknowledged id)
    ∨ tableAfter table n.booked = table ∧ stake

/-- The counters have at least what the spool held. -/
def Backs (rows : Snapshot) (n : Node) : Prop :=
  ∀ id, rows.amountOf id ≤ n.ledger.accumulator.amountOf id

/-- A node between its operations: as long as the spool has to keep what it held, the counters have
it too, so that the next report takes all of it at once. -/
structure Keeps (table : Option (List Row)) (rows : Snapshot) (n : Node) : Prop where
  positive : n.Positive
  guards : n.Guards table rows (n.Backs rows)

variable {table : Option (List Row)} {rows s : Snapshot} {stake stake' : Prop} {n n' : Node}
  {l : List Event}

namespace Guards

theorem mono (h : n.Guards table rows stake) (hs : stake → stake') :
    n.Guards table rows stake' :=
  ⟨h.safe, h.still, h.covered.imp_right fun hc => ⟨hc.1, hs hc.2⟩⟩

/-- What is mute leaves the guard as it is. -/
theorem mute (h : n.Guards table rows stake) (hspool : n'.ledger.spool = n.ledger.spool)
    (hb : n'.booked = l ++ n.booked) (hl : ∀ e ∈ l, e.isMute = true) :
    n'.Guards table rows stake := by
  have ht : tableAfter table n'.booked = tableAfter table n.booked := by
    rw [hb, tableAfter_append_of_mute hl]
  have hack (id : Int) : n'.acknowledged id = n.acknowledged id := by
    rw [acknowledged_of_booked hb, List.sum_eq_zero, zero_add]
    intro a ha
    obtain ⟨e, he, rfl⟩ := List.mem_map.mp ha
    exact acknowledgedOf_of_not_acknowledged (isMute_iff.mp (hl e he)).1 id
  refine ⟨h.safe.mute hspool hb hl, ?_, ?_⟩
  · rw [hb]
    exact h.still.append hl
  · simp only [ht, hack]
    exact h.covered

theorem note (h : n.Guards table rows stake) (notice : Notice) :
    (n.note notice).Guards table rows stake := by
  obtain ⟨l, hb, hl⟩ := mute_note n notice
  exact h.mute rfl hb hl

theorem counts (h : n.Guards table rows stake) (hc : Counts n n') :
    n'.Guards table rows stake := by
  obtain ⟨l, hb, hl⟩ := mute_counts hc
  exact h.mute hc.spool hb hl

/-- What is acknowledged need not be in the spool any longer. -/
theorem delivers (h : n.Guards table rows (∀ id, rows.amountOf id ≤ s.amountOf id))
    (hp : n.Positive) (hdistinct : s.Distinct) (hs : s.Nonneg) (hd : Delivers s n n') :
    n'.Guards table rows False ∧ ∃ e ∈ n'.booked, e.isAcknowledged = true := by
  obtain ⟨before, ⟨endpoint, tag, timeout, body⟩, turn, panel, hb, hack, rfl, ha⟩ := hd
  have hg := h.counts hb.counts
  have hk := hp.counts hb.counts
  have hbooked : ({ before.log (.asked ⟨endpoint, tag, timeout, some s.payload⟩ turn) with
      panel := panel } : Node).booked
        = .asked ⟨endpoint, tag, timeout, some s.payload⟩ turn :: before.booked :=
    List.filter_cons_of_pos hack
  have hposted (id : Int) :
      acknowledgedOf id (.asked ⟨endpoint, tag, timeout, some s.payload⟩ turn)
        = s.amountOf id := by
    rw [acknowledgedOf, if_pos hack]
    exact Panel.Request.posted_payload hdistinct endpoint tag timeout id
  have hwritten : written? (.asked ⟨endpoint, tag, timeout, some s.payload⟩ turn) = none := rfl
  generalize Event.asked ⟨endpoint, tag, timeout, some s.payload⟩ turn = e at *
  have ht := tableAfter_cons_of_not_written hwritten table before.booked
  have hno (p : List Event) := not_unacknowledged_of_mem (l := e :: p) List.mem_cons_self hack
  have hmid : Guards table rows False { before.log e with panel := panel } := by
    refine ⟨⟨?_, ?_⟩, ?_, .inl fun id => ?_⟩
    · rw [hbooked, ht]
      exact hg.safe.spool
    · rw [hbooked]
      intro p hsuffix
      rcases List.suffix_cons_iff.mp hsuffix with rfl | hsuffix
      · refine ⟨fun id => ?_, fun h => absurd h (hno _)⟩
        rw [acknowledgedIn_cons, hposted, ht, add_assoc]
        exact ((hg.safe.survives _ (List.suffix_refl _)).covered id).trans
          (le_add_of_nonneg_left (hs.amountOf id))
      · exact hg.safe.survives p hsuffix
    · rw [hbooked]
      exact hg.still.cons ⟨e, List.mem_cons_self, hack⟩
    · rw [← acknowledgedIn_booked, hbooked, acknowledgedIn_cons, hposted, acknowledgedIn_booked]
      rcases hg.covered with hpaid | ⟨-, hstake⟩
      · exact (hpaid id).trans (le_add_of_nonneg_left (hs.amountOf id))
      · exact (hstake id).trans (le_add_of_nonneg_right (hk.acknowledged id))
  refine ⟨hmid.counts ha.counts, e, ?_, hack⟩
  obtain ⟨deltas, -, hlast⟩ := ha.counts.counted
  rw [hlast, hbooked]
  exact List.mem_append_right _ List.mem_cons_self

/-- Rows that are paid may be cleared, and a spool that refuses keeps them. -/
theorem clearSpool (h : n.Guards table rows False)
    (hpaid : ∃ e ∈ n.booked, e.isAcknowledged = true) :
    n.clearSpool.Guards table rows False := by
  obtain ⟨e, he, hack⟩ := hpaid
  have hno := not_unacknowledged_of_mem he hack
  have hall : ∀ id, rows.amountOf id ≤ n.acknowledged id := h.covered.resolve_right And.right
  -- Of a guard without a stake only the spool has to be looked at.
  have hspooled {after : Spool} (hs : (n.spooled after).Safe table rows) :
      (n.spooled after).Guards table rows False := by
    have hb : (n.spooled after).booked = [.spoolWritten after.table] ++ n.booked := rfl
    refine ⟨hs, h.still.cons ⟨e, List.mem_cons_of_mem _ he, hack⟩, .inl fun id => ?_⟩
    rw [acknowledged_of_booked hb]
    exact (hall id).trans_eq (zero_add _).symm
  obtain ⟨spool, hspool, hplace, htable⟩ := h.safe.spool
  rcases clearSpool_cases n with
    ⟨-, hc⟩ | ⟨spool', fault, -, hs, herr, hc⟩ | ⟨spool', -, hs, hok, hc⟩
  · rw [hc]
    exact h
  · obtain rfl : spool = spool' := Option.some.inj (hspool.symm.trans hs)
    have ht : spool.clear.2.table = spool.table := Spool.clear_error (Prod.ext herr rfl)
    rw [hc]
    exact (hspooled (h.safe.rewrite ((spool.place_of_write _).trans hplace)
      (ht.trans htable))).note _
  · obtain rfl : spool = spool' := Option.some.inj (hspool.symm.trans hs)
    obtain ⟨left, hleft, hempty⟩ := Spool.isEmpty_of_clear (Prod.ext hok rfl)
    have hfile := (spool.place_of_write (.ok [])).trans hplace
    have hcleared : (n.spooled spool.clear.2).Safe table rows := by
      refine h.safe.write hfile (fun id => ?_) (fun h => absurd h hno)
      have hz : Spool.heldOf spool.clear.2.table id = 0 :=
        (Spool.heldOf_of_peek hfile hleft id).trans (Snapshot.amountOf_of_isEmpty hempty id)
      rw [hz, add_zero]
      exact hall id
    have hg := hspooled hcleared
    rw [hc]
    exact ⟨⟨hg.safe.spool, hg.safe.survives⟩, hg.still, hg.covered⟩

theorem delivered (h : n.Guards table rows False)
    (hpaid : ∃ e ∈ n.booked, e.isAcknowledged = true) (s : Snapshot) :
    (n.delivered s).2.Guards table rows False := by
  have hc := (h.counts (rests_log (e := .delivered s) rfl n).counts).clearSpool hpaid
  have hb : ((n.log (.delivered s)).clearSpool.billed s).Guards table rows False :=
    ⟨⟨hc.safe.spool, hc.safe.survives⟩, hc.still, hc.covered⟩
  exact hb.counts (counts_delivered n s)

/-- What is drained has all that the counters had. -/
theorem drain (h : n.Keeps table rows) :
    n.drain.2.Guards table rows (∀ id, rows.amountOf id ≤ n.drain.1.amountOf id) := by
  have hs : n.Guards table rows (∀ id, rows.amountOf id ≤ n.drain.1.amountOf id) := by
    refine h.guards.mono fun hb id => ?_
    rw [drain_fst, Accumulator.amountOf_peek h.positive.placed]
    exact hb id
  exact ⟨⟨hs.safe.spool, hs.safe.survives⟩, hs.still, hs.covered⟩

/-- What is given back is in the counters again. -/
theorem restore (h : n.Guards table rows (∀ id, rows.amountOf id ≤ s.amountOf id))
    (hp : n.Positive) : (n.restore s).Guards table rows ((n.restore s).Backs rows) := by
  have hs : n.Guards table rows ((n.restore s).Backs rows) := by
    refine h.mono fun hb id => ?_
    have hr := Accumulator.amountOf_restore hp.placed s id
    exact (hb id).trans ((le_add_of_nonneg_left (hp.pending id)).trans_eq hr.symm)
  exact ⟨⟨hs.safe.spool, hs.safe.survives⟩, hs.still, hs.covered⟩

end Guards

namespace Keeps

theorem counts (h : n.Keeps table rows) (hc : Counts n n') : n'.Keeps table rows :=
  ⟨h.positive.counts hc, (h.guards.counts hc).mono fun hb id =>
    (hb id).trans (le_amountOf_of_counts h.positive.placed hc id)⟩

/-- A report cycle keeps what the spool held until it is acknowledged. -/
theorem report (h : n.Keeps table rows) (timeout : Option Float) (policy : Retry) :
    (n.report timeout policy).2.Keeps table rows := by
  refine ⟨h.positive.report timeout policy, ?_⟩
  have hd := Guards.drain h
  have hdistinct : n.drain.1.Distinct := n.drain_fst ▸ Accumulator.distinct_peek _
  rcases report_cases n timeout policy with ⟨he, -, hr⟩ | ⟨m, hm, -, hr⟩ | ⟨m, fault, hm, -, hr⟩
  · rw [hr]
    refine (hd.counts (counts_noted _ _ _ _)).mono fun hb id => ?_
    have hz := (hb id).trans_eq (Snapshot.amountOf_of_isEmpty he id)
    exact hz.trans_eq (Accumulator.amountOf_drain n.ledger.accumulator id).symm
  · obtain ⟨hg, hpaid⟩ := hd.delivers h.positive.drain hdistinct h.positive.nonneg_drain hm
    rw [hr]
    exact (hg.delivered hpaid n.drain.1).mono False.elim
  · have hc := hm.counts.trans (counts_undelivered m n.drain.1 fault)
    rw [hr]
    exact (hd.counts hc).restore (h.positive.drain.counts hc)

theorem accounts (table : Option (List Row)) (rows : Snapshot) : Accounts (Keeps table rows) :=
  ⟨counts, fun timeout policy h => h.report timeout policy⟩

/-- A start takes in what the spool holds, be it the first one or a later one. -/
theorem resume (hp : n.Positive) (h : n.Guards table rows True)
    (hrows : ({ table := table } : Spool).peek = .ok rows) : n.resume.2.Keeps table rows := by
  refine ⟨hp.resume, ?_⟩
  obtain ⟨spool, hspool, hplace, htable⟩ := h.safe.spool
  have hpeek (ht : tableAfter table n.booked = table) : spool.peek = .ok rows := by
    rw [← Spool.peek_of_file hplace, htable, ht, hrows]
  rcases resume_cases n with ⟨hr, he⟩ | ⟨spool', pending, hs, hp', -, hr⟩
  · rw [hr]
    refine ⟨h.safe, h.still, .inl fun id => ?_⟩
    rcases h.covered with hall | ⟨ht, -⟩
    · exact hall id
    · rw [Snapshot.amountOf_of_isEmpty (he spool rows hspool (hpeek ht))]
      exact hp.acknowledged id
  · obtain rfl : spool = spool' := Option.some.inj (hspool.symm.trans hs)
    have hb : (n.owing pending).booked = (n.restore pending).booked :=
      booked_of_log (e := .resumed pending) rfl rfl
    have hm : (n.owing pending).Guards table rows True :=
      h.mute (l := []) rfl hb (List.forall_mem_nil _)
    have hk : (n.owing pending).Keeps table rows := by
      refine ⟨hp.owing (hp.spool spool pending hs hp'), hm.safe, hm.still, ?_⟩
      rcases hm.covered with hall | ⟨ht, -⟩
      · exact .inl hall
      · obtain rfl : rows = pending := Except.ok.inj ((hpeek (hb ▸ ht)).symm.trans hp')
        refine .inr ⟨ht, fun id => ?_⟩
        have hr := Accumulator.amountOf_restore hp.placed rows id
        exact (le_add_of_nonneg_left (hp.pending id)).trans_eq hr.symm
    rw [hr]
    exact (hk.counts (counts_noteSums _ _ _)).guards

theorem start (hp : n.Positive) (h : n.Guards table rows True)
    (hrows : ({ table := table } : Spool).peek = .ok rows) : n.start.2.Keeps table rows :=
  (accounts table rows).kept.start (resume (hp.counts (counts_phase n .starting))
    (h.counts (counts_phase n .starting)) hrows)

/-- What a run does before its shutdown keeps what the spool held until it is acknowledged. -/
theorem after (h : n.Keeps table rows) (hrows : ({ table := table } : Spool).peek = .ok rows)
    {steps : List Step} (hopen : ∀ s ∈ steps, s.isShutdown = false) :
    (n.after steps).Keeps table rows := by
  refine after_induction_of_open (P := Keeps table rows) ?_ ?_ h hopen
  · intro n hn
    exact start hn.positive (hn.guards.mono fun _ => trivial) hrows
  · intro n a hn
    exact (accounts table rows).kept.act hn a

end Keeps

/-- A node that nothing has happened to guards what is in its spool. -/
theorem IsNew.guards {spool : Spool} (h : n.IsNew) (hs : n.ledger.spool = some spool)
    (hp : spool.peek = .ok rows) : n.Guards spool.table rows True := by
  have hplace := Spool.place_of_peek hp
  have hb : n.booked = [] := by rw [booked, h.journal, List.filter_nil]
  have hcovered (id : Int) :
      rows.amountOf id ≤ acknowledgedIn [] id + Spool.heldOf spool.table id := by
    rw [Spool.heldOf_of_peek hplace hp]
    exact (zero_add _).ge
  refine ⟨⟨⟨spool, hs, hplace, ?_⟩, ?_⟩, ?_, .inr ⟨?_, trivial⟩⟩
  · rw [hb]
    rfl
  · rw [hb]
    intro past hpast
    obtain rfl := List.suffix_nil.mp hpast
    exact ⟨hcovered, fun _ => .inl rfl⟩
  · rw [hb]
    intro past hpast _
    obtain rfl := List.suffix_nil.mp hpast
    rfl
  · rw [hb]
    rfl

/-- What a shutdown drains takes the place of what the spool has, which it contains. -/
theorem safe_retire (h : n.Guards table rows (∀ id, rows.amountOf id ≤ s.amountOf id))
    (hp : n.Positive) (hs : s.Nonneg) : (n.retire s).2.Safe table rows := by
  have hl : (n.log (.retired s)).Guards table rows (∀ id, rows.amountOf id ≤ s.amountOf id) :=
    h.mute (l := [.retired s]) rfl rfl (List.forall_mem_singleton.mpr rfl)
  have hack (id : Int) : 0 ≤ (n.log (.retired s)).acknowledged id :=
    (hp.acknowledged id).trans_eq (zero_add _).symm
  obtain ⟨spool, hspool, hplace, htable⟩ := hl.safe.spool
  rcases retire_cases n s with ⟨hnone, -⟩ | ⟨spool', hs', ⟨hok, hr⟩ | ⟨fault, herr, hr⟩⟩
  · exact absurd (hspool.symm.trans hnone) nofun
  · obtain rfl : spool = spool' := Option.some.inj (hspool.symm.trans hs')
    have hfile : (spool.save s).2.place = .file := (spool.place_of_write _).trans hplace
    have hpeek := Spool.peek_of_save (Prod.ext hok rfl : spool.save s = (.ok (), _))
    rw [hr]
    refine hl.safe.write hfile (fun id => ?_) (fun hno => .inr ⟨s, List.mem_cons_self, ?_, ?_⟩)
    · rw [Spool.heldOf_of_peek hfile hpeek]
      rcases hl.covered with hall | ⟨-, hstake⟩
      · exact (hall id).trans (le_add_of_nonneg_right (hs.amountOf id))
      · exact (hstake id).trans (le_add_of_nonneg_left (hack id))
    · rw [Spool.peek_of_file hfile, hpeek]
    · intro id
      rcases hl.covered with hall | ⟨-, hstake⟩
      · exact ((hall id).trans_eq (acknowledged_eq_zero hno id)).trans (hs.amountOf id)
      · exact hstake id
  · obtain rfl : spool = spool' := Option.some.inj (hspool.symm.trans hs')
    have ht : (spool.save s).2.table = spool.table := Spool.save_error (Prod.ext herr rfl)
    rw [hr]
    exact ((hl.safe.rewrite ((spool.place_of_write _).trans hplace)
      (ht.trans htable)).note _).counts (counts_noteSums _ _ _)

theorem safe_finalFlush (h : n.Keeps table rows) : n.finalFlush.2.Safe table rows := by
  refine finalFlush_induction (P := Keeps table rows) (h.report _ .once) ?_ ?_ ?_ ?_
  · exact fun hm => hm.counts (listens_note _ _).counts
  · exact fun hm => hm.guards.safe
  · exact fun hk _ => (Guards.drain hk).safe
  · exact fun hk => safe_retire (Guards.drain hk) hk.positive.drain hk.positive.nonneg_drain

theorem safe_shutdown (h : n.Keeps table rows) (inFlight : List Cycle) :
    (n.shutdown inFlight).2.Safe table rows := by
  have hc := (Keeps.accounts table rows).kept.closing (h.counts (counts_phase n .stopping)) inFlight
  have hf := safe_finalFlush (hc.counts (manages_stopEngine _).counts)
  exact shutdown_induction h.guards.safe hf fun phase hm => hm.counts (counts_shutDown _ phase)

/-- What the spool held at the beginning survives a kill at any moment of the start, of what the node
does then, and of the shutdown that ends its life.  Until the panel has acknowledged something or
the node is shut down, the table is as it was. -/
theorem spool_survives_kill {spool : Spool} (h : n.IsNew) (hs : n.ledger.spool = some spool)
    (hp : spool.peek = .ok rows) (hrows : rows.Nonneg) {running : List Step}
    (hopen : ∀ s ∈ running, s.isShutdown = false) (inFlight : List Cycle) :
    (n.start.2.after running).Outlasts spool.table rows
    ∧ Unchanged spool.table (n.start.2.after running).journal
    ∧ ((n.start.2.after running).shutdown inFlight).2.Outlasts spool.table rows := by
  have hnonneg : n.SpoolsNonneg := by
    intro spool' s hs' hp'
    obtain rfl : spool = spool' := Option.some.inj (hs.symm.trans hs')
    obtain rfl : rows = s := Except.ok.inj (hp.symm.trans hp')
    exact hrows
  have htable : ({ table := spool.table } : Spool).peek = .ok rows := by
    rw [Spool.peek_of_file (Spool.place_of_peek hp), hp]
  have hstart := Keeps.start (h.positive hnonneg) (h.guards hs hp) htable
  have hafter := hstart.after htable hopen
  exact ⟨hafter.guards.safe.outlasts, hafter.guards.still.of_booked,
    (safe_shutdown hafter inFlight).outlasts⟩

/-- The sample is shut down after its user sent something.  The panel acknowledges that and what the
spool held; what the user sends meanwhile is saved. -/
theorem spool_survives_kill_sample :
    ((sample.start.2.after [.act (.count sampleDelta)]).shutdown []).2.acknowledged 1 = ⟨7, 10⟩
    ∧ ((sample.start.2.after [.act (.count sampleDelta)]).shutdown []).2.ledger.spool.bind
      Spool.table = some [⟨1, "2", "3"⟩]
    ∧ ((sample.start.2.after [.act (.count sampleDelta)]).shutdown []).2.Outlasts
      (some [⟨1, "5", "7"⟩]) (Snapshot.ofEntries [⟨1, ⟨5, 7⟩⟩]) := by
  have hentries : (Snapshot.ofEntries [⟨1, ⟨5, 7⟩⟩]).entries = [⟨1, ⟨5, 7⟩⟩] := by decide +kernel
  have hrows : (Snapshot.ofEntries [⟨1, ⟨5, 7⟩⟩]).Nonneg := by
    rw [Snapshot.Nonneg, hentries]
    exact List.forall_mem_singleton.mpr ⟨by decide, by decide⟩
  have hpeek : ({ table := some [⟨1, "5", "7"⟩] } : Spool).peek
      = .ok (Snapshot.ofEntries [⟨1, ⟨5, 7⟩⟩]) := by decide +kernel
  have hopen : ∀ s ∈ [Step.act (.count sampleDelta)], s.isShutdown = false :=
    List.forall_mem_singleton.mpr rfl
  have hrun := spool_survives_kill isNew_sample rfl hpeek hrows hopen []
  exact ⟨by decide +kernel, by decide +kernel, hrun.2.2⟩

end ProxyNode.Node
