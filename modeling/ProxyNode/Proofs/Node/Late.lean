import ProxyNode.Proofs.Node.Abreast
import ProxyNode.Proofs.Node.Halves

/-!
# Node — Late, what is done once the stop signal has been raised

What a node that is to stop should leave alone are requests, and cycles that it has not begun.  The
journal tells which of them came after the stop signal; the bounds are kept function by function.

* `late`: the deeds that came after the stop signal.
* `Late`: no more of them than a bound, which depends on whether the signal had been raised before.
* `Late.trans`: the bounds of two parts give a bound of the whole.
* `late_retrying`: a call that is tried again asks no more than once.
* `late_start`: a start asks nothing.
* `late_refresh`, `late_sync`, `late_tick`: a cycle under way asks for the users at most, and only
  if the signal was raised before it came to that.
* `late_shutdown`: a shutdown asks once, to take the last report.
-/

namespace ProxyNode

/-- What a node that is to stop should leave alone: to ask the panel, and to begin a cycle. -/
inductive Deed where
  | asks (endpoint : Panel.Endpoint)
  | begins (cycle : Cycle)
  deriving DecidableEq, Repr

namespace Event

def deed? : Event → Option Deed
  | .asked request _ => some (.asks request.endpoint)
  | .began c => some (.begins c)
  | _ => none

def raises : Event → Bool
  | .stopRaised => true
  | _ => false

/-- Whether an event is no deed and does not raise the stop signal. -/
def isQuiet (e : Event) : Bool := e.deed?.isNone && !e.raises

theorem isQuiet_of_isRecord {e : Event} (h : e.isRecord = true) : e.isQuiet = true := by
  cases e <;> first | rfl | cases h

end Event

/-- The deeds among `past`, the latest first, that came after the stop signal, which had been raised
before all of them if `raised`. -/
def late (raised : Bool) : List Event → List Deed
  | [] => []
  | e :: past =>
    (if raised || past.any Event.raises then e.deed?.toList else []) ++ late raised past

theorem late_append (raised : Bool) (later past : List Event) :
    late raised (later ++ past)
      = late (raised || past.any Event.raises) later ++ late raised past := by
  induction later with
  | nil => rfl
  | cons e later ih =>
      have hraised : (raised || (later ++ past).any Event.raises)
          = (raised || past.any Event.raises || later.any Event.raises) := by
        rw [List.any_append, Bool.or_assoc, Bool.or_comm (later.any _)]
      rw [List.cons_append, late, late, ih, hraised, List.append_assoc]

theorem late_of_unraised {past : List Event} (h : past.any Event.raises = false) :
    late false past = [] := by
  induction past with
  | nil => rfl
  | cons e past ih =>
      rw [List.any_cons, Bool.or_eq_false_iff] at h
      rw [late, h.2, ih h.2]
      rfl

theorem late_of_quiet (raised : Bool) {events : List Event} (h : ∀ e ∈ events, e.isQuiet = true) :
    late raised events = [] ∧ events.any Event.raises = false := by
  induction events with
  | nil => exact ⟨rfl, rfl⟩
  | cons e events ih =>
      rw [List.forall_mem_cons] at h
      obtain ⟨hlate, hany⟩ := ih h.2
      have he := h.1
      rw [Event.isQuiet, Bool.and_eq_true, Option.isNone_iff_eq_none, Bool.not_eq_true'] at he
      rw [late, List.any_cons, he.1, he.2, hlate, hany]
      exact ⟨by simp, rfl⟩

namespace Cycle

/-- What a cycle under way may still do when the stop signal is raised. -/
def followUps : Cycle → List Deed
  | .sync => [.asks .users]
  | .report => []

/-- What a cycle does at most that begins after the stop signal, the latest first. -/
def deeds : Cycle → List Deed
  | .sync => [.asks .users, .asks .config, .begins .sync]
  | .report => [.asks .push, .begins .report]

/-- What some cycles do at most, one after the other, that begin after the stop signal. -/
def deedsOf : List Cycle → List Deed
  | [] => []
  | c :: rest => deedsOf rest ++ c.deeds

theorem followUps_sublist (c : Cycle) : c.followUps.Sublist [.asks .users] := by
  cases c
  · exact .refl _
  · exact List.nil_sublist _

theorem followUps_sublist_deeds (c : Cycle) : c.followUps.Sublist c.deeds := by
  cases c
  · exact List.sublist_append_left [Deed.asks .users] _
  · exact List.nil_sublist _

end Cycle

namespace Node

/-- The deeds from `n` to `n'` that came after the stop signal are among these, in this order:
`fresh` if the signal was raised meanwhile, and `stale` if it had been raised before. -/
def Late (fresh stale : List Deed) (n n' : Node) : Prop :=
  ∃ past, n'.journal = past ++ n.journal
    ∧ n'.stop.raised = (n.stop.raised || past.any Event.raises)
    ∧ (late n.stop.raised past).Sublist (if n.stop.raised then stale else fresh)

variable {fresh stale fresh' stale' : List Deed} {n n' m m' : Node}

namespace Late

theorem refl (n : Node) : Late fresh stale n n :=
  ⟨[], rfl, (Bool.or_false _).symm, List.nil_sublist _⟩

theorem mono (h : Late fresh stale n n') (hf : n.stop.raised = false → fresh.Sublist fresh')
    (hs : n.stop.raised = true → stale.Sublist stale') : Late fresh' stale' n n' := by
  obtain ⟨past, hj, hraised, hlate⟩ := h
  refine ⟨past, hj, hraised, hlate.trans ?_⟩
  split
  · next hr => exact hs hr
  · next hr => exact hf (Bool.eq_false_iff.mpr hr)

/-- What two parts of a node's life may do late gives what the whole may. -/
theorem trans (h : Late fresh stale n m) (h' : Late fresh' stale' m m') {f s : List Deed}
    (hunraised : m.stop.raised = false → fresh'.Sublist f)
    (hraised : n.stop.raised = false → m.stop.raised = true → (stale' ++ fresh).Sublist f)
    (hstale : m.stop.raised = true → (stale' ++ stale).Sublist s) : Late f s n m' := by
  obtain ⟨past, hj, hr, hlate⟩ := h
  obtain ⟨later, hj', hr', hlate'⟩ := h'
  refine ⟨later ++ past, by rw [hj', hj, List.append_assoc], ?_, ?_⟩
  · rw [hr', hr, List.any_append, Bool.or_assoc, Bool.or_comm (past.any _)]
  · rw [late_append, ← hr]
    cases hm : m.stop.raised with
    | false =>
        -- The signal was not raised in the first part, which so did nothing late.
        rw [hm] at hr hlate' hr'
        obtain ⟨hn, hpast⟩ := Bool.or_eq_false_iff.mp hr.symm
        rw [hn, late_of_unraised hpast, List.append_nil]
        exact hlate'.trans (hunraised hm)
    | true =>
        rw [hm] at hlate'
        refine (hlate'.append hlate).trans ?_
        cases hn : n.stop.raised with
        | true => exact hstale hm
        | false => exact hraised hn hm

/-- What does nothing late may follow. -/
theorem still (h : Late fresh stale n m) (h' : Late [] [] m m') : Late fresh stale n m' := by
  obtain ⟨past, hj, hr, hlate⟩ := h
  refine Late.trans ⟨past, hj, hr, hlate⟩ h' (fun _ => List.nil_sublist _) (fun _ _ => .refl _)
    fun _ => .refl _

/-- What happened before the signal was raised does not matter. -/
theorem before (h : Late fresh stale n m) (hm : m.stop.raised = false)
    (h' : Late fresh' stale' m m') : Late fresh' [] n m' :=
  h.trans h' (fun _ => .refl _) (fun _ hr => absurd hr (Bool.eq_false_iff.mp hm))
    fun hr => absurd hr (Bool.eq_false_iff.mp hm)

/-! ### Single steps -/

theorem quiet (h : Late fresh stale n m) (events : List Event)
    (he : ∀ e ∈ events, e.isQuiet = true) (hj : m'.journal = events ++ m.journal)
    (hs : m'.stop.raised = m.stop.raised) : Late fresh stale n m' := by
  obtain ⟨past, hp, hr, hlate⟩ := h
  obtain ⟨hnone, hany⟩ := late_of_quiet (n.stop.raised || past.any Event.raises) he
  refine ⟨events ++ past, by rw [hj, hp, List.append_assoc], ?_, ?_⟩
  · rw [hs, hr, List.any_append, hany, Bool.false_or]
  · rw [late_append, hnone]
    exact hlate

theorem log (h : Late fresh stale n m) {e : Event} (he : e.isQuiet = true) :
    Late fresh stale n (m.log e) :=
  h.quiet [e] (List.forall_mem_singleton.mpr he) rfl rfl

theorem raise (h : Late fresh stale n m) : Late fresh stale n m.raise := by
  unfold Node.raise
  split
  · exact h
  · obtain ⟨past, hj, -, hlate⟩ := h
    refine ⟨.stopRaised :: past, congrArg (List.cons _) hj, ?_, ?_⟩
    · rw [List.any_cons]
      exact (Bool.or_true _).symm
    · rw [late]
      have hnone : (Event.stopRaised.deed?).toList = [] := rfl
      rw [hnone, ite_self]
      exact hlate

theorem wait (h : Late fresh stale n m) (seconds : Float) :
    Late fresh stale n (m.wait seconds).2 := by
  unfold Node.wait
  split
  · have hw : Late fresh stale n { m with
        stop := { m.stop with patience := m.stop.patience - 1 }
        journal := .waited seconds :: m.journal } :=
      h.quiet [.waited seconds] (List.forall_mem_singleton.mpr rfl) rfl rfl
    dsimp only
    split
    · exact hw.raise
    · exact hw
  · exact h

theorem waitFor (h : Late fresh stale n m) (seconds : Float) :
    Late fresh stale n (m.waitFor seconds).2 :=
  waitFor_keeps h (h.wait seconds)

theorem emit (h : Late fresh stale n m) (d : Delta) : Late fresh stale n (m.emit d) :=
  List.foldlRecOn (motive := Late fresh stale n) _ _ h fun _ hm e _ =>
    hm.quiet [.counted e.2] (List.forall_mem_singleton.mpr rfl) rfl rfl

end Late

theorem books_late (fresh stale : List Deed) (n : Node) : Books (Late fresh stale n) where
  log _ he h := h.log (Event.isQuiet_of_isRecord he)
  ledger _ h := h.quiet [] (List.forall_mem_nil _) rfl rfl

theorem works_late (fresh stale : List Deed) (n : Node) : Works (Late fresh stale n) where
  note _ h := h.log rfl
  call c h := by
    rcases call_cases _ c with ⟨e, -, hc⟩ | ⟨cause, -, hc⟩
    · rw [hc]
      exact h.quiet [.called c none] (List.forall_mem_singleton.mpr rfl) rfl rfl
    · rw [hc]
      exact h.quiet [.called c (some cause)] (List.forall_mem_singleton.mpr rfl) rfl rfl
  roster _ h := h.quiet [] (List.forall_mem_nil _) rfl rfl

theorem Late.attach (h : Late fresh stale n m) : Late fresh stale n m.attach := by
  unfold Node.attach
  split
  · exact h
  · exact h.quiet [] (List.forall_mem_nil _) rfl rfl

theorem Late.inPhase (h : Late fresh stale n m) (phase : Phase) :
    Late fresh stale n { m with phase := phase } :=
  h.quiet [] (List.forall_mem_nil _) rfl rfl

theorem Late.fail (h : Late fresh stale n m) (fault : Fault) :
    Late fresh stale n (m.fail fault) := by
  have hf : Late fresh stale n { m with phase := .failed, fatal := some fault } :=
    h.quiet [] (List.forall_mem_nil _) rfl rfl
  exact Late.raise (hf.log (e := .noted (.fatal fault)) rfl)

/-! ### Requests -/

/-- A deed is a late one if the signal had been raised before. -/
theorem late_log {e : Event} {d : Deed} (he : e.deed? = some d) (hr : e.raises = false) (n : Node) :
    Late [] [d] n (n.log e) := by
  refine ⟨[e], rfl, ?_, ?_⟩
  · rw [List.any_cons, hr]
    exact (Bool.or_false _).symm
  · rw [late, List.any_nil, Bool.or_false, he]
    split
    · exact .refl _
    · exact .refl _

theorem late_ask (n : Node) (e : Panel.Endpoint) (timeout : Option Float)
    (body : Option (OrderedMap String Amount)) : Late [] [.asks e] n (n.ask e timeout body).2 := by
  have hsent : Late [] [.asks e] n
      { n.log (n.sent e timeout body) with panel := (n.panel.next e).2 } :=
    (late_log (e := n.sent e timeout body) rfl rfl n).quiet [] (List.forall_mem_nil _) rfl rfl
  have hcounted := List.foldlRecOn (motive := Late [] [.asks e] n) (n.panel.next e).1.counted
    Node.emit hsent fun _ hm d _ => hm.emit d
  unfold ask
  dsimp only
  split
  · exact hcounted.raise
  · exact hcounted

theorem late_fetchConfig (n : Node) : Late [] [.asks .config] n n.fetchConfig.2 :=
  (late_ask n .config none none).quiet [] (List.forall_mem_nil _) rfl rfl

theorem late_fetchUsers (n : Node) : Late [] [.asks .users] n n.fetchUsers.2 := by
  refine List.foldlRecOn _ _ ?_ fun m hm item _ => hm.log (e := .noted (.malformedUser item)) rfl
  exact (late_ask n .users none none).quiet [] (List.forall_mem_nil _) rfl rfl

theorem late_push (n : Node) (s : Snapshot) (timeout : Option Float) :
    Late [] [.asks .push] n (n.push s timeout).2 := by
  unfold push
  split
  · exact late_ask n .push timeout (some s.payload)
  · exact .refl n

variable {α : Type} {attempt : Node → Except Fault α × Node} {e : Panel.Endpoint}

theorem late_tryFrom (ha : ∀ n, Late [] [.asks e] n (attempt n).2) (policy : Retry)
    (errand : String) (tries : Nat) (delay : Float) (n : Node) :
    Late [] [.asks e] n (tryFrom attempt policy errand tries delay n).2 := by
  induction tries generalizing delay n with
  | zero => exact ha n
  | succ tries ih =>
      have hn := ha n
      rw [tryFrom_succ]
      rcases hattempt : attempt n with ⟨fault | a, m⟩
      · rw [hattempt] at hn
        dsimp only
        split
        · have hp : Late [] [.asks e] n (m.pause errand fault (policy.capped delay)).2 :=
            (hn.log (e := .noted (.retrying errand fault (policy.capped delay))) rfl).waitFor _
          rcases hpause : m.pause errand fault (policy.capped delay) with ⟨_ | _ | _, k⟩
          all_goals rw [hpause] at hp
          · exact hp
          · -- Another attempt follows, so the node is not to stop, nor was it before.
            have hstop := pause_fst (congrArg Prod.fst hpause)
            rw [hpause] at hstop
            exact (hp.before hstop.symm (ih _ k)).mono (fun _ => .refl _)
              fun _ => List.nil_sublist _
          · exact hp
        · exact hn
      · rw [hattempt] at hn
        exact hn

/-- A call that is tried again asks no more than once. -/
theorem late_retrying (ha : ∀ n, Late [] [.asks e] n (attempt n).2) (n : Node) (policy : Retry)
    (errand : String) : Late [] [.asks e] n (n.retrying policy errand attempt).2 :=
  late_tryFrom ha policy errand policy.extra policy.base n

/-! ### The start -/

/-- A start asks for nothing, since it looks at the stop signal before. -/
theorem late_untilReady (ha : ∀ n, Late [] [.asks e] n (attempt n).2) (errand : String)
    (rounds : Nat) (n : Node) : Late [] [] n (untilReady errand attempt rounds n).2 := by
  induction rounds generalizing n with
  | zero => exact .refl n
  | succ rounds ih =>
      unfold untilReady
      split
      · exact .refl n
      · next hn =>
        have hr : Late [] [] n (n.retrying n.plan.retry errand attempt).2 :=
          (late_retrying ha n n.plan.retry errand).mono (fun _ => .refl _)
            fun hraised => absurd hraised hn
        rcases hretry : n.retrying n.plan.retry errand attempt with ⟨fault | a, m⟩
        · rw [hretry] at hr
          dsimp only
          split
          · have hw := (hr.log (e := .noted (.notReady errand fault)) rfl).waitFor
              (startPause m.plan.retry)
            split
            · next refused k hk =>
              rw [← note, hk] at hw
              exact hw
            · next stopped k hk =>
              rw [← note, hk] at hw
              exact hw.still (ih k)
          · exact hr
        · rw [hretry] at hr
          exact hr

theorem Late.startFault (h : Late fresh stale n m) (fault : Fault) :
    Late fresh stale n (m.startFault (α := α) fault).2 := by
  unfold Node.startFault
  dsimp only
  split
  · exact h.fail fault
  · exact h

theorem late_launch (n : Node) (config : NodeConfig) (users : List User) :
    Late [] [] n (n.launch config users).2 := by
  obtain ⟨m, hm, ⟨fault, hl⟩ | ⟨fault, hl⟩ | ⟨keyed, notice, hl⟩⟩ :=
    (works_late [] [] n).launch_cases Late.attach (.refl n) config users
  · rw [hl]
    exact hm.startFault fault
  · rw [hl]
    exact hm.fail fault
  · rw [hl]
    have hr : Late [] [] n (m.launched config users keyed) :=
      hm.quiet [] (List.forall_mem_nil _) rfl rfl
    exact hr.log rfl

theorem late_start (n : Node) : Late [] [] n n.start.2 := by
  have hr : Late [] [] n { n with phase := .starting }.resume.2 :=
    (books_late [] [] n).resume ((Late.refl n).inPhase .starting)
  unfold start
  split
  · next fault m hm =>
    rw [hm] at hr
    exact hr
  · next m hm =>
    rw [hm] at hr
    have hc := hr.still (late_untilReady late_fetchConfig Panel.Endpoint.config.errand
      (m.stop.patience + 1) m)
    rw [← ready] at hc
    split
    · next fault k hk =>
      rw [hk] at hc
      exact hc.startFault fault
    · next k hk =>
      rw [hk] at hc
      exact hc
    · next config k hk =>
      rw [hk] at hc
      have hu := hc.still (late_untilReady late_fetchUsers Panel.Endpoint.users.errand
        (k.stop.patience + 1) k)
      rw [← ready] at hu
      split
      · next fault l hl =>
        rw [hl] at hu
        exact hu.startFault fault
      · next l hl =>
        rw [hl] at hu
        exact hu
      · next users l hl =>
        rw [hl] at hu
        exact hu.still (late_launch l config users)

/-! ### Cycles -/

theorem late_refresh (n : Node) : Late [] [.asks .config] n n.refresh.2 :=
  (works_late _ _ n).settles.afterConfig (late_retrying late_fetchConfig n _ _)

theorem late_syncUsers (n : Node) : Late [] [.asks .users] n n.syncUsers.2 :=
  (works_late _ _ n).settles.afterUsers (late_retrying late_fetchUsers n _ _)

/-- After the configuration a sync cycle asks for the users at most. -/
theorem late_afterRefresh (x : Except Fault Unit × Node) :
    Late [] [.asks .users] x.2 (afterRefresh x).2 := by
  obtain ⟨fault | u, m⟩ := x
  · exact (works_late _ _ m).settles.syncFailed (.refl m) fault
  · exact (works_late _ _ m).settles.endSync (late_syncUsers m)

/-- The second half of a sync cycle. -/
theorem late_sync_of_idle (hidle : n.roster.busy = false) :
    Late [] [.asks .users] n.refresh.2 n.sync.2 := by
  rw [sync_eq hidle]
  exact late_afterRefresh n.refresh

theorem late_sync (n : Node) : Late [.asks .users] [.asks .users, .asks .config] n n.sync.2 := by
  cases hb : n.roster.busy with
  | true =>
      rw [sync_of_busy hb]
      exact (Late.refl n).log rfl
  | false =>
      exact (late_refresh n).trans (late_sync_of_idle hb) (fun _ => List.nil_sublist _)
        (fun _ _ => .refl _) fun _ => .refl _

theorem late_report (n : Node) (timeout : Option Float) (policy : Retry) :
    Late [] [.asks .push] n (n.report timeout policy).2 := by
  have hd : Late [] [] n n.drain.2 := (books_late [] [] n).ledger _ (.refl n)
  have hr := hd.trans (late_retrying (fun m => late_push m n.drain.1 timeout) n.drain.2 policy
    Panel.Endpoint.push.errand) (f := []) (s := [.asks .push]) (fun _ => .refl _)
    (fun hn hm => ?_) fun _ => .refl _
  · cases he : n.drain.1.isEmpty with
    | true =>
        rw [report_of_nothing he]
        have hnote := (books_late [] [] n).note hd .nothingToPush
        exact ((books_late _ _ n).ledger _ hnote).mono (fun _ => .refl _)
          fun _ => List.nil_sublist _
    | false =>
        rw [report_eq he]
        exact (books_late _ _ n).afterPush hr
  · have hstop : n.drain.2.stop.raised = n.stop.raised := rfl
    rw [hstop, hn] at hm
    cases hm

theorem late_tick (n : Node) (c : Cycle) : Late c.followUps c.deeds n (n.tick c).2 := by
  have hp : Late c.followUps c.deeds n ((n.log (.began c)).perform c).2 := by
    have hb := late_log (e := .began c) rfl rfl n
    have hn (hr : n.stop.raised = false) : (n.log (.began c)).stop.raised ≠ true :=
      Bool.eq_false_iff.mp hr
    cases c with
    | sync =>
        exact hb.trans (late_sync _) (fun _ => .refl _) (fun hr hr' => absurd hr' (hn hr))
          fun _ => .refl _
    | report =>
        exact hb.trans (late_report _ none n.plan.retry) (fun _ => .refl _)
          (fun hr hr' => absurd hr' (hn hr)) fun _ => .refl _
  unfold tick
  rcases hx : (n.log (.began c)).perform c with ⟨fault | ok, m⟩
  · rw [hx] at hp
    dsimp only
    split
    · exact hp.fail fault
    · exact hp.log rfl
  · rw [hx] at hp
    exact hp

/-! ### The shutdown -/

theorem late_ticks_of (l : List Cycle) (n : Node) :
    Late (Cycle.deedsOf l) (Cycle.deedsOf l) n (l.foldl (fun n c => (n.tick c).2) n) := by
  induction l generalizing n with
  | nil => exact .refl n
  | cons c rest ih =>
      exact (late_tick n c).trans (ih _) (fun _ => List.sublist_append_left _ _)
        (fun _ _ => (List.Sublist.refl _).append c.followUps_sublist_deeds) fun _ => .refl _

theorem Late.beside (h : Late fresh stale n m) {f : Node → Node}
    (hf : ∀ {k}, Late fresh stale n k → Late fresh' stale' n (f k)) :
    Late fresh' stale' n (m.beside f) := by
  have hm : Late fresh stale n { m with stop := { m.stop with counted := false } } :=
    h.quiet [] (List.forall_mem_nil _) rfl rfl
  exact (hf hm).quiet [] (List.forall_mem_nil _) rfl rfl

/-- A last report is one request. -/
theorem late_finalFlush (n : Node) : Late [] [.asks .push] n n.finalFlush.2 := by
  have hbooks := books_late [] [.asks .push] n
  exact finalFlush_induction (P := Late [] [.asks .push] n) (Q := Late [] [.asks .push] n)
    (late_report n _ .once) (fun hm => hbooks.note hm _) id (fun hm _ => hbooks.ledger _ hm)
    fun hm => hbooks.retire (hbooks.ledger _ hm) _

theorem late_closing (n : Node) (inFlight : List Cycle) :
    Late (Cycle.deedsOf inFlight) (Cycle.deedsOf inFlight) n (n.closing inFlight) := by
  have hn : Late [] [] n (({ n with phase := .stopping }.raise).note .shuttingDown) :=
    ((Late.refl n).inPhase .stopping).raise.log rfl
  refine hn.beside fun hk => hk.trans (late_ticks_of inFlight _) (fun _ => .refl _) ?_ ?_
  · exact fun _ _ => (List.append_nil _).symm ▸ .refl _
  · exact fun _ => (List.append_nil _).symm ▸ .refl _

/-- The cycles under way come to their end, and then there is one more request. -/
theorem late_shutdown (n : Node) (inFlight : List Cycle) :
    Late (.asks .push :: Cycle.deedsOf inFlight) (.asks .push :: Cycle.deedsOf inFlight) n
      (n.shutdown inFlight).2 := by
  refine shutdown_induction (.refl n) ?_ fun phase hm => (hm.inPhase phase).log rfl
  have hs := (works_late _ _ n).operates.stopEngine (late_closing n inFlight)
  exact hs.trans (late_finalFlush _) (fun _ => List.nil_sublist _) (fun _ _ => .refl _)
    fun _ => .refl _

end Node

end ProxyNode
