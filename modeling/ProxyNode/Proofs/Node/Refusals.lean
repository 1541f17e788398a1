import ProxyNode.Proofs.Node.Convergence
import ProxyNode.Proofs.Node.Passes

/-!
# Node — Refusals, the only faults that a running node does not survive

A cycle fails the node just if it is a sync cycle in which the panel refused the configuration or
the users.  Whatever else goes wrong in it, the node runs as before, and it is told to stop by
nobody but those who may.

* `Heeds`: a stop signal that is set was set by a request to stop, or as patience for waits ran out.
* `rejection_eq_some_iff`: what is refused in a sync cycle.
* `rejected_sync`, `rejected_report`: which cycles end with a refusal.
* `tick_cases`: what comes of a cycle.
* `start_ok`: nor is anything fatal in a start that comes to its end.
-/

namespace ProxyNode

/-- The refusal that a result is, if it is one. -/
def rejected? {α : Type} : Except Fault α → Option Fault
  | .ok _ => none
  | .error fault => if fault.isRejected then some fault else none

theorem rejected?_eq_some_iff {α : Type} {result : Except Fault α} {fault : Fault} :
    rejected? result = some fault ↔ result = .error fault ∧ fault.isRejected = true := by
  cases result with
  | ok a => simp [rejected?]
  | error fault' =>
      rw [rejected?]
      split
      · next hr =>
        constructor
        · rintro ⟨rfl⟩
          exact ⟨rfl, hr⟩
        · rintro ⟨⟨rfl⟩, -⟩
          rfl
      · next hr =>
        constructor
        · nofun
        · rintro ⟨⟨rfl⟩, hf⟩
          exact absurd hf hr

theorem rejected?_of_transient {α : Type} {fault : Fault} (h : fault.isTransient = true) :
    rejected? (.error fault : Except Fault α) = none := by
  cases fault <;> first | rfl | cases h

theorem rejected?_of_config {α : Type} {fault : Fault} (h : fault.isConfig = true) :
    rejected? (.error fault : Except Fault α) = none := by
  cases fault <;> first | rfl | cases h

namespace Node

/-! ### Who may stop a node -/

/-- Whether somebody asked the node to stop, as `past` tells: while a request was under way, or as
no patience was left for a wait. -/
def Bidden (n : Node) (past : List Event) : Prop :=
  (∃ request turn, Event.asked request turn ∈ past ∧ turn.stops = true)
  ∨ n.stop.patience = 0 ∧ ∃ seconds, Event.waited seconds ∈ past

/-- From `n` to `n'` the stop signal was set only as somebody asked for it, or because of `why`. -/
structure Told (why : Prop) (n n' : Node) : Prop where
  patience : n'.stop.patience ≤ n.stop.patience
  stays : n.stop.raised = true → n'.stop.raised = true
  stop : ∃ past, n'.journal = past ++ n.journal
    ∧ (n'.stop.raised = true → n.stop.raised = true ∨ why ∨ n'.Bidden past)

/-- From `n` to `n'` nothing was fatal, the clock is the same, and the stop signal was set only as
somebody asked for it. -/
structure Heeds (n n' : Node) : Prop where
  clock : n'.clock = n.clock
  fatal : n'.fatal = n.fatal
  phase : n'.phase = n.phase
  told : Told False n n'

section Heeding

variable {n n₁ n₂ n₃ : Node} {why why' : Prop} {past : List Event}

theorem Bidden.later (h : n₁.Bidden past) (later : List Event)
    (hp : n₂.stop.patience ≤ n₁.stop.patience) : n₂.Bidden (later ++ past) := by
  rcases h with ⟨request, turn, hm, ht⟩ | ⟨hz, seconds, hm⟩
  · exact .inl ⟨request, turn, List.mem_append_right later hm, ht⟩
  · exact .inr ⟨Nat.le_zero.mp (hz ▸ hp), seconds, List.mem_append_right later hm⟩

theorem Bidden.earlier {earlier : List Event} (h : n.Bidden past) :
    n.Bidden (past ++ earlier) := by
  rcases h with ⟨request, turn, hm, ht⟩ | ⟨hz, seconds, hm⟩
  · exact .inl ⟨request, turn, List.mem_append_left earlier hm, ht⟩
  · exact .inr ⟨hz, seconds, List.mem_append_left earlier hm⟩

theorem told_of_eq (past : List Event) (hs : n₂.stop = n₁.stop)
    (hj : n₂.journal = past ++ n₁.journal) : Told why n₁ n₂ :=
  ⟨Nat.le_of_eq (congrArg StopSignal.patience hs), fun h => hs ▸ h, past, hj,
    fun h => .inl (hs ▸ h)⟩

theorem Told.mono (h : Told why n₁ n₂) (hw : why → why') : Told why' n₁ n₂ := by
  obtain ⟨past, hj, hs⟩ := h.stop
  exact ⟨h.patience, h.stays, past, hj, fun hr => (hs hr).imp_right (Or.imp_left hw)⟩

theorem Told.trans (h : Told why n₁ n₂) (h' : Told why n₂ n₃) : Told why n₁ n₃ := by
  obtain ⟨past, hj, hs⟩ := h.stop
  obtain ⟨later, hj', hs'⟩ := h'.stop
  refine ⟨h'.patience.trans h.patience, fun hr => h'.stays (h.stays hr), later ++ past,
    by rw [hj', hj, List.append_assoc], fun hr => ?_⟩
  rcases hs' hr with hr | hw | hb
  · exact (hs hr).imp_right (Or.imp_right fun hb => hb.later later h'.patience)
  · exact .inr (.inl hw)
  · exact .inr (.inr hb.earlier)

/-- Who has a reason to set the stop signal may do so. -/
theorem Told.raise (h : Told why n₁ n₂) (past : List Event) (hj : n₂.journal = past ++ n₁.journal)
    (hb : why ∨ n₂.Bidden past) : Told why n₁ n₂.raise := by
  unfold Node.raise
  split
  · exact h
  · exact ⟨h.patience, fun _ => rfl, .stopRaised :: past, congrArg (List.cons Event.stopRaised) hj,
      fun _ => .inr (hb.imp_right fun hb => hb.later [_] le_rfl)⟩

theorem heeds_of_eq (past : List Event) (hf : n₂.fatal = n₁.fatal) (hp : n₂.phase = n₁.phase)
    (hs : n₂.stop = n₁.stop) (hj : n₂.journal = past ++ n₁.journal)
    (hc : n₂.clock = n₁.clock := by rfl) : Heeds n₁ n₂ :=
  ⟨hc, hf, hp, told_of_eq past hs hj⟩

theorem Heeds.refl (n : Node) : Heeds n n := heeds_of_eq [] rfl rfl rfl rfl

theorem Heeds.trans (h : Heeds n₁ n₂) (h' : Heeds n₂ n₃) : Heeds n₁ n₃ :=
  ⟨h'.clock.trans h.clock, h'.fatal.trans h.fatal, h'.phase.trans h.phase, h.told.trans h'.told⟩

theorem Heeds.raise (h : Heeds n₁ n₂) (past : List Event) (hj : n₂.journal = past ++ n₁.journal)
    (hb : n₂.Bidden past) : Heeds n₁ n₂.raise := by
  have ht := h.told.raise past hj (.inr hb)
  unfold Node.raise at ht ⊢
  split
  · exact h
  · next hr =>
    rw [if_neg hr] at ht
    exact ⟨h.clock, h.fatal, h.phase, ht⟩

theorem heeds_log (n : Node) (e : Event) : Heeds n (n.log e) :=
  heeds_of_eq [e] rfl rfl rfl rfl

theorem heeds_wait (n : Node) (seconds : Float) : Heeds n (n.wait seconds).2 := by
  unfold wait
  split
  · have hw : Heeds n { n with
        stop := { n.stop with patience := n.stop.patience - 1 }
        journal := .waited seconds :: n.journal } :=
      ⟨rfl, rfl, rfl, Nat.sub_le _ _, id, [.waited seconds], rfl, .inl⟩
    dsimp only
    split
    · next hle =>
      exact hw.raise [.waited seconds] rfl
        (.inr ⟨Nat.sub_eq_zero_of_le hle, seconds, List.mem_cons_self⟩)
    · exact hw
  · exact .refl n

theorem wait_fst (n : Node) (seconds : Float) :
    (n.wait seconds).1 = (n.wait seconds).2.stop.raised := by
  unfold wait
  split <;> rfl

theorem heeds_emit (n : Node) (d : Delta) : Heeds n (n.emit d) :=
  List.foldlRecOn (motive := Heeds n) _ _ (.refl n) fun _ hm e _ =>
    hm.trans (heeds_of_eq [.counted e.2] rfl rfl rfl rfl)

theorem heeds_ask (n : Node) (e : Panel.Endpoint) (timeout : Option Float)
    (body : Option (OrderedMap String Amount)) : Heeds n (n.ask e timeout body).2 := by
  have hsent : Heeds n { n.log (n.sent e timeout body) with panel := (n.panel.next e).2 } :=
    heeds_of_eq [n.sent e timeout body] rfl rfl rfl rfl
  have hcounted : Heeds { n.log (n.sent e timeout body) with panel := (n.panel.next e).2 }
      ((n.panel.next e).1.counted.foldl emit
        { n.log (n.sent e timeout body) with panel := (n.panel.next e).2 }) :=
    List.foldlRecOn _ _ (.refl _) fun m hm d _ => hm.trans (heeds_emit m d)
  unfold ask
  dsimp only
  split
  · next hstops =>
    -- The request that told the node to stop is in the journal by then.
    obtain ⟨later, hj, -⟩ := hcounted.told.stop
    refine (hsent.trans hcounted).raise (later ++ [n.sent e timeout body]) ?_
      (.inl ⟨_, _, List.mem_append_right later List.mem_cons_self, hstops⟩)
    rw [List.append_assoc]
    exact hj
  · exact hsent.trans hcounted

theorem heeds_call (n : Node) (c : Engine.Call) : Heeds n (n.call c).2 := by
  rcases call_cases n c with ⟨e, -, hc⟩ | ⟨cause, -, hc⟩
  · rw [hc]
    exact heeds_of_eq [.called c none] rfl rfl rfl rfl
  · rw [hc]
    exact heeds_of_eq [.called c (some cause)] rfl rfl rfl rfl

theorem heeds_attach (n : Node) : Heeds n n.attach := by
  unfold attach
  split
  · exact .refl n
  · exact heeds_of_eq [] rfl rfl rfl rfl

/-- Whatever a node does step by step, it heeds. -/
theorem passes_heeds (n : Node) : Passes (Heeds n) where
  log e h := h.trans (heeds_log _ e)
  wait seconds h := h.trans (heeds_wait _ seconds)
  ask e timeout body h := h.trans (heeds_ask _ e timeout body)
  call c h := h.trans (heeds_call _ c)
  attach h := h.trans (heeds_attach _)
  client _ h := h.trans (heeds_of_eq [] rfl rfl rfl rfl)
  roster _ h := h.trans (heeds_of_eq [] rfl rfl rfl rfl)
  ledger _ h := h.trans (heeds_of_eq [] rfl rfl rfl rfl)

end Heeding

/-! ### Which cycles are refused -/

/-- The refusal of the configuration or of the users in a sync cycle that a node goes through; it
asks for the users if nothing went wrong before. -/
def rejection (n : Node) : Option Fault :=
  if n.roster.busy then none
  else (rejected? n.configFetch.1).or
    (if n.refresh.1.isOk then rejected? n.refresh.2.userFetch.1 else none)

/-- The refusal in a cycle that a node begins; a report cycle asks for neither. -/
def refusal (n : Node) : Cycle → Option Fault
  | .sync => (n.log (.began .sync)).rejection
  | .report => none

variable {n : Node}

theorem not_rejected_of_goesOn {result : Except Fault NodeConfig} (h : goesOn result = true) :
    rejected? result = none := by
  cases result with
  | ok config => rfl
  | error fault => cases fault <;> first | rfl | cases h

/-- In a sync cycle the panel refuses the configuration, or the cycle goes on and it refuses the
users. -/
theorem rejection_eq_some_iff {fault : Fault} :
    n.rejection = some fault ↔ n.roster.busy = false ∧ fault.isRejected = true
      ∧ (n.configFetch.1 = .error fault
        ∨ n.refresh.1 = .ok () ∧ n.refresh.2.userFetch.1 = .error fault) := by
  unfold rejection
  cases n.roster.busy with
  | true => simp
  | false =>
      rw [if_neg Bool.false_ne_true, Option.or_eq_some_iff, rejected?_eq_some_iff]
      cases hr : n.refresh.1 with
      | ok u =>
          have hnone := not_rejected_of_goesOn (goesOn_of_refresh hr)
          have hno : ¬ (n.configFetch.1 = .error fault ∧ fault.isRejected = true) := by
            rw [← rejected?_eq_some_iff, hnone]
            nofun
          have hok : (Except.ok u : Except Fault Unit).isOk = true := rfl
          have hu : (Except.ok u : Except Fault Unit) = .ok () := rfl
          rw [or_iff_right hno, if_pos hok, rejected?_eq_some_iff, hnone]
          tauto
      | error cause =>
          have hno : ¬ (Except.error cause : Except Fault Unit).isOk = true := nofun
          have hne : (Except.error cause : Except Fault Unit) ≠ .ok () := nofun
          rw [if_neg hno]
          tauto

/-- What breaks a restart off is not a refusal of the panel. -/
theorem rejected_restart (n : Node) (config : NodeConfig) :
    rejected? (n.restart config).1 = none := by
  obtain ⟨m, -, ⟨fault, hf, hr⟩ | ⟨keyed, -, hr⟩⟩ := restart_cases n config
  · rw [hr]
    exact if_neg (by rw [isRejected_of_result hf]; nofun)
  · rw [hr]
    rfl

theorem rejected_adopt (n : Node) (config : NodeConfig) :
    rejected? (n.adopt config).1 = none := by
  unfold adopt
  split
  · exact rejected_restart n config
  · split
    · exact rejected_restart n config
    · rfl

theorem rejected_useUsers (n : Node) (users : List User) :
    rejected? (n.useUsers users).1 = none := by
  unfold useUsers
  split
  · rfl
  · dsimp only
    split
    · rfl
    · next config _ =>
      have hr := @isRejected_of_reconcile
        { n with roster := { n.roster with fetched := some users } } config users
      generalize reconcile _ config users = x at hr
      obtain ⟨fault | ok, m⟩ := x
      · exact if_neg (by rw [hr rfl]; nofun)
      · rfl

/-- The first half of a sync cycle ends with a refusal just if the panel refuses the
configuration. -/
theorem rejected_refresh (n : Node) : rejected? n.refresh.1 = rejected? n.configFetch.1 := by
  unfold refresh
  rw [configFetch]
  split
  · next config m hm =>
    rw [hm]
    exact rejected_adopt m config
  · next what m hm => rw [hm]; rfl
  · next fault m hn hm =>
    rw [hm]
    split
    · next ht => exact (rejected?_of_transient ht).symm
    · split
      · next hc => exact (rejected?_of_config hc).symm
      · rfl

theorem rejected_syncUsers (n : Node) : rejected? n.syncUsers.1 = rejected? n.userFetch.1 := by
  unfold syncUsers
  rw [userFetch]
  split
  · next users m hm => rw [hm]; exact rejected_useUsers m users
  · next what m hm =>
    rw [hm]
    split
    · rfl
    · exact rejected_useUsers m _
  · next fault m hn hm =>
    rw [hm]
    split
    · next hf =>
      rcases Bool.or_eq_true_iff.mp hf with ht | hc
      · exact (rejected?_of_transient ht).symm
      · exact (rejected?_of_config hc).symm
    · rfl

/-- A sync cycle ends with a refusal just if the panel refuses the configuration or the users in
it. -/
theorem rejected_sync (n : Node) : rejected? n.sync.1 = n.rejection := by
  have hr := rejected_refresh n
  have hu := rejected_syncUsers n.refresh.2
  unfold sync rejection
  split
  · rfl
  · rw [← hr, ← hu]
    generalize n.refresh = r
    obtain ⟨fault | u, m⟩ := r
    · exact (Option.or_none).symm
    · have hok : (Except.ok u : Except Fault Unit).isOk = true := rfl
      dsimp only
      rw [if_pos hok, rejected?, Option.none_or]
      split
      · next fault k hk => rw [hk]
      · next ok k hk => rw [hk]

/-- No report cycle ends with a refusal. -/
theorem rejected_report (n : Node) (timeout : Option Float) (policy : Retry) :
    rejected? (n.report timeout policy).1 = none := by
  rcases report_cases n timeout policy with ⟨-, hr, -⟩ | ⟨m, -, hr, -⟩ | ⟨m, fault, -, hr, -⟩
  · rw [hr]
    rfl
  · rw [hr]
    unfold delivered
    dsimp only
    split
    · unfold noteSums
      split <;> rfl
    · rfl
  · rw [hr]
    cases fault <;> rfl

/-! ### What a refusal does -/

theorem phase_of_raise (n : Node) : n.raise.phase = n.phase := by
  unfold raise
  split <;> rfl

theorem fatal_of_raise (n : Node) : n.raise.fatal = n.fatal := by
  unfold raise
  split <;> rfl

theorem phase_of_fail (n : Node) (fault : Fault) : (n.fail fault).phase = .failed :=
  phase_of_raise _

theorem fatal_of_fail (n : Node) (fault : Fault) : (n.fail fault).fatal = some fault :=
  fatal_of_raise _

theorem raised_of_fail (n : Node) (fault : Fault) : (n.fail fault).stop.raised = true :=
  raised_of_raise _

theorem told_fail (n : Node) (fault : Fault) : Told True n (n.fail fault) := by
  have hf : Told True n
      (Node.note { n with phase := .failed, fatal := some fault } (.fatal fault)) :=
    told_of_eq [.noted (.fatal fault)] rfl rfl
  exact hf.raise [.noted (.fatal fault)] rfl (.inl trivial)

/-- What comes of a cycle.  If the panel refuses it, the refusal is fatal and the cycle is the last
one; else another may follow, and nothing was fatal. -/
theorem tick_cases (n : Node) (c : Cycle) :
    (∃ fault m, n.refusal c = some fault ∧ Heeds n m ∧ n.tick c = (false, m.fail fault))
    ∨ n.refusal c = none ∧ ∃ m, Heeds n m ∧ n.tick c = (true, m) := by
  have hb : Heeds n (n.log (.began c)) := heeds_log n _
  have hrefusal : rejected? ((n.log (.began c)).perform c).1 = n.refusal c := by
    cases c with
    | sync => exact rejected_sync _
    | report => exact rejected_report _ _ _
  have hd : Heeds n ((n.log (.began c)).perform c).2 := by
    cases c with
    | sync => exact (passes_heeds n).sync hb
    | report => exact (passes_heeds n).report hb none _
  rw [← hrefusal]
  unfold tick
  split
  · next ok m hm =>
    rw [hm] at hd ⊢
    exact .inr ⟨rfl, m, hd, rfl⟩
  · next fault m hm =>
    rw [hm] at hd ⊢
    rw [rejected?]
    split
    · exact .inl ⟨fault, m, rfl, hd, rfl⟩
    · exact .inr ⟨rfl, _, hd.trans (heeds_log m _), rfl⟩

/-- Nothing was fatal in a start that came to its end. -/
theorem start_ok {m : Node} {runs : Bool} (h : n.start = (.ok runs, m)) :
    m.phase = (if runs then .running else .starting) ∧ m.fatal = n.fatal := by
  obtain ⟨k, hk, hcases⟩ :=
    (passes_heeds { n with phase := .starting }).start_cases (.refl _)
  rcases hcases with ⟨_, hs⟩ | ⟨_, hs⟩ | ⟨_, hs⟩ | hs | ⟨config, users, keyed, notice, hs⟩
  · rw [hs] at h
    cases h
  · rw [hs] at h
    cases h
  · rw [hs] at h
    cases h
  · rw [hs] at h
    cases h
    exact ⟨hk.phase, hk.fatal⟩
  · rw [hs] at h
    cases h
    exact ⟨rfl, hk.fatal⟩

/-- The sample, whose panel refuses reports, and after the start refuses to list the users. -/
def sampleRefused : Node :=
  { sample with panel := { sample.panel with
      users := sample.panel.users ++ [{ answer := .response { status := 401 } }]
      push := [{ answer := .response { status := 403 } }] } }

end Node

end ProxyNode
