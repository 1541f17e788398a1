import ProxyNode.Proofs.Node.Rounds
import ProxyNode.Proofs.Node.Start

/-!
# Node — Kept, from single operations to runs

Apart from the sync cycle, the report cycle and the launch, whatever a node does in between rests
with counting, unless it fails (`Rests`).  What these three keep, every action keeps.

* `Kept`: what they keep; `Kept.start`, `Kept.act` and `Kept.closing` follow.
* `Accounts`: what is a matter of the traffic alone, which a sync cycle and a launch only count.
* `Attends`: what is a matter of the users and the engine alone, which no report concerns.
* `lasts_after`: what no sequence of steps takes back.
* `kept_isOpen`: nothing but a shutdown begins one.
-/

namespace ProxyNode.Node

/-- From `n` to `n'` nothing happened to the users and the engine. -/
structure SameUsers (n n' : Node) : Prop where
  roster : n'.roster = n.roster
  engine : n'.engine = n.engine
  refuses : n'.refuses = n.refuses

/-- From `n` to `n'` nothing happened but counting, and that the node may have failed. -/
structure Rests (n n' : Node) : Prop where
  same : SameUsers n n'
  counts : Counts n n'
  phase : n'.phase = n.phase ∨ n'.phase = .failed

section Chains

variable {n n₁ n₂ n₃ : Node}

theorem SameUsers.trans (h : SameUsers n₁ n₂) (h' : SameUsers n₂ n₃) : SameUsers n₁ n₃ :=
  ⟨h'.roster.trans h.roster, h'.engine.trans h.engine, h'.refuses.trans h.refuses⟩

theorem KeepsRoster.sameUsers (h : KeepsRoster n₁ n₂) : SameUsers n₁ n₂ :=
  ⟨h.roster, h.engine, h.refuses⟩

theorem Rests.trans (h : Rests n₁ n₂) (h' : Rests n₂ n₃) : Rests n₁ n₃ := by
  refine ⟨h.same.trans h'.same, h.counts.trans h'.counts, ?_⟩
  rcases h'.phase with hp | hp
  · rw [hp]
    exact h.phase
  · exact .inr hp

theorem Listens.rests (h : Listens n₁ n₂) : Rests n₁ n₂ :=
  ⟨h.keeps.sameUsers, h.counts, .inl h.keeps.phase⟩

end Chains

theorem sameUsers_phase (n : Node) (phase : Phase) : SameUsers n { n with phase := phase } :=
  ⟨rfl, rfl, rfl⟩

theorem counts_phase (n : Node) (phase : Phase) : Counts n { n with phase := phase } :=
  .of_eq rfl rfl

theorem counts_shutDown (n : Node) (phase : Phase) :
    Counts n (Node.note { n with phase := phase } .shutDown) :=
  (counts_phase n phase).trans (listens_note _ .shutDown).counts

theorem rests_log {e : Event} (h : e.isBooked = false) (n : Node) : Rests n (n.log e) :=
  ⟨⟨rfl, rfl, rfl⟩, .of_log rfl h rfl, .inl rfl⟩

theorem rests_fail (n : Node) (fault : Fault) : Rests n (n.fail fault) := by
  have hf : Rests n { n with phase := .failed, fatal := some fault } :=
    ⟨⟨rfl, rfl, rfl⟩, .of_eq rfl rfl, .inr rfl⟩
  exact hf.trans ((listens_note _ (.fatal fault)).trans (listens_raise _)).rests

theorem rests_startFault {α : Type} (n : Node) (fault : Fault) :
    Rests n (n.startFault fault : Except Fault α × Node).2 := by
  unfold startFault
  dsimp only
  split
  · exact rests_fail n fault
  · exact (Listens.refl n).rests

theorem between_rests : Between Rests where
  listens hl := hl.rests
  began n _ := rests_log rfl n
  fails := rests_fail
  signals _ _ := ⟨⟨rfl, rfl, rfl⟩, .of_eq rfl rfl, .inl rfl⟩

/-- What is kept by all that a running node does. -/
structure Kept (P : Node → Prop) : Prop where
  rests : ∀ {n n'}, P n → Rests n n' → P n'
  sync : ∀ {n}, P n → P n.sync.2
  report : ∀ {n} timeout policy, P n → P (n.report timeout policy).2
  launch : ∀ {n} config users, P n → P (n.launch config users).2

namespace Kept

variable {P : Node → Prop} {n : Node}

/-- What a start finds once it has taken in the spool is kept to its end. -/
theorem start (hp : Kept P) (h : P { n with phase := .starting }.resume.2) : P n.start.2 := by
  rcases start_cases n with ⟨fault, -, hs⟩ | ⟨-, m, hm, ⟨fault, hs⟩ | hs | ⟨config, users, hs⟩⟩
  · rw [hs]
    exact h
  · rw [hs]
    exact hp.rests h (hm.rests.trans (rests_startFault m fault))
  · rw [hs]
    exact hp.rests h hm.rests
  · rw [hs]
    exact hp.launch config users (hp.rests h hm.rests)

theorem rounds (hp : Kept P) : Rounds Rests P := ⟨between_rests, hp.rests, hp.sync, hp.report⟩

theorem act (hp : Kept P) (h : P n) (a : Action) : P (n.act a) := hp.rounds.act h a

theorem acts (hp : Kept P) (h : P n) (actions : List Action) : P (n.acts actions) :=
  hp.rounds.acts h actions

/-- The cycles under way keep what a node that begins to shut down has. -/
theorem closing (hp : Kept P) (h : P { n with phase := .stopping }) (inFlight : List Cycle) :
    P (n.closing inFlight) :=
  hp.rounds.closing h inFlight

end Kept

/-! ### The traffic -/

/-- What is a matter of the traffic alone, and is kept by counting and by the report cycle. -/
structure Accounts (P : Node → Prop) : Prop where
  counts : ∀ {n n'}, P n → Counts n n' → P n'
  report : ∀ {n} timeout policy, P n → P (n.report timeout policy).2

/-- A launch does no more than count. -/
theorem counts_launch (n : Node) (config : NodeConfig) (users : List User) :
    Counts n (n.launch config users).2 := by
  obtain ⟨m, hm, ⟨fault, -, hr⟩ | ⟨keyed, -, hk⟩⟩ := launch_cases n config users
  · rw [hr]
    exact hm.counts.trans (rests_startFault m fault).counts
  · have hc := (hm.counts.trans (manages_attach m).counts).trans
      (manages_call m.attach (.start config keyed.values)).counts
    rcases hk with ⟨cause, k, ha, hr⟩ | ⟨k, notice, ha, hnotice, hr⟩
    · rw [ha] at hc
      rw [hr]
      exact hc.trans (rests_fail k _).counts
    · rw [ha] at hc
      rw [hr]
      have hl : Counts k (k.launched config users keyed) := .of_eq rfl rfl
      exact (hc.trans hl).trans (listens_note _ notice hnotice).counts

theorem Accounts.kept {P : Node → Prop} (hp : Accounts P) : Kept P where
  rests h hr := hp.counts h hr.counts
  sync h := hp.counts h (syncs_sync _).counts
  report timeout policy h := hp.report timeout policy h
  launch config users h := hp.counts h (counts_launch _ config users)

/-! ### The users and the engine -/

/-- What is a matter of the users and the engine alone, and is kept by all that concerns them. -/
structure Attends (P : Node → Prop) : Prop where
  same : ∀ {n n'}, P n → SameUsers n n' → P n'
  sync : ∀ {n}, P n → P n.sync.2
  stopEngine : ∀ {n}, P n → P n.stopEngine
  launch : ∀ {n} config users, P n → P (n.launch config users).2

namespace Attends

variable {P : Node → Prop} {n : Node}

theorem kept (hp : Attends P) : Kept P where
  rests h hr := hp.same h hr.same
  sync h := hp.sync h
  report timeout policy h := hp.same h (keepsRoster_report _ timeout policy).sameUsers
  launch config users h := hp.launch config users h

theorem start (hp : Attends P) (h : P n) : P n.start.2 := by
  have hs : P { n with phase := .starting } := hp.same h (sameUsers_phase n .starting)
  exact hp.kept.start (hp.same hs (keepsRoster_resume _).sameUsers)

theorem shutdown (hp : Attends P) (h : P n) (inFlight : List Cycle) :
    P (n.shutdown inFlight).2 := by
  have hs := hp.same h (sameUsers_phase n .stopping)
  have hc := hp.stopEngine (hp.kept.closing hs inFlight)
  have hf := hp.same hc (keepsRoster_finalFlush _).sameUsers
  exact shutdown_induction h hf fun _ hm => hp.same hm ⟨rfl, rfl, rfl⟩

theorem step (hp : Attends P) (h : P n) (s : Step) : P (n.step s) := by
  cases s with
  | start => exact hp.start h
  | act a => exact hp.kept.act h a
  | shutdown inFlight => exact hp.shutdown h inFlight

/-- What single operations keep is kept by any sequence of steps. -/
theorem after (hp : Attends P) (h : P n) (steps : List Step) : P (n.after steps) :=
  after_induction (P := P) (fun _ s hm => hp.step hm s) h steps

end Attends

/-! ### What no step takes back -/

/-- From `n` to `n'` neither what the engine refuses changed nor whether a cycle is under way, and a
configuration is there if there was one. -/
structure Lasts (n n' : Node) : Prop where
  refuses : n'.refuses = n.refuses
  busy : n'.roster.busy = n.roster.busy
  config : n.roster.config.isSome → n'.roster.config.isSome

theorem Lasts.trans {n₁ n₂ n₃ : Node} (h : Lasts n₁ n₂) (h' : Lasts n₂ n₃) : Lasts n₁ n₃ :=
  ⟨h'.refuses.trans h.refuses, h'.busy.trans h.busy, fun hc => h'.config (h.config hc)⟩

theorem Syncs.lasts {n n' : Node} (h : Syncs n n') : Lasts n n' := ⟨h.refuses, h.busy, h.config⟩

theorem SameUsers.lasts {n n' : Node} (h : SameUsers n n') : Lasts n n' :=
  ⟨h.refuses, congrArg Roster.busy h.roster, fun hc => h.roster ▸ hc⟩

theorem lasts_launch (n : Node) (config : NodeConfig) (users : List User) :
    Lasts n (n.launch config users).2 := by
  obtain ⟨m, hm, hcases⟩ := launch_cases n config users
  have hcall (keyed : OrderedMap Int User) :
      Lasts n (m.attach.call (.start config keyed.values)).2 :=
    hm.keeps.sameUsers.lasts.trans
      ((manages_attach m).trans (manages_call m.attach _)).syncs.lasts
  rcases hcases with ⟨fault, -, hr⟩ | ⟨keyed, -, ⟨cause, k, hk, hr⟩ | ⟨k, notice, hk, -, hr⟩⟩
  · rw [hr]
    exact hm.keeps.sameUsers.lasts.trans (rests_startFault m fault).same.lasts
  · have hl := hcall keyed
    rw [hk] at hl
    rw [hr]
    exact hl.trans (rests_fail k _).same.lasts
  · have hl := hcall keyed
    rw [hk] at hl
    rw [hr]
    exact hl.trans ⟨rfl, rfl, fun _ => rfl⟩

theorem attends_lasts (n : Node) : Attends (Lasts n) where
  same h hs := h.trans hs.lasts
  sync h := h.trans (syncs_sync _).lasts
  stopEngine h := h.trans (manages_stopEngine _).syncs.lasts
  launch config users h := h.trans (lasts_launch _ config users)

theorem lasts_start (n : Node) : Lasts n n.start.2 :=
  (attends_lasts n).start ⟨rfl, rfl, fun hc => hc⟩

theorem lasts_after (n : Node) (steps : List Step) : Lasts n (n.after steps) :=
  (attends_lasts n).after ⟨rfl, rfl, fun hc => hc⟩ steps

/-! ### Before the shutdown -/

/-- A node that has not begun to shut down. -/
def IsOpen (n : Node) : Prop := ¬ (n.phase = .stopping ∨ n.phase = .stopped)

theorem IsOpen.of_phase {n n' : Node} (h : n.IsOpen) (hp : n'.phase = n.phase) : n'.IsOpen := by
  unfold IsOpen
  rw [hp]
  exact h

theorem IsOpen.rests {n n' : Node} (h : n.IsOpen) (hr : Rests n n') : n'.IsOpen := by
  rcases hr.phase with hp | hp
  · exact h.of_phase hp
  · rintro (h' | h') <;> rw [hp] at h' <;> cases h'

/-- What a running node does does not begin a shutdown. -/
theorem kept_isOpen : Kept IsOpen where
  rests h hr := h.rests hr
  sync h := h.of_phase (syncs_sync _).phase
  report timeout policy h := h.of_phase (keepsRoster_report _ timeout policy).phase
  launch {n} config users h := by
    obtain ⟨m, hm, ⟨fault, -, hl⟩ | ⟨keyed, -, ⟨cause, k, hk, hl⟩ | ⟨k, notice, -, -, hl⟩⟩⟩ :=
      launch_cases n config users
    · rw [hl]
      exact h.rests (hm.rests.trans (rests_startFault m fault))
    · have hp := ((manages_attach m).trans
        (manages_call m.attach (.start config keyed.values))).phase
      rw [hk] at hp
      rw [hl]
      exact ((h.rests hm.rests).of_phase hp).rests (rests_fail k _)
    · rw [hl]
      rintro (h | h) <;> cases h

theorem isOpen_start (n : Node) : n.start.2.IsOpen := by
  refine kept_isOpen.start ?_
  have hp : { n with phase := .starting }.resume.2.phase = .starting :=
    (keepsRoster_resume _).phase
  rintro (h | h) <;> rw [hp] at h <;> cases h

theorem IsNew.isOpen_after {n : Node} (h : n.IsNew) {steps : List Step}
    (hopen : ∀ s ∈ steps, s.isShutdown = false) : (n.after steps).IsOpen := by
  have ho : n.IsOpen := by
    unfold IsOpen
    rw [h.phase]
    exact fun hp => hp.elim nofun nofun
  exact after_induction_of_open (P := IsOpen) (fun k _ => isOpen_start k)
    (fun _ a hk => kept_isOpen.act hk a) ho hopen

end ProxyNode.Node
