import ProxyNode.Proofs.Node.Refusals

/-!
# Node — Fate, how a run ends

A run that returns says whether anything was fatal, and leaves its node failed or stopped.  The two
should agree: the run failed, the fatal fault is there, and the node is in the failed phase, or none
of it.  They agree but for two ways out.  A shutdown reads the phase before it waits for the cycles
under way, so a refusal in one of those is fatal and leaves the node stopped.  And a start sets the
phase anew and leaves the fatal fault of an earlier run where it is.

* `Fated`: nothing was fatal, or the node failed.
* `refusalAmong`: the first refusal among some cycles.
* `Ends`: how a run ends.
* `ends_of_runWith`: every run that returns ends so.
* `run_disagrees`: the two ways out.
-/

namespace ProxyNode

namespace Node

variable {n n₁ n₂ n₃ m : Node}

/-- From a node to another nothing was fatal, or it failed. -/
inductive Fated (n m : Node) : Prop
  | spared (phase : m.phase = n.phase) (fatal : m.fatal = n.fatal)
  | failed (phase : m.phase = .failed) (fatal : m.fatal.isSome = true)

theorem Fated.trans (h : Fated n₁ n₂) (h' : Fated n₂ n₃) : Fated n₁ n₃ := by
  cases h' with
  | failed hp hf => exact .failed hp hf
  | spared hp hf =>
      cases h with
      | spared hp' hf' => exact .spared (hp.trans hp') (hf.trans hf')
      | failed hp' hf' => exact .failed (hp.trans hp') (hf ▸ hf')

theorem Heeds.fated (h : Heeds n m) : Fated n m := .spared h.phase h.fatal

theorem fated_tick (n : Node) (c : Cycle) : Fated n (n.tick c).2 := by
  rcases tick_cases n c with ⟨fault, m, -, -, ht⟩ | ⟨-, m, hm, ht⟩
  · rw [ht]
    exact .failed (phase_of_fail m fault) (Option.isSome_iff_exists.mpr ⟨_, fatal_of_fail m fault⟩)
  · rw [ht]
    exact hm.fated

theorem fated_act (n : Node) (a : Action) : Fated n (n.act a) := by
  cases a with
  | count d => exact .spared rfl rfl
  | emit d => exact (heeds_emit n d).fated
  | sync => exact ((passes_heeds n).sync (.refl n)).fated
  | report timeout policy => exact ((passes_heeds n).report (.refl n) timeout policy).fated
  | tick c => exact fated_tick n c
  | wait seconds => exact (heeds_wait n seconds).fated
  | stop => exact .spared (phase_of_raise n) (fatal_of_raise n)
  | signal s => exact .spared rfl rfl

theorem fated_acts (n : Node) (l : List Action) : Fated n (n.acts l) :=
  acts_induction (fun m a h => h.trans (fated_act m a)) (.spared rfl rfl) l

/-! ### A shutdown -/

theorem heeds_flush (n : Node) : Heeds n n.stopEngine.finalFlush.2 :=
  (passes_heeds n).sends.finalFlush ((passes_heeds n).operates.stopEngine (.refl n))

/-- The node as its shutdown begins to wait for the cycles under way. -/
def awaiting (n : Node) : Node :=
  let m := ({ n with phase := .stopping }.raise).note .shuttingDown
  { m with stop := { m.stop with counted := false } }

/-- The first refusal among cycles that a node goes through one after the other. -/
def refusalAmong (n : Node) : List Cycle → Option Fault
  | [] => none
  | c :: rest => (n.refusal c).or ((n.tick c).2.refusalAmong rest)

theorem isNone_fatal_of_ticks (n : Node) (cycles : List Cycle) :
    (cycles.foldl (fun n c => (n.tick c).2) n).fatal.isNone
      = (n.fatal.isNone && (n.refusalAmong cycles).isNone) := by
  induction cycles generalizing n with
  | nil => exact (Bool.and_true _).symm
  | cons c rest ih =>
      rw [List.foldl_cons, ih, refusalAmong]
      rcases tick_cases n c with ⟨fault, m, hr, -, ht⟩ | ⟨hr, m, hm, ht⟩
      · rw [ht, hr, fatal_of_fail]
        exact (Bool.and_false _).symm
      · rw [ht, hr, hm.fatal, Option.none_or]

theorem isNone_fatal_of_closing (n : Node) (inFlight : List Cycle) :
    (n.closing inFlight).fatal.isNone
      = (n.fatal.isNone && (n.awaiting.refusalAmong inFlight).isNone) := by
  have hn : n.awaiting.fatal = n.fatal := fatal_of_raise _
  rw [← hn, ← isNone_fatal_of_ticks]
  rfl

theorem phase_of_closing (n : Node) (inFlight : List Cycle) :
    (n.closing inFlight).phase = .failed ∨ (n.closing inFlight).phase = .stopping := by
  obtain ⟨l, hl⟩ := exists_acts_of_closing n inFlight
  rw [hl]
  cases fated_acts (({ n with phase := .stopping }.raise).note .shuttingDown) l with
  | spared hp _ => exact .inr (hp.trans (phase_of_raise _))
  | failed hp _ => exact .inl hp

/-- What is left of a shutdown that comes to its end. -/
theorem ends_of_shutdown {inFlight : List Cycle} (hp : n.phase ≠ .stopping)
    (hp' : n.phase ≠ .stopped) (h : n.shutdown inFlight = (.ok (), m)) :
    m.phase = (if n.phase = .failed then .failed else .stopped)
    ∧ m.fatal.isNone = (n.fatal.isNone && (n.awaiting.refusalAmong inFlight).isNone) := by
  have hf := (heeds_flush (n.closing inFlight)).fatal
  rcases shutdown_cases n inFlight with ⟨hx, -⟩ | ⟨-, ⟨fault, k, -, hs⟩ | ⟨k, hk, hs⟩⟩
  · exact absurd hx (not_or_intro hp hp')
  · rw [hs] at h
    cases h
  · rw [hs] at h
    cases h
    rw [hk] at hf
    exact ⟨rfl, hf ▸ isNone_fatal_of_closing n inFlight⟩

/-- A node that failed is not stopped later, unless it is started again. -/
theorem not_stopped_after (h : n.phase = .failed ∨ n.phase = .stopping) {steps : List Step}
    (hs : ∀ s ∈ steps, s.isStart = false) : (n.after steps).phase ≠ .stopped := by
  -- A shutdown that breaks off leaves the node stopping, and then it is not shut down again.
  induction steps generalizing n with
  | nil => rcases h with h | h <;> exact fun hx => by cases h.symm.trans hx
  | cons s rest ih =>
      rw [List.forall_mem_cons] at hs
      refine ih ?_ hs.2
      cases s with
      | start => cases hs.1
      | act a =>
          cases fated_act n a with
          | spared hp _ => exact h.imp hp.trans hp.trans
          | failed hp _ => exact .inl hp
      | shutdown inFlight =>
          have hf := (heeds_flush (n.closing inFlight)).phase
          have hc := phase_of_closing n inFlight
          rw [← hf] at hc
          show (n.shutdown inFlight).2.phase = .failed ∨ (n.shutdown inFlight).2.phase = .stopping
          rcases shutdown_cases n inFlight with ⟨-, hs⟩ | ⟨hx, ⟨fault, k, hk, hs⟩ | ⟨k, -, hs⟩⟩
          · rw [hs]
            exact h
          · rw [hk] at hc
            rw [hs]
            exact hc
          · have hn : n.phase = .failed := h.resolve_right (not_or.mp hx).1
            rw [hs]
            exact .inl (if_pos hn)

/-! ### A run -/

/-- How a run ends that began with `n` and returned `ok`, with `m` at its end. -/
structure Ends (n : Node) (running : List Action) (inFlight : List Cycle) (ok : Bool) (m : Node) :
    Prop where
  result : ok = m.fatal.isNone
  phase : m.phase = if (n.lived running).phase = .failed then .failed else .stopped
  fatal : m.fatal = none ↔ n.fatal = none ∧ (n.lived running).phase ≠ .failed
    ∧ (n.lived running).awaiting.refusalAmong inFlight = none
  agrees : ((ok = false ↔ m.phase = .failed) ∧ (ok = true ↔ m.phase = .stopped))
    ↔ (n.lived running).phase = .failed
      ∨ n.fatal = none ∧ (n.lived running).awaiting.refusalAmong inFlight = none
  kept : ∀ past later, running = past ++ later → (n.lived past).phase = .failed →
    m.phase = .failed
  after : m.phase = .failed → ∀ steps : List Step, (∀ s ∈ steps, s.isStart = false) →
    (m.after steps).phase ≠ .stopped

variable {running : List Action} {inFlight : List Cycle} {ok : Bool}

/-- A run that returns has failed before its shutdown, or nothing was fatal until then. -/
theorem lived_spared_or_failed (h : (n.live fun n => n.acts running).1 = none) :
    (n.lived running).phase = .failed ∧ (n.lived running).fatal.isSome = true
    ∨ ((n.lived running).phase = .starting ∨ (n.lived running).phase = .running)
      ∧ (n.lived running).fatal = n.fatal := by
  rcases lived_cases h with ⟨m, hs, hl⟩ | ⟨m, hs, hl⟩
  · obtain ⟨hp, hf⟩ := start_ok hs
    rw [hl]
    cases fated_acts m running with
    | spared hp' hf' => exact .inr ⟨.inr (hp'.trans hp), hf'.trans hf⟩
    | failed hp' hf' => exact .inl ⟨hp', hf'⟩
  · obtain ⟨hp, hf⟩ := start_ok hs
    rw [hl]
    exact .inr ⟨.inl hp, hf⟩

/-- A node that failed while it ran stays so until its shutdown. -/
theorem failed_lived {past later : List Action}
    (h : (n.live fun n => n.acts (past ++ later)).1 = none) (hp : (n.lived past).phase = .failed) :
    (n.lived (past ++ later)).phase = .failed := by
  rcases lived_cases h with ⟨m, -, hl⟩ | ⟨m, -, hl⟩
  · rw [hl] at hp ⊢
    rw [acts_append]
    cases fated_acts (m.acts past) later with
    | spared hp' _ => exact hp'.trans hp
    | failed hp' _ => exact hp'
  · rw [hl] at hp ⊢
    exact hp

/-- Every run that returns ends so, whatever the panel and the engine did, and whenever the node was
told to stop. -/
theorem ends_of_runWith (h : n.runWith running inFlight = (.ok ok, m)) :
    Ends n running inFlight ok m := by
  obtain ⟨hlive, hshut, hok⟩ := runWith_ok h
  have hlived := lived_spared_or_failed hlive
  have hphase : (n.lived running).phase ≠ .stopping ∧ (n.lived running).phase ≠ .stopped := by
    rcases hlived with ⟨hp, -⟩ | ⟨hp | hp, -⟩ <;> rw [hp] <;> exact ⟨nofun, nofun⟩
  obtain ⟨hp, hf⟩ := ends_of_shutdown hphase.1 hphase.2 hshut
  have hfatal : m.fatal = none ↔ n.fatal = none ∧ (n.lived running).phase ≠ .failed
      ∧ (n.lived running).awaiting.refusalAmong inFlight = none := by
    rw [← Option.isNone_iff_eq_none, hf, Bool.and_eq_true, Option.isNone_iff_eq_none,
      Option.isNone_iff_eq_none]
    rcases hlived with ⟨hx, hs⟩ | ⟨hx, hs⟩
    · rw [Option.isSome_iff_ne_none] at hs
      exact iff_of_false (fun hn => hs hn.1) fun hn => hn.2.1 hx
    · have hne : (n.lived running).phase ≠ .failed := by
        rcases hx with hx | hx <;> rw [hx] <;> nofun
      rw [hs, and_iff_right hne]
  refine ⟨hok, hp, hfatal, ?_, ?_, fun hm steps hs => not_stopped_after (.inl hm) hs⟩
  · by_cases hx : (n.lived running).phase = .failed
    · rw [if_pos hx] at hp
      have hne : m.fatal ≠ none := fun hn => (hfatal.mp hn).2.1 hx
      have hno : m.fatal.isNone = false :=
        Option.isNone_eq_false_iff.mpr (Option.isSome_iff_ne_none.mpr hne)
      rw [hok, hno, hp]
      exact iff_of_true ⟨⟨fun _ => rfl, fun _ => rfl⟩, nofun, nofun⟩ (.inl hx)
    · rw [if_neg hx] at hp
      rw [and_iff_right hx] at hfatal
      rw [hp, or_iff_right hx, ← hfatal, ← Option.isNone_iff_eq_none, ← hok]
      cases ok
      · exact iff_of_false (fun hn => nomatch hn.1.mp rfl) nofun
      · exact iff_of_true ⟨⟨nofun, nofun⟩, fun _ => rfl, fun _ => rfl⟩ rfl
  · rintro past later rfl hpast
    rw [hp, if_pos (failed_lived hlive hpast)]

/-- The panel refuses the users while the sample runs. -/
theorem ends_of_runWith_sample :
    (sampleRefused.runWith [.tick .sync] [.report]).2.phase = .failed
    ∧ Ends sampleRefused [.tick .sync] [.report] false
      (sampleRefused.runWith [.tick .sync] [.report]).2 :=
  ⟨by decide +kernel, ends_of_runWith (Prod.fst_eq_iff.mp (by decide +kernel))⟩

/-- The panel refuses the users in a cycle that is under way as the sample is shut down; or while
the sample runs, and then it is run once more. -/
theorem run_disagrees :
    ((sampleRefused.run { inFlight := [.sync] }).1 = .ok false
      ∧ (sampleRefused.run { inFlight := [.sync] }).2.fatal.isSome = true
      ∧ (sampleRefused.run { inFlight := [.sync] }).2.phase = .stopped)
    ∧ (sampleRefused.run { rounds := 1 }).2.phase = .failed
      ∧ ((sampleRefused.run { rounds := 1 }).2.run {}).1 = .ok false
      ∧ ((sampleRefused.run { rounds := 1 }).2.run {}).2.phase = .stopped := by
  decide +kernel

end Node

end ProxyNode
