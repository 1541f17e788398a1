import ProxyNode.Proofs.Node.Refusals

/-!
# Node — Crew, a node and its two loops

Once a node runs, one loop goes through its sync cycles and another through its report cycles.  The
two take turns in any order, and in between the engine reports traffic and others wait for the node
or stop it.  Only a refused sync cycle is fatal; after any other cycle its loop goes on, unless the
clock refuses to wait as long as the interval is.

* `Crew.proceed`: a loop pauses, or goes through a cycle.
* `Crew.node_of_loopFrom`: a loop on its own.
* `Crew.Advance`, `Crew.advance_proceed`: what may come of one turn.
* `Crew.Refused`: a sync cycle was refused in one of the turns.
* `Crew.Fares`: how a node fares, as what it went through tells.
* `Crew.Fares.keep`, `Crew.Fares.fail`: one more turn, which is no refused cycle or is one.
* `Crew.fares_of_start`: it fares so, whatever it goes through.
-/

namespace ProxyNode

/-- How a loop came to its end: by the stop signal, by a cycle that was refused, or by an interval
that the clock refused. -/
inductive Ending where
  | stopped
  | failed
  | unmeasured (fault : Fault)
  deriving DecidableEq

/-- Where a loop is: it is to pause, to go through a cycle, or at its end. -/
inductive Stage where
  | pausing
  | ready
  | ended (why : Ending)
  deriving DecidableEq

/-- A node and how far its loops are. -/
structure Crew where
  node : Node
  stage : Cycle → Stage := fun _ => .pausing

/-- A turn of one of the loops, or what may happen between two turns. -/
inductive Move where
  | loop (c : Cycle)
  | emit (d : Delta)
  | wait (seconds : Float)
  | stop

namespace Crew

open Node

/-- The crew with another node, and a loop at another stage. -/
def set (x : Crew) (c : Cycle) (n : Node) (s : Stage) : Crew :=
  ⟨n, fun d => if d = c then s else x.stage d⟩

/-- One turn of a loop. -/
def proceed (x : Crew) (c : Cycle) : Crew :=
  match x.stage c with
  | .pausing =>
    match x.node.waitWhole (x.node.interval c) with
    | (.error fault, n) => x.set c n (.ended (.unmeasured fault))
    | (.ok true, n) => x.set c n (.ended .stopped)
    | (.ok false, n) => x.set c n .ready
  | .ready =>
    match x.node.tick c with
    | (true, n) => x.set c n .pausing
    | (false, n) => x.set c n (.ended .failed)
  | .ended _ => x

def move (x : Crew) : Move → Crew
  | .loop c => x.proceed c
  | .emit d => { x with node := x.node.emit d }
  | .wait seconds => { x with node := (x.node.wait seconds).2 }
  | .stop => { x with node := x.node.raise }

def moves (x : Crew) (l : List Move) : Crew := l.foldl move x

variable {x : Crew} {c d : Cycle} {n : Node} {s : Stage}

@[simp] theorem node_set : (x.set c n s).node = n := rfl

@[simp] theorem stage_set : (x.set c n s).stage c = s := if_pos rfl

theorem stage_set_of_ne (h : d ≠ c) : (x.set c n s).stage d = x.stage d := if_neg h

theorem moves_cons (m : Move) (l : List Move) : x.moves (m :: l) = (x.move m).moves l := rfl

theorem moves_append_singleton (l : List Move) (m : Move) :
    x.moves (l ++ [m]) = (x.moves l).move m := by
  rw [moves, List.foldl_append]
  rfl

/-! ### A loop on its own -/

theorem proceed_of_pausing (h : x.stage c = .pausing) :
    x.proceed c = match x.node.waitWhole (x.node.interval c) with
      | (.error fault, n) => x.set c n (.ended (.unmeasured fault))
      | (.ok true, n) => x.set c n (.ended .stopped)
      | (.ok false, n) => x.set c n .ready := by
  rw [proceed, h]

theorem proceed_of_ready (h : x.stage c = .ready) :
    x.proceed c = match x.node.tick c with
      | (true, n) => x.set c n .pausing
      | (false, n) => x.set c n (.ended .failed) := by
  rw [proceed, h]

theorem moves_of_ended {why : Ending} (h : x.stage c = .ended why) (k : Nat) :
    x.moves (List.replicate k (.loop c)) = x := by
  induction k with
  | zero => rfl
  | succ k ih =>
      have hx : x.move (.loop c) = x := by
        rw [move, proceed, h]
      rw [List.replicate_succ, moves_cons, hx]
      exact ih

/-- A loop that nothing comes between: each of its rounds is a pause and a cycle. -/
theorem node_of_loopFrom (h : x.stage c = .pausing) (rounds : Nat) :
    (x.moves (List.replicate (2 * rounds) (.loop c))).node = (loopFrom c rounds x.node).2 := by
  induction rounds generalizing x with
  | zero => rfl
  | succ rounds ih =>
      have hround : List.replicate (2 * (rounds + 1)) (Move.loop c)
          = .loop c :: .loop c :: List.replicate (2 * rounds) (.loop c) := rfl
      have hrest : Move.loop c :: List.replicate (2 * rounds) (.loop c)
          = List.replicate (2 * rounds + 1) (.loop c) := rfl
      have hp := proceed_of_pausing h
      rw [hround, moves_cons, loopFrom, move]
      rcases hw : x.node.waitWhole (x.node.interval c) with ⟨fault | _ | _, m⟩
      all_goals rw [hw] at hp
      · rw [hp, hrest, moves_of_ended stage_set]
        rfl
      · have hr := proceed_of_ready (x := x.set c m .ready) stage_set
        rw [node_set] at hr
        rw [hp, moves_cons, move]
        dsimp only
        rcases ht : m.tick c with ⟨_ | _, k⟩
        · rw [ht] at hr
          rw [hr, moves_of_ended stage_set]
          rfl
        · rw [ht] at hr
          rw [hr]
          exact ih stage_set
      · rw [hp, hrest, moves_of_ended stage_set]
        rfl

/-! ### One turn -/

/-- The clock refuses the pause of a loop, with this fault, though the node is not to stop. -/
def Overlong (clock : Clock) (c : Cycle) (fault : Fault) (x : Crew) : Prop :=
  x.node.stop.raised = false
    ∧ ∃ cause, clock.refusesWhole (x.node.interval c) = some cause ∧ fault = .unexpected cause

/-- What may come of one turn of a loop. -/
inductive Advance (x : Crew) (c : Cycle) : Crew → Prop
  | unmeasured {fault : Fault} (h : x.stage c = .pausing)
      (hs : Overlong x.node.clock c fault x) :
      Advance x c (x.set c x.node (.ended (.unmeasured fault)))
  | stopped {n : Node} (h : x.stage c = .pausing) (hn : Heeds x.node n)
      (hr : n.stop.raised = true) : Advance x c (x.set c n (.ended .stopped))
  | awake {n : Node} (h : x.stage c = .pausing) (hn : Heeds x.node n) :
      Advance x c (x.set c n .ready)
  | failed {n : Node} {fault : Fault} (h : x.stage c = .ready) (hf : x.node.refusal c = some fault)
      (hn : Heeds x.node n) : Advance x c (x.set c (n.fail fault) (.ended .failed))
  | cycled {n : Node} (h : x.stage c = .ready) (hf : x.node.refusal c = none)
      (hn : Heeds x.node n) : Advance x c (x.set c n .pausing)
  | ended {why : Ending} (h : x.stage c = .ended why) : Advance x c x

theorem advance_proceed (x : Crew) (c : Cycle) : Advance x c (x.proceed c) := by
  cases hs : x.stage c with
  | pausing =>
      rw [proceed_of_pausing hs]
      rcases hw : x.node.waitWhole (x.node.interval c) with ⟨fault | stopped, n⟩
      · obtain ⟨rfl, hr, hrefused⟩ := eq_of_waitUnless_error hw
        exact .unmeasured hs ⟨hr, hrefused⟩
      · have hwait := eq_of_waitUnless_ok hw
        have hn := heeds_wait x.node (seconds (x.node.interval c))
        have hr := wait_fst x.node (seconds (x.node.interval c))
        rw [hwait] at hn hr
        cases stopped with
        | true => exact .stopped hs hn hr.symm
        | false => exact .awake hs hn
  | ready =>
      rw [proceed_of_ready hs]
      rcases tick_cases x.node c with ⟨fault, n, hf, hn, ht⟩ | ⟨hf, n, hn, ht⟩
      · rw [ht]
        exact .failed hs hf hn
      · rw [ht]
        exact .cycled hs hf hn
  | ended why =>
      have hx : x.proceed c = x := by rw [proceed, hs]
      rw [hx]
      exact .ended hs

/-- A loop whose cycle was not refused goes on, and nothing was fatal. -/
theorem proceed_of_unrefused (h : x.stage c = .ready) (hf : x.node.refusal c = none) :
    (x.proceed c).stage c = .pausing ∧ Heeds x.node (x.proceed c).node := by
  rw [proceed_of_ready h]
  rcases tick_cases x.node c with ⟨fault, m, hf', -, -⟩ | ⟨-, m, hm, ht⟩
  · rw [hf] at hf'
    cases hf'
  · rw [ht]
    exact ⟨stage_set, hm⟩

/-- A loop that can pause and that nobody stops meanwhile goes on to its next cycle. -/
theorem proceed_of_unstopped (h : x.stage c = .pausing)
    (hs : x.node.clock.refusesWhole (x.node.interval c) = none)
    (hr : (x.node.wait (seconds (x.node.interval c))).2.stop.raised = false) :
    (x.proceed c).stage c = .ready := by
  rw [← wait_fst] at hr
  rw [proceed_of_pausing h]
  rcases hw : x.node.waitWhole (x.node.interval c) with ⟨fault | _ | _, m⟩
  · obtain ⟨-, -, cause, hc, -⟩ := eq_of_waitUnless_error hw
    cases hs.symm.trans hc
  · exact stage_set
  · rw [eq_of_waitUnless_ok hw] at hr
    cases hr

/-! ### A whole run -/

/-- Among the turns is one of the loop `c`, before which the crew is as `P` says. -/
def Turned (x : Crew) (l : List Move) (c : Cycle) (P : Crew → Prop) : Prop :=
  ∃ before after, l = before ++ .loop c :: after ∧ P (x.moves before)

/-- Among the turns is a sync cycle that ended with a refusal. -/
def Refused (x : Crew) (l : List Move) (fault : Fault) : Prop :=
  x.Turned l .sync fun y => y.stage .sync = .ready ∧ y.node.refusal .sync = some fault

theorem not_turned_nil {P : Crew → Prop} : ¬ x.Turned [] c P := by
  rintro ⟨before, after, h, -⟩
  exact List.append_ne_nil_of_right_ne_nil before (List.cons_ne_nil _ after) h.symm

theorem turned_append_singleton {l : List Move} {m : Move} {P : Crew → Prop} :
    x.Turned (l ++ [m]) c P ↔ x.Turned l c P ∨ m = .loop c ∧ P (x.moves l) := by
  constructor
  · rintro ⟨before, after, h, hp⟩
    rcases List.eq_nil_or_concat after with rfl | ⟨init, last, rfl⟩
    · obtain ⟨rfl, hm⟩ := List.append_inj' h rfl
      exact .inr ⟨List.singleton_inj.mp hm, hp⟩
    · rw [List.concat_eq_append, ← List.cons_append, ← List.append_assoc] at h
      exact .inl ⟨before, init, (List.append_inj' h rfl).1, hp⟩
  · rintro (⟨before, after, rfl, hp⟩ | ⟨rfl, hp⟩)
    · exact ⟨before, after ++ [m], by rw [List.append_assoc, List.cons_append], hp⟩
    · exact ⟨l, [], rfl, hp⟩

/-- How a node `n` that runs fares in what its crew `x` went through.  It fails just as a sync cycle
is refused, and of that refusal; nothing else stops it but a request to stop; no other cycle keeps
its loop from the next, and none but a refused one, a stop, or an interval that the clock refuses
ends a loop. -/
structure Fares (n : Node) (l : List Move) (x : Crew) : Prop where
  clock : x.node.clock = n.clock
  failed : x.node.phase = .failed ↔ ∃ fault, Refused { node := n } l fault
  running : x.node.phase ≠ .failed → x.node.phase = .running ∧ x.node.fatal = n.fatal
  fatal : ∀ fault, Refused { node := n } l fault → x.node.fatal = some fault
  told : Told (.stop ∈ l ∨ x.node.phase = .failed) n x.node
  raised : x.node.phase = .failed → x.node.stop.raised = true
  ended : ∀ c, x.stage c = .ended .failed ↔ c = .sync ∧ x.node.phase = .failed
  stopped : ∀ c, x.stage c = .ended .stopped → x.node.stop.raised = true
  unmeasured : ∀ c fault, x.stage c = .ended (.unmeasured fault) →
    Turned { node := n } l c (Overlong n.clock c fault)
  cycled : ∀ c, x.stage c = .ready → x.node.refusal c = none →
    (x.proceed c).stage c = .pausing ∧ Heeds x.node (x.proceed c).node
  paused : ∀ c, x.stage c = .pausing → n.clock.refusesWhole (x.node.interval c) = none →
    (x.node.wait (seconds (x.node.interval c))).2.stop.raised = false →
    (x.proceed c).stage c = .ready

section Faring

variable {l : List Move} {m : Move} {x' : Crew}

theorem not_failed_of_running (hp : n.phase = .running) : n.phase ≠ .failed := by
  rw [hp]
  nofun

theorem fares_nil (hp : n.phase = .running) : Fares n [] { node := n } where
  clock := rfl
  failed := ⟨fun h => absurd h (not_failed_of_running hp), fun ⟨_, hf⟩ => absurd hf not_turned_nil⟩
  running _ := ⟨hp, rfl⟩
  fatal _ hf := absurd hf not_turned_nil
  told := told_of_eq [] rfl rfl
  raised h := absurd h (not_failed_of_running hp)
  ended _ := ⟨nofun, fun h => absurd h.2 (not_failed_of_running hp)⟩
  stopped _ := nofun
  unmeasured _ _ := nofun
  cycled _ := proceed_of_unrefused
  paused _ := proceed_of_unstopped

/-- From a crew to another no loop failed, and one that came to its end had a reason to. -/
def Goes (x : Crew) (m : Move) (x' : Crew) : Prop :=
  ∀ c, x'.stage c = x.stage c ∨ x.stage c ≠ .ended .failed ∧ x'.stage c ≠ .ended .failed
    ∧ (x'.stage c = .ended .stopped → x'.node.stop.raised = true)
    ∧ ∀ fault, x'.stage c = .ended (.unmeasured fault) →
      m = .loop c ∧ Overlong x.node.clock c fault x

theorem goes_set (hc : x.stage c ≠ .ended .failed) (hs : s ≠ .ended .failed)
    (hr : s = .ended .stopped → n.stop.raised = true)
    (hu : ∀ fault, s = .ended (.unmeasured fault) → Overlong x.node.clock c fault x) :
    Goes x (.loop c) (x.set c n s) := by
  intro d
  by_cases hd : d = c
  · subst hd
    rw [stage_set]
    exact .inr ⟨hc, hs, hr, fun fault h => ⟨rfl, hu fault h⟩⟩
  · exact .inl (stage_set_of_ne hd)

/-- A turn with which no refusal is added. -/
theorem refused_append_of_unrefused {fault : Fault} (hx : { node := n : Crew }.moves l = x)
    (hm : m = .loop .sync → x.stage .sync = .ready → x.node.refusal .sync = none) :
    Refused { node := n } (l ++ [m]) fault ↔ Refused { node := n } l fault := by
  rw [Refused, Refused, turned_append_singleton, hx, or_iff_left]
  rintro ⟨rfl, hs, hf⟩
  rw [hm rfl hs] at hf
  cases hf

/-- A turn that is no refused cycle. -/
theorem Fares.keep (h : Fares n l x) (hx : { node := n : Crew }.moves l = x)
    (hm : m = .loop .sync → x.stage .sync = .ready → x.node.refusal .sync = none)
    (hc : x'.node.clock = x.node.clock) (hp : x'.node.phase = x.node.phase)
    (hf : x'.node.fatal = x.node.fatal) (ht : Told (m = .stop) x.node x'.node)
    (hs : Goes x m x') : Fares n (l ++ [m]) x' where
  clock := hc.trans h.clock
  failed := by
    rw [hp, h.failed]
    exact exists_congr fun fault => (refused_append_of_unrefused hx hm).symm
  running hr := by
    rw [hp] at hr
    rw [hp, hf]
    exact h.running hr
  fatal fault hr := by
    rw [hf]
    exact h.fatal fault ((refused_append_of_unrefused hx hm).mp hr)
  told := by
    rw [hp]
    exact (h.told.mono (Or.imp_left fun hm => List.mem_append_left [m] hm)).trans
      (ht.mono fun hm => .inl (hm ▸ List.mem_append_right l List.mem_cons_self))
  raised hr := ht.stays (h.raised (hp ▸ hr))
  ended c := by
    rw [hp, ← h.ended c]
    rcases hs c with hc | ⟨hn, hn', -, -⟩
    · rw [hc]
    · exact iff_of_false hn' hn
  stopped c hc := by
    rcases hs c with he | ⟨-, -, hr, -⟩
    · exact ht.stays (h.stopped c (he ▸ hc))
    · exact hr hc
  unmeasured c fault hended := by
    rw [turned_append_singleton, hx]
    rcases hs c with he | ⟨-, -, -, hu⟩
    · exact .inl (h.unmeasured c fault (he ▸ hended))
    · rw [← h.clock]
      exact .inr (hu fault hended)
  cycled _ := proceed_of_unrefused
  paused c hpausing hm' := by
    rw [← h.clock, ← hc] at hm'
    exact proceed_of_unstopped hpausing hm'

theorem Fares.heed (h : Fares n l x) (hx : { node := n : Crew }.moves l = x)
    (hm : m = .loop .sync → x.stage .sync = .ready → x.node.refusal .sync = none)
    (hk : Heeds x.node x'.node) (hs : Goes x m x') : Fares n (l ++ [m]) x' :=
  h.keep hx hm hk.clock hk.phase hk.fatal (hk.told.mono False.elim) hs

/-- A refused cycle, which is the sync loop's; there was none before. -/
theorem Fares.fail {fault : Fault} (h : Fares n l x) (hx : { node := n : Crew }.moves l = x)
    (hs : x.stage .sync = .ready) (hf : x.node.refusal .sync = some fault) {k : Node}
    (hk : Heeds x.node k) :
    Fares n (l ++ [.loop .sync]) (x.set .sync (k.fail fault) (.ended .failed)) := by
  -- Once a cycle was refused the sync loop is at its end, and no longer ready for one.
  have hp : x.node.phase ≠ .failed := fun hp => by
    have ho := (h.ended .sync).mpr ⟨rfl, hp⟩
    rw [hs] at ho
    cases ho
  have hr : ∀ fault', Refused { node := n } (l ++ [.loop .sync]) fault' ↔ fault' = fault := by
    intro fault'
    rw [Refused, turned_append_singleton, hx]
    constructor
    · rintro (hb | ⟨-, -, hf'⟩)
      · exact absurd (h.failed.mpr ⟨fault', hb⟩) hp
      · exact (Option.some_inj.mp (hf.symm.trans hf')).symm
    · rintro rfl
      exact .inr ⟨rfl, hs, hf⟩
  have hfail : (k.fail fault).phase = .failed := phase_of_fail k fault
  have hclock : (k.fail fault).clock = n.clock :=
    (fixed_raise _).clock.trans (hk.clock.trans h.clock)
  exact {
    clock := hclock
    failed := ⟨fun _ => ⟨fault, (hr fault).mpr rfl⟩, fun _ => hfail⟩
    running := fun hx => absurd hfail hx
    fatal := fun fault' hx => by
      rw [(hr fault').mp hx]
      exact fatal_of_fail k fault
    told := (h.told.mono fun hw => .inr hfail).trans
      ((hk.told.mono fun hw => hw.elim).trans ((told_fail k fault).mono fun _ => .inr hfail))
    raised := fun _ => raised_of_fail k fault
    ended := fun c => by
      by_cases hc : c = .sync
      · subst hc
        exact ⟨fun _ => ⟨rfl, hfail⟩, fun _ => stage_set⟩
      · rw [stage_set_of_ne hc]
        exact iff_of_false (fun ho => hc ((h.ended c).mp ho).1) fun ho => hc ho.1
    stopped := fun _ _ => raised_of_fail k fault
    unmeasured := fun c fault' hc => by
      refine turned_append_singleton.mpr (.inl (h.unmeasured c fault' ?_))
      by_cases hd : c = .sync
      · subst hd
        rw [stage_set] at hc
        cases hc
      · rw [← stage_set_of_ne hd]
        exact hc
    cycled := fun _ => proceed_of_unrefused
    paused := fun _ hp hs => proceed_of_unstopped hp (hclock ▸ hs) }

/-- Whatever turns there are, and whatever comes between them. -/
theorem fares_moves (hp : n.phase = .running) (l : List Move) :
    Fares n l ({ node := n : Crew }.moves l) := by
  -- By induction on the last move: what it does depends on the stages that those before it left.
  induction l using List.reverseRecOn with
  | nil => exact fares_nil hp
  | append_singleton l m ih =>
      have hx := moves_append_singleton (x := { node := n }) l m
      rw [hx]
      generalize hy : { node := n : Crew }.moves l = y at ih ⊢
      cases m with
      | emit d => exact ih.heed hy nofun (heeds_emit y.node d) fun c => .inl rfl
      | wait seconds => exact ih.heed hy nofun (heeds_wait y.node seconds) fun c => .inl rfl
      | stop =>
          exact ih.keep hy nofun (fixed_raise _).clock (phase_of_raise _) (fatal_of_raise _)
            ((told_of_eq [] rfl rfl).raise [] rfl (.inl rfl)) fun c => .inl rfl
      | loop c =>
          rw [move]
          have hadvance := advance_proceed y c
          generalize y.proceed c = z at hadvance
          have hidle (hs : y.stage c ≠ .ready) :
              Move.loop c = .loop .sync → y.stage .sync = .ready → y.node.refusal .sync = none := by
            rintro ⟨rfl⟩ hr
            exact absurd hr hs
          cases hadvance with
          | unmeasured hs hi =>
              exact ih.heed hy (hidle (by simp [hs])) (.refl _)
                (goes_set (by simp [hs]) nofun nofun fun _ hu => by cases hu; exact hi)
          | stopped hs hk hr =>
              exact ih.heed hy (hidle (by simp [hs])) hk
                (goes_set (by simp [hs]) nofun (fun _ => hr) nofun)
          | awake hs hk =>
              exact ih.heed hy (hidle (by simp [hs])) hk (goes_set (by simp [hs]) nofun nofun nofun)
          | failed hs hf hk =>
              cases c with
              | sync => exact ih.fail hy hs hf hk
              | report => cases hf
          | cycled hs hf hk =>
              exact ih.heed hy (by rintro ⟨rfl⟩ -; exact hf) hk
                (goes_set (by simp [hs]) nofun nofun nofun)
          | ended hs =>
              exact ih.heed hy (hidle (by simp [hs])) (.refl _) fun c => .inl rfl

end Faring

/-- What becomes of a node that has started, whatever its loops go through. -/
theorem fares_of_start {n₀ : Node} (h : n₀.start = (.ok true, n)) (l : List Move) :
    n.fatal = n₀.fatal ∧ Fares n l ({ node := n : Crew }.moves l) := by
  obtain ⟨hp, hf⟩ := start_ok h
  exact ⟨hf, fares_moves hp l⟩

/-- Reports, until one was sent, and a sync cycle. -/
def sampleMoves : List Move :=
  [.emit sampleDelta, .loop .report, .loop .report, .loop .sync, .loop .sync]

/-- The panel refuses the report, which is not fatal, and then to list the users. -/
theorem fares_of_start_sample :
    ({ node := sampleRefused.start.2 : Crew }.moves sampleMoves).node.ledger.lastReport.map
      Outcome.ok = some false
    ∧ ({ node := sampleRefused.start.2 : Crew }.moves sampleMoves).node.fatal
      = some (.rejected "panel/api/v1/server/UniProxy/user" 401 "")
    ∧ Fares sampleRefused.start.2 sampleMoves
      ({ node := sampleRefused.start.2 : Crew }.moves sampleMoves) :=
  ⟨by decide +kernel, by decide +kernel,
    (fares_of_start (Prod.fst_eq_iff.mp (by decide +kernel)) sampleMoves).2⟩

end Crew

end ProxyNode
