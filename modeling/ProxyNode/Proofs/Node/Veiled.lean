import ProxyNode.Proofs.Node.Abreast
import ProxyNode.Proofs.Node.Lockstep
import ProxyNode.Proofs.Node.Shutdown

/-!
# Node — Veiled, two nodes whose users have other secrets

Two nodes that differ in the secrets and the keys of their users and in nothing else.  Whatever is
done with both, the results are the same and the nodes still differ in nothing else.

* `Veil.likeness`: in what the nodes may differ.
* `Veiled.of_reports`: what both do with their traffic leaves them so.
* `Veiled.start`, `Veiled.tick`, `Veiled.shutdown`: so do a start, a cycle and a shutdown.
* `Veiled.after`, `Veiled.run`: so does a whole life.
-/

namespace ProxyNode

namespace Veil

variable (v : Veil)

/-- Turns in which the same happens, but that users are listed under other secrets. -/
structure Turn (t t' : Panel.Turn) : Prop where
  counted : t'.counted = t.counted
  stops : t'.stops = t.stops
  answer : v.Answer t.answer t'.answer

theorem turn_idle : v.Turn .idle .idle := by
  have hnull : v.Body .null .null := .other nofun
  exact ⟨rfl, rfl, .body (by decide +kernel) rfl rfl hnull⟩

/-- Nothing differs but the secrets of the users, and their keys. -/
def likeness : Likeness where
  toGuise := v.guise
  entry := v.Entry
  turn := v.Turn
  ledger := Eq
  push := Eq
  ahead := 0
  idle := v.turn_idle
  counted h := h.counted
  stops h := h.stops
  listing h c := Veil.acceptUsers h.answer c
  record h _ := h ▸ rfl

end Veil

namespace Node

/-- Two nodes that differ in nothing but the secrets and the keys of their users, and to which the
same has happened since their journals were `past` and `past'`. -/
abbrev Veiled (v : Veil) (past past' : List Event) (a b : Node) : Prop :=
  Matches v.likeness past past' a b

variable {v : Veil} {past past' : List Event} {a b : Node}

namespace Veiled

theorem raise (h : Veiled v past past' a b) : Veiled v past past' a.raise b.raise :=
  (Matches.paced v.likeness past past').raise h

theorem wait (h : Veiled v past past' a b) (seconds : Float) :
    Agrees Eq (Veiled v past past') (a.wait seconds) (b.wait seconds) := by
  have hw := (Matches.paced v.likeness past past').wait h seconds (.inl rfl)
  refine ⟨?_, hw⟩
  rw [wait_fst, wait_fst]
  exact hw.stop.raised.symm

theorem signal (h : Veiled v past past' a b) (s : StopSignal) :
    Veiled v past past' { a with stop := s } { b with stop := s } :=
  { h with stop := ⟨rfl, rfl, rfl⟩ }

theorem stop_eq (h : Veiled v past past' a b) : b.stop = a.stop := StopSignal.Ahead.eq h.stop

theorem inPhase (h : Veiled v past past' a b) (phase : Phase) :
    Veiled v past past' { a with phase := phase } { b with phase := phase } :=
  { h with phase := rfl }

theorem fail (h : Veiled v past past' a b) (fault : Fault) :
    Veiled v past past' (a.fail fault) (b.fail fault) := by
  have hf : Veiled v past past' { a with phase := .failed, fatal := some fault }
      { b with phase := .failed, fatal := some fault } :=
    { h with phase := rfl, fatal := rfl }
  exact raise (hf.note (.fatal fault))

/-! ### Traffic -/

theorem abreast (h : Veiled v past past' a b) : Abreast 0 a.journal b.journal a b where
  plan := h.plan
  clock := h.clock
  client := congrArg Panel.Client.untagged h.client
  turns := Eq.symm h.push
  listeners := h.engine.listeners
  ledger := Eq.symm h.ledger
  stop := h.stop
  journal := ⟨[], rfl, rfl⟩

/-- What nodes with the same traffic do with it leaves all else alone. -/
theorem of_reports (h : Veiled v past past' a b) {a' b' : Node} (ha : Reports a a')
    (hb : Reports b b') (hab : Abreast 0 a.journal b.journal a' b') :
    Veiled v past past' a' b' where
  plan := hab.plan
  clock := hab.clock
  client := hb.client.trans (h.client.trans ha.client.symm)
  config := hb.config.trans (h.config.trans ha.config.symm)
  users := by
    rw [ha.users, hb.users]
    exact h.users
  push := hab.turns.symm
  stop := hab.stop
  engine := by
    rw [ha.engine, hb.engine]
    exact h.engine
  refuses k {c c'} hc := by
    rw [ha.refuses, hb.refuses]
    exact h.refuses k hc
  calls := hb.calls.trans (h.calls.trans ha.calls.symm)
  roster := by
    rw [ha.roster, hb.roster]
    exact h.roster
  ledger := hab.ledger.symm
  phase := hb.phase.trans (h.phase.trans ha.phase.symm)
  fatal := hb.fatal.trans (h.fatal.trans ha.fatal.symm)
  journal := by
    obtain ⟨l, l', hl, hl', hm⟩ := h.journal
    obtain ⟨more, hmore, hmore'⟩ := hab.journal
    refine ⟨more ++ l, more ++ l', ?_, ?_, ?_⟩
    · rw [hmore, hl, List.append_assoc]
    · rw [hmore', hl', List.append_assoc]
    · exact List.rel_append (List.forall₂_same.mpr fun e _ => .same e) hm

theorem report (h : Veiled v past past' a b) (timeout : Option Float) (policy : Retry) :
    Agrees Eq (Veiled v past past') (a.report timeout policy) (b.report timeout policy) := by
  obtain ⟨hr, hab⟩ := h.abreast.report timeout policy (.inl rfl)
  exact ⟨hr, h.of_reports (reports_report a timeout policy) (reports_report b timeout policy) hab⟩

theorem finalFlush (h : Veiled v past past' a b) :
    Agrees Eq (Veiled v past past') a.finalFlush b.finalFlush := by
  obtain ⟨hr, hab⟩ := h.abreast.finalFlush
  exact ⟨hr, h.of_reports ((sends_reports a).finalFlush (.refl a))
    ((sends_reports b).finalFlush (.refl b)) hab⟩

theorem resume (h : Veiled v past past' a b) :
    Agrees Eq (Veiled v past past') a.resume b.resume := by
  obtain ⟨hr, hab⟩ := h.abreast.resume
  exact ⟨hr, h.of_reports ((sends_reports a).resume (.refl a))
    ((sends_reports b).resume (.refl b)) hab⟩

/-! ### The start -/

theorem startFault {α : Type} (h : Veiled v past past' a b) (fault : Fault) :
    Agrees Eq (Veiled v past past') (a.startFault (α := α) fault)
      (b.startFault (α := α) fault) := by
  refine ⟨rfl, ?_⟩
  unfold Node.startFault
  dsimp only
  split
  · exact h.fail fault
  · exact h

theorem untilReady {α : Type} {V : α → α → Prop} {fetch : Node → Except Fault α × Node}
    (hfetch : ∀ {a b}, Veiled v past past' a b →
      Agrees (Outcomes V) (Veiled v past past') (fetch a) (fetch b))
    (errand : String) (rounds : Nat) (h : Veiled v past past' a b) :
    Agrees (Outcomes (Option.Rel V)) (Veiled v past past') (untilReady errand fetch rounds a)
      (untilReady errand fetch rounds b) := by
  induction rounds generalizing a b with
  | zero => exact ⟨.ok .none, h⟩
  | succ rounds ih =>
      obtain ⟨ho, hm⟩ := (Matches.paced v.likeness past past').retrying hfetch h a.plan.retry errand
        (.inl rfl)
      unfold Node.untilReady
      rw [h.stop_eq, h.plan]
      split
      · exact ⟨.ok .none, h⟩
      · generalize a.retrying a.plan.retry errand fetch = x,
          b.retrying a.plan.retry errand fetch = y at ho hm
        obtain ⟨r, m⟩ := x
        obtain ⟨r', m'⟩ := y
        cases ho with
        | ok hv => exact ⟨.ok (.some hv), hm⟩
        | error fault =>
            dsimp only at hm ⊢
            split
            · rw [hm.plan]
              have hn := hm.note (.notReady errand fault)
              obtain ⟨r, k, k', hx, hy, hk⟩ := ((Matches.paced v.likeness past past').waitFor hn
                (startPause m.plan.retry) (.inl rfl)).exists
              rw [hx, hy]
              cases r with
              | error refused => exact ⟨.error refused, hk⟩
              | ok => exact ih hk
            · exact ⟨.error fault, hm⟩

theorem ready {α : Type} {V : α → α → Prop} {fetch : Node → Except Fault α × Node}
    (hfetch : ∀ {a b}, Veiled v past past' a b →
      Agrees (Outcomes V) (Veiled v past past') (fetch a) (fetch b))
    (h : Veiled v past past' a b) (e : Panel.Endpoint) :
    Agrees (Outcomes (Option.Rel V)) (Veiled v past past') (a.ready e fetch) (b.ready e fetch) := by
  unfold Node.ready
  rw [h.stop_eq]
  exact h.untilReady hfetch e.errand _

theorem attach (h : Veiled v past past' a b) : Veiled v past past' a.attach b.attach := by
  unfold Node.attach
  rw [h.engine.listeners]
  split
  · exact h
  · exact { h with engine := { h.engine with listeners := congrArg (· ++ _) h.engine.listeners } }

theorem interval (h : Veiled v past past' a b) (c : Cycle) : b.interval c = a.interval c := by
  cases c <;> rw [Node.interval, Node.interval, h.plan, h.roster.config]

theorem launch (h : Veiled v past past' a b) (config : NodeConfig) {users users' : List User}
    (hu : Users.Matches v.guise users users') :
    Agrees Eq (Veiled v past past') (a.launch config users) (b.launch config users') := by
  have hn : Veiled v past past' (if users.isEmpty then a.note .noUsers else a)
      (if users'.isEmpty then b.note .noUsers else b) := by
    cases hu with
    | nil => exact h.note .noUsers
    | cons => exact h
  have hk := keyAll_matches hu config.cipher.keyLength
  unfold Node.launch
  dsimp only
  generalize (if users.isEmpty then a.note .noUsers else a) = m,
    (if users'.isEmpty then b.note .noUsers else b) = m' at hn
  generalize keyAll config.cipher.keyLength users = r,
    keyAll config.cipher.keyLength users' = r' at hk
  cases hk with
  | error fault => exact hn.startFault fault
  | @ok keyed keyed' hkeyed =>
      have hc := hn.attach.call (.start config hkeyed.values)
      obtain ⟨refusal, k, k', hx, hy, hcall⟩ := hc.exists
      dsimp only
      rw [hx, hy]
      cases refusal with
      | some cause => exact ⟨rfl, fail hcall _⟩
      | none =>
          have hs : Veiled v past past' (k.launched config users keyed)
              (k'.launched config users' keyed') := by
            have hr : Roster.Matches v.guise (k.launched config users keyed).roster
                (k'.launched config users' keyed').roster :=
              ⟨rfl, hkeyed, .some hu, hcall.engine.latest, hcall.roster.busy, hcall.roster.lastSync⟩
            exact { hcall with roster := hr, phase := rfl }
          refine ⟨rfl, ?_⟩
          dsimp only
          rw [← launched, ← launched, hs.interval .sync, hs.interval .report, hkeyed.size]
          exact hs.note _

theorem start (h : Veiled v past past' a b) :
    Agrees Eq (Veiled v past past') a.start b.start := by
  obtain ⟨r, m, m', hx, hy, hm⟩ := (h.inPhase .starting).resume.exists
  unfold Node.start
  rw [hx, hy]
  cases r with
  | error fault => exact ⟨rfl, hm⟩
  | ok =>
      obtain ⟨hc, hk⟩ := ready (fun h => h.fetchConfig) hm .config
      dsimp only
      generalize m.ready .config fetchConfig = x, m'.ready .config fetchConfig = y at hc hk
      obtain ⟨r, k⟩ := x
      obtain ⟨r', k'⟩ := y
      cases hc with
      | error fault => exact startFault hk fault
      | ok hc =>
          cases hc with
          | none => exact ⟨rfl, hk⟩
          | @some config _ he =>
              cases he
              obtain ⟨hu, hl⟩ := ready (fun h => h.fetchUsers) hk .users
              dsimp only at hu hl ⊢
              generalize k.ready .users fetchUsers = x, k'.ready .users fetchUsers = y at hu hl
              obtain ⟨r, l⟩ := x
              obtain ⟨r', l'⟩ := y
              cases hu with
              | error fault => exact startFault hl fault
              | ok hu =>
                  cases hu with
                  | none => exact ⟨rfl, hl⟩
                  | some hu => exact launch hl config hu

/-! ### Cycles -/

theorem tick (h : Veiled v past past' a b) (c : Cycle) :
    Agrees Eq (Veiled v past past') (a.tick c) (b.tick c) := by
  have hl := h.log (.same (.began c))
  have hp : Agrees Eq (Veiled v past past') ((a.log (.began c)).perform c)
      ((b.log (.began c)).perform c) := by
    cases c with
    | sync => exact hl.sync (.inl rfl)
    | report =>
        unfold Node.perform
        rw [hl.plan]
        exact report hl none _
  obtain ⟨r, m, m', hx, hy, hm⟩ := hp.exists
  unfold Node.tick
  rw [hx, hy]
  cases r with
  | ok => exact ⟨rfl, hm⟩
  | error fault =>
      dsimp only
      split
      · exact ⟨rfl, fail hm fault⟩
      · exact ⟨rfl, hm.note _⟩

theorem ticks (h : Veiled v past past' a b) (c : Cycle) (k : Nat) :
    Veiled v past past' (ticks c k a) (ticks c k b) := by
  induction k generalizing a b with
  | zero => exact h
  | succ k ih =>
      unfold Node.ticks
      rw [h.stop_eq]
      split
      · exact h
      · obtain ⟨more, m, m', hx, hy, hm⟩ := (h.tick c).exists
        rw [hx, hy]
        cases more with
        | true => exact ih hm
        | false => exact hm

theorem beside (h : Veiled v past past' a b) {f : Node → Node}
    (hf : ∀ {a b}, Veiled v past past' a b → Veiled v past past' (f a) (f b)) :
    Veiled v past past' (a.beside f) (b.beside f) := by
  unfold Node.beside
  rw [h.stop_eq]
  have hm := hf (h.signal { a.stop with counted := false })
  dsimp only
  rw [stop_eq hm]
  exact signal hm _

theorem idle (h : Veiled v past past' a b) : Veiled v past past' a.idle b.idle := by
  unfold Node.idle
  rw [h.stop_eq]
  generalize a.stop.patience + 1 = rounds
  induction rounds generalizing a b with
  | zero => exact h
  | succ rounds ih =>
      obtain ⟨stop, m, m', hx, hy, hm⟩ := (h.wait 1.0).exists
      unfold idleFrom
      rw [hx, hy]
      cases stop with
      | true => exact hm
      | false => exact ih hm

theorem shutdown (h : Veiled v past past' a b) (inFlight : List Cycle) :
    Agrees Eq (Veiled v past past') (a.shutdown inFlight) (b.shutdown inFlight) := by
  have hc : Veiled v past past' (a.closing inFlight) (b.closing inFlight) :=
    beside ((h.inPhase .stopping).raise.note .shuttingDown) fun h =>
      both_foldl (R := Veiled v past past') (f := fun n c => (n.tick c).2)
        (fun c hm => (tick hm c).nodes) h inFlight
  obtain ⟨r, m, m', hx, hy, hm⟩ := (finalFlush hc.stopEngine).exists
  unfold Node.shutdown
  rw [h.phase]
  split
  · exact ⟨rfl, h⟩
  · dsimp only
    rw [← closing, ← closing, hx, hy]
    cases r with
    | error fault => exact ⟨rfl, hm⟩
    | ok => exact ⟨rfl, (inPhase hm _).note .shutDown⟩

/-! ### A whole life -/

theorem act (h : Veiled v past past' a b) (action : Action) :
    Veiled v past past' (a.act action) (b.act action) := by
  cases action with
  | count d => exact h.count d
  | emit d => exact h.emit d
  | sync => exact (h.sync (.inl rfl)).nodes
  | report timeout policy => exact (h.report timeout policy).nodes
  | tick c => exact (h.tick c).nodes
  | wait seconds => exact (h.wait seconds).nodes
  | stop => exact h.raise
  | signal s => exact h.signal s

theorem step (h : Veiled v past past' a b) (s : Step) :
    Veiled v past past' (a.step s) (b.step s) := by
  cases s with
  | start => exact h.start.nodes
  | act action => exact h.act action
  | shutdown inFlight => exact (h.shutdown inFlight).nodes

theorem after (h : Veiled v past past' a b) (steps : List Step) :
    Veiled v past past' (a.after steps) (b.after steps) :=
  both_foldl (R := Veiled v past past') (f := Node.step) (fun s hm => step hm s) h steps

theorem live (h : Veiled v past past' a b) {running : Node → Node}
    (hrun : ∀ {a b}, Veiled v past past' a b → Veiled v past past' (running a) (running b)) :
    Agrees Eq (Veiled v past past') (a.live running) (b.live running) := by
  obtain ⟨r, m, m', hx, hy, hm⟩ := h.start.exists
  unfold Node.live
  rw [hx, hy]
  rcases r with fault | _ | _
  · exact ⟨rfl, hm⟩
  · exact ⟨rfl, hm⟩
  · exact ⟨rfl, hrun hm⟩

theorem run (h : Veiled v past past' a b) (activity : Activity) :
    Agrees Eq (Veiled v past past') (a.run activity) (b.run activity) := by
  have hl := h.live fun {a b} (hm : Veiled v past past' a b) =>
    idle (beside hm fun hm => ticks hm activity.cycle activity.rounds)
  obtain ⟨fault, m, m', hx, hy, hm⟩ := hl.exists
  obtain ⟨r, k, k', hx', hy', hk⟩ := (shutdown hm activity.inFlight).exists
  unfold Node.run
  rw [hx, hy]
  dsimp only
  rw [hx', hy']
  cases r with
  | error fault => exact ⟨rfl, hk⟩
  | ok =>
      cases fault with
      | some fault => exact ⟨rfl, hk⟩
      | none => exact ⟨congrArg (fun f => Except.ok (Option.isNone f)) hk.fatal.symm, hk⟩

end Veiled

end Node

end ProxyNode
