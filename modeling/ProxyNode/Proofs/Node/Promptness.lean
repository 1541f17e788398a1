import ProxyNode.Proofs.Node.Calls
import ProxyNode.Proofs.Node.Fetches
import ProxyNode.Proofs.Node.Late

/-!
# Node — Promptness, a node that is told to stop does

From the moment at which the stop signal is raised, be it during a request or a wait, nothing is
tried again, no cycle begins, a start asks nothing more, the cycle under way asks for the users at
most, and the shutdown sends one report at most.

* `Duty`, `Node.served`: a run, whatever its loops do between the start and the shutdown.
* `serves_loop`, `exists_served`: the loops, and the runs, are of this form.
* `Sought`: how it ends when a start asks for something, a pause that the clock refuses included.
* `stopsStart`: a start that is told to stop leaves the engine alone, unless it had the users by
  then.
* `Prompt`: what a node leaves alone that was told to stop; `stop_prompt`: so does every node.
-/

namespace ProxyNode

/-- What the loops of a running node and its surroundings do.  A cycle begins only if the wait
before it says that the node is not to stop. -/
inductive Duty where
  | wait (seconds : Float)
  | cycle (c : Cycle)
  | emit (delta : Delta)
  | stop
  | counting (counted : Bool)

namespace Panel.Client

/-- How asking for a resource ends, by what the client makes of the answer. -/
def outcome (c : Client) : Endpoint → Answer → Except Fault Unit
  | .config, a => (c.acceptConfig a).1.map fun _ => ()
  | .users, a => (c.acceptUsers a).1.users.map fun _ => ()
  | .push, a => c.acceptPush a

theorem acceptConfig_untagged (c : Client) (a : Answer) :
    (c.untagged.acceptConfig a).1 = (c.acceptConfig a).1 := by
  have hr : c.untagged.receive .config a = c.receive .config a := rfl
  have ht : c.untagged.transport = c.transport := rfl
  unfold acceptConfig
  rw [hr, ht]
  cases c.receive .config a with
  | error fault => rfl
  | ok shown =>
      dsimp only
      cases NodeConfig.read shown.1 c.transport <;> rfl

theorem acceptUsers_untagged (c : Client) (a : Answer) :
    (c.untagged.acceptUsers a).1 = (c.acceptUsers a).1 := by
  have hr : c.untagged.receive .users a = c.receive .users a := rfl
  unfold acceptUsers
  rw [hr]
  split
  · rfl
  · split
    · rfl
    · split
      · rfl
      · split
        · rfl
        · dsimp only
          split <;> rfl

/-- What is remembered does not matter to it. -/
theorem outcome_untagged (c : Client) (e : Endpoint) (a : Answer) :
    c.untagged.outcome e a = c.outcome e a := by
  cases e with
  | config => exact congrArg (Except.map _) (acceptConfig_untagged c a)
  | users =>
      exact congrArg (fun l : Listing => l.users.map fun _ => ()) (acceptUsers_untagged c a)
  | push => rfl

theorem outcome_congr {c c' : Client} (h : c.untagged = c'.untagged) (e : Endpoint) (a : Answer) :
    c.outcome e a = c'.outcome e a := by
  rw [← outcome_untagged c, h, outcome_untagged]

end Panel.Client

namespace Node

variable {n : Node}

/-! ### Runs -/

def duty (n : Node) : Duty → Node
  | .wait seconds => (n.wait seconds).2
  | .cycle c => if n.stop.raised then n else (n.tick c).2
  | .emit d => n.emit d
  | .stop => n.raise
  | .counting counted => { n with stop := { n.stop with counted := counted } }

/-- The node after some duties. -/
def duties (n : Node) (l : List Duty) : Node := l.foldl duty n

/-- The node after a run, in which it did these duties if it started. -/
def served (n : Node) (l : List Duty) (inFlight : List Cycle) : Node :=
  ((n.live fun n => n.duties l).2.shutdown inFlight).2

theorem late_duty (n : Node) (d : Duty) : Late [.asks .users] [] n (n.duty d) := by
  cases d with
  | wait seconds => exact Late.wait (.refl n) seconds
  | cycle c =>
      show Late _ _ n (if n.stop.raised then n else (n.tick c).2)
      split
      · exact .refl n
      · next hn =>
        exact (late_tick n c).mono (fun _ => c.followUps_sublist) fun hr => absurd hr hn
  | emit d => exact Late.emit (.refl n) d
  | stop => exact Late.raise (.refl n)
  | counting counted => exact Late.quiet (.refl n) [] (List.forall_mem_nil _) rfl rfl

theorem late_duties (n : Node) (l : List Duty) : Late [.asks .users] [] n (n.duties l) := by
  induction l generalizing n with
  | nil => exact .refl n
  | cons d rest ih =>
      exact (late_duty n d).trans (ih (n.duty d)) (fun _ => .refl _) (fun _ _ => .refl _)
        fun _ => .refl _

theorem late_live (n : Node) (l : List Duty) :
    Late [.asks .users] [] n (n.live fun n => n.duties l).2 := by
  have hs : Late [.asks .users] [] n n.start.2 :=
    (late_start n).mono (fun _ => List.nil_sublist _) fun _ => .refl _
  unfold live
  split
  · next fault m hm => rw [hm] at hs; exact hs
  · next m hm =>
    rw [hm] at hs
    exact hs.trans (late_duties m l) (fun _ => .refl _) (fun _ _ => .refl _) fun _ => .refl _
  · next m hm => rw [hm] at hs; exact hs

theorem late_served (n : Node) (l : List Duty) (inFlight : List Cycle) :
    Late (.asks .push :: Cycle.deedsOf inFlight ++ [.asks .users])
      (.asks .push :: Cycle.deedsOf inFlight) n (n.served l inFlight) :=
  (late_live n l).trans (late_shutdown _ inFlight) (fun _ => List.sublist_append_left _ _)
    (fun _ _ => .refl _) fun _ => (List.append_nil _).symm ▸ .refl _

/-- The node `n'` comes of `n` by some duties. -/
def Serves (n n' : Node) : Prop := ∃ l, n' = n.duties l

section Chains

variable {n₁ n₂ n₃ : Node}

theorem Serves.refl (n : Node) : Serves n n := ⟨[], rfl⟩

theorem Serves.trans (h : Serves n₁ n₂) (h' : Serves n₂ n₃) : Serves n₁ n₃ := by
  obtain ⟨l, rfl⟩ := h
  obtain ⟨l', rfl⟩ := h'
  exact ⟨l ++ l', List.foldl_append.symm⟩

end Chains

theorem serves_duty (n : Node) (d : Duty) : Serves n (n.duty d) := ⟨[d], rfl⟩

theorem serves_wait (n : Node) (seconds : Float) : Serves n (n.wait seconds).2 :=
  serves_duty n (.wait seconds)

theorem serves_tick {n : Node} (hn : n.stop.raised = false) (c : Cycle) :
    Serves n (n.tick c).2 := by
  have hcycle : n.duty (.cycle c) = (n.tick c).2 := if_neg (Bool.eq_false_iff.mp hn)
  exact hcycle ▸ serves_duty n (.cycle c)

/-- The loop of a cycle. -/
theorem serves_loop (n : Node) (c : Cycle) : Serves n (n.loop c).2 := by
  unfold loop
  generalize n.stop.patience + 1 = rounds
  induction rounds generalizing n with
  | zero => exact .refl n
  | succ rounds ih =>
      unfold loopFrom
      split
      · next fault m hw =>
        obtain ⟨rfl, -⟩ := eq_of_waitUnless_error hw
        exact .refl m
      · next m hw =>
        have hwait := serves_wait n (seconds (n.interval c))
        rw [eq_of_waitUnless_ok hw] at hwait
        exact hwait
      · next m hw =>
        have hwait := serves_wait n (seconds (n.interval c))
        have hstop := wait_fst n (seconds (n.interval c))
        rw [eq_of_waitUnless_ok hw] at hwait hstop
        have htick := hwait.trans (serves_tick hstop.symm c)
        rcases ht : m.tick c with ⟨_ | _, k⟩
        · rw [ht] at htick
          exact htick
        · rw [ht] at htick
          exact htick.trans (ih k)

theorem serves_ticks (c : Cycle) (k : Nat) (n : Node) : Serves n (ticks c k n) := by
  induction k generalizing n with
  | zero => exact .refl n
  | succ k ih =>
      unfold ticks
      split
      · exact .refl n
      · next hn =>
        have htick := serves_tick (Bool.eq_false_iff.mpr hn) c
        rcases ht : n.tick c with ⟨_ | _, m⟩
        · rw [ht] at htick
          exact htick
        · rw [ht] at htick
          exact htick.trans (ih m)

theorem serves_idleFrom (k : Nat) (n : Node) : Serves n (idleFrom k n) := by
  induction k generalizing n with
  | zero => exact .refl n
  | succ k ih =>
      have hwait := serves_wait n 1.0
      unfold idleFrom
      rcases hw : n.wait 1.0 with ⟨_ | _, m⟩
      · rw [hw] at hwait
        exact hwait.trans (ih m)
      · rw [hw] at hwait
        exact hwait

/-- What goes on while a process waits to be stopped. -/
theorem serves_activity (n : Node) (a : Activity) :
    Serves n (n.beside (ticks a.cycle a.rounds)).idle := by
  have hticks := (serves_duty n (.counting false)).trans
    (serves_ticks a.cycle a.rounds (n.duty (.counting false)))
  have hbeside : Serves n (n.beside (ticks a.cycle a.rounds)) :=
    hticks.trans (serves_duty _ (.counting n.stop.counted))
  exact hbeside.trans (serves_idleFrom _ _)

/-- A run is of this form. -/
theorem exists_served (n : Node) (a : Activity) : ∃ l, (n.run a).2 = n.served l a.inFlight := by
  obtain ⟨l, hl⟩ := serves_activity n.start.2 a
  have hlive : (n.live fun n => (n.beside (ticks a.cycle a.rounds)).idle)
      = n.live fun n => n.duties l := by
    unfold live
    split
    · rfl
    · next m hm =>
      rw [hm] at hl
      exact congrArg (Prod.mk none) hl
    · rfl
  refine ⟨l, ?_⟩
  unfold run served
  rw [hlive]
  rcases n.live fun n => n.duties l with ⟨fault, m⟩
  dsimp only
  rcases m.shutdown a.inFlight with ⟨_ | _, k⟩
  · rfl
  · cases fault <;> rfl

/-! ### A start that is told to stop -/

section Starts

open Panel

variable {α : Type} {R : Reader α} {fetch : Node → Except Fault α × Node} {m m' : Node}

/-- The pauses of a start: those between two tries, and the one before it begins anew. -/
def pauses (policy : Retry) : List Float := startPause policy :: policy.delays

/-- How it ends when a start asks for something: the last answer had it, or was of no use for good,
or may be better when the node is not to stop any more.  It also ends when a node that is not to stop
cannot pause for as long as it should. -/
inductive Sought (R : Reader α) (n : Node) : Except Fault (Option α) → Node → Prop
  | found {a : α} {m : Node} : Answered R n (.ok a) m → Sought R n (.ok (some a)) m
  | failed {fault : Fault} {m : Node} :
      fault.isTransient = false → Answered R n (.error fault) m → Sought R n (.error fault) m
  | missed {fault : Fault} {m : Node} :
      fault.isTransient = true → Answered R n (.error fault) m → Sought R n (.ok none) m
  | unpaused {fault : Fault} {cause : Unexpected} {seconds : Float} {m : Node} :
      fault.isTransient = true → Answered R n (.error fault) m → seconds ∈ pauses n.plan.retry →
      n.clock.refuses seconds = some cause → m.stop.raised = false →
      Sought R n (.error (.unexpected cause)) m

theorem Sought.answered {a : α} (h : Sought R n (.ok (some a)) m) : Answered R n (.ok a) m := by
  cases h with
  | found ha => exact ha

theorem Sought.of_client {r : Except Fault (Option α)} (h : Sought R m r m')
    (hc : m.client = n.client) (hs : n.requests <:+ m.requests) (hf : Fixed n m) :
    Sought R n r m' := by
  cases h with
  | found ha => exact .found (ha.of_client hc hs)
  | failed ht ha => exact .failed ht (ha.of_client hc hs)
  | missed ht ha => exact .missed ht (ha.of_client hc hs)
  | unpaused ht ha hp hrefused hm =>
      exact .unpaused ht (ha.of_client hc hs) (hf.plan ▸ hp) (hf.clock ▸ hrefused) hm

/-- What comes of the tries of one round, if it is not to be tried again. -/
theorem Fetched.sought_of_error {fault : Fault} (h : Fetched R n n.plan.retry (.error fault) m)
    (ht : fault.isTransient = false) : Sought R n (.error fault) m := by
  cases h with
  | answered ha => exact .failed ht ha
  | unpaused ht' ha hd hrefused hm =>
      exact .unpaused ht' ha (List.mem_cons_of_mem _ hd) hrefused hm

/-- Nothing is asked by a node that is to stop, or when it has waited often enough. -/
theorem untilReady_idle {errand : String} {rounds : Nat}
    (h : rounds = 0 ∨ n.stop.raised = true) :
    Node.untilReady errand fetch rounds n = (.ok none, n) := by
  cases rounds with
  | zero => rfl
  | succ rounds => exact if_pos (h.resolve_left (Nat.succ_ne_zero rounds))

theorem Fetches.sought (hf : Fetches R fetch) (errand : String) {rounds : Nat}
    (hrounds : rounds ≠ 0) (hn : n.stop.raised = false) :
    Sought R n (Node.untilReady errand fetch rounds n).1
      (Node.untilReady errand fetch rounds n).2 := by
  induction rounds generalizing n with
  | zero => exact absurd rfl hrounds
  | succ rounds ih =>
      have hr := hf.retrying n n.plan.retry errand
      have hfixed := hf.fixed_retrying n n.plan.retry errand
      unfold Node.untilReady
      rw [if_neg (Bool.eq_false_iff.mp hn)]
      rcases hretry : n.retrying n.plan.retry errand fetch with ⟨fault | a, k⟩
      · rw [hretry] at hr hfixed
        dsimp only
        split
        · next ht =>
          have hnoted := (hr.answered_of_transient ht).unasked
            (unasked_note k (.notReady errand fault))
          split
          · next refused l hw =>
            obtain ⟨rfl, hl, cause, hrefused, rfl⟩ := eq_of_waitUnless_error hw
            exact .unpaused ht hnoted (hfixed.plan ▸ List.mem_cons_self)
              (hfixed.clock ▸ hrefused) hl
          · next stopped l hw =>
            have hwait := hnoted.unasked (unasked_wait _ (startPause k.plan.retry))
            have hsame := hfixed.trans (⟨rfl, rfl⟩ : Fixed k (k.note (.notReady errand fault)))
            have hfixed' := hsame.trans (fixed_wait _ (startPause k.plan.retry))
            rw [eq_of_waitUnless_ok hw] at hwait hfixed'
            by_cases hl : rounds = 0 ∨ l.stop.raised = true
            · rw [untilReady_idle hl]
              exact .missed ht hwait
            · obtain ⟨hrounds, hl⟩ := not_or.mp hl
              exact (ih hrounds (Bool.eq_false_iff.mpr hl)).of_client hwait.client hwait.grows
                hfixed'
        · next ht => exact hr.sought_of_error (Bool.eq_false_iff.mpr ht)
      · rw [hretry] at hr
        exact .found hr.answered_of_ok

/-- The answer that had what was asked for came to a node that was not to stop when it asked. -/
theorem tryFrom_found {policy : Retry} {errand : String} {tries : Nat} {delay : Float} {a : α}
    (hn : n.stop.raised = false) (h : tryFrom fetch policy errand tries delay n = (.ok a, m)) :
    ∃ k : Node, k.stop.raised = false ∧ fetch k = (.ok a, m) := by
  induction tries generalizing n delay with
  | zero => exact ⟨n, hn, h⟩
  | succ tries ih =>
      rw [tryFrom_succ] at h
      rcases hfetch : fetch n with ⟨fault | b, k⟩
      · rw [hfetch] at h
        dsimp only at h
        split at h
        · rcases hpause : k.pause errand fault (policy.capped delay) with ⟨_ | _ | _, l⟩
          · rw [hpause] at h
            cases h
          · have hstop := pause_fst (congrArg Prod.fst hpause)
            rw [hpause] at h hstop
            exact ih hstop.symm h
          · rw [hpause] at h
            cases h
        · cases h
      · rw [hfetch] at h
        exact ⟨n, hn, hfetch.trans h⟩

theorem untilReady_found {errand : String} {rounds : Nat} {a : α}
    (h : Node.untilReady errand fetch rounds n = (.ok (some a), m)) :
    ∃ k : Node, k.stop.raised = false ∧ fetch k = (.ok a, m) := by
  induction rounds generalizing n with
  | zero => cases h
  | succ rounds ih =>
      unfold Node.untilReady at h
      split at h
      · cases h
      · next hn =>
        rcases hr : n.retrying n.plan.retry errand fetch with ⟨fault | b, k⟩
        · rw [hr] at h
          dsimp only at h
          split at h
          · split at h
            · cases h
            · exact ih h
          · cases h
        · rw [hr] at h
          cases h
          exact tryFrom_found (Bool.eq_false_iff.mpr hn) hr

theorem stop_of_emit (n : Node) (d : Delta) : (n.emit d).stop = n.stop :=
  List.foldlRecOn (motive := fun m : Node => m.stop = n.stop) _ _ rfl fun _ hm _ _ => hm

/-- Until the answer to a request is there nobody touches the stop signal, and then its turn may. -/
theorem exists_asked (n : Node) (e : Endpoint) (timeout : Option Float)
    (body : Option (OrderedMap String Amount)) :
    ∃ m : Node, m.stop = n.stop
      ∧ (n.ask e timeout body).2 = if (n.panel.next e).1.stops then m.raise else m := by
  refine ⟨(n.panel.next e).1.counted.foldl emit
    { n.log (n.sent e timeout body) with panel := (n.panel.next e).2 }, ?_, rfl⟩
  exact List.foldlRecOn (motive := fun m : Node => m.stop = n.stop) _ _ rfl
    fun m hm d _ => (stop_of_emit m d).trans hm

/-- A request raises the signal if its turn says so. -/
theorem raised_ask (n : Node) (e : Endpoint) (timeout : Option Float)
    (body : Option (OrderedMap String Amount)) :
    (n.ask e timeout body).2.stop.raised = (n.stop.raised || (n.panel.next e).1.stops) := by
  obtain ⟨m, hm, hask⟩ := exists_asked n e timeout body
  rw [hask]
  split
  · next hs => rw [hs, Bool.or_true, raised_of_raise]
  · next hs =>
    rw [Bool.eq_false_iff.mpr hs, Bool.or_false]
    exact congrArg StopSignal.raised hm

theorem raised_fetchUsers (n : Node) :
    n.fetchUsers.2.stop.raised = (n.stop.raised || (n.panel.next .users).1.stops) := by
  rw [← raised_ask n .users none none]
  exact List.foldlRecOn
    (motive := fun m : Node => m.stop.raised = (n.ask .users none none).2.stop.raised) _ _ rfl
    fun _ hm _ _ => hm

/-! #### How it ends -/

/-- Something is so of the last request from `n` to `m`, which is one of several, and its turn. -/
def LastAsked (n m : Node) (P : Request → Turn → Prop) : Prop :=
  ∃ request turn earlier, m.requests = (request, turn) :: earlier ∧ n.requests <:+ earlier
    ∧ P request turn

theorem LastAsked.unasked {P : Request → Turn → Prop} (h : LastAsked n m P) (hu : Unasked m m') :
    LastAsked n m' P := by
  obtain ⟨request, turn, earlier, hm, hs, hP⟩ := h
  exact ⟨request, turn, earlier, hu.requests.trans hm, hs, hP⟩

theorem LastAsked.mono {P Q : Request → Turn → Prop} (h : LastAsked n m P)
    (hPQ : ∀ request turn, P request turn → Q request turn) : LastAsked n m Q := by
  obtain ⟨request, turn, earlier, hm, hs, hP⟩ := h
  exact ⟨request, turn, earlier, hm, hs, hPQ request turn hP⟩

theorem LastAsked.and_of_eq {P Q : Request → Turn → Prop} (h : LastAsked n m P) {request : Request}
    {turn : Turn} {earlier : List (Request × Turn)} (hm : m.requests = (request, turn) :: earlier)
    (hQ : Q request turn) : LastAsked n m fun request turn => P request turn ∧ Q request turn := by
  obtain ⟨request', turn', earlier', hm', hs, hP⟩ := h
  obtain ⟨heq, -⟩ := List.cons.inj (hm'.symm.trans hm)
  obtain ⟨rfl, rfl⟩ := Prod.mk.inj heq
  exact ⟨request', turn', earlier', hm', hs, hP, hQ⟩

/-- What came of a request for a resource, as a client such as `n`'s sees it. -/
def Ended (n : Node) (e : Endpoint) (o : Except Fault Unit) (request : Request) (turn : Turn) :
    Prop :=
  request.endpoint = e ∧ n.client.outcome request.endpoint turn.answer = o

theorem Answered.last {r : Except Fault α} {p : Node} (h : Answered R p r m)
    (houtcome : ∀ c a, (R.accept c a).1.map (fun _ => ()) = Client.outcome c R.endpoint a)
    (hc : p.client.untagged = n.client.untagged) (hs : n.requests <:+ p.requests) :
    LastAsked n m (n.Ended R.endpoint (r.map fun _ => ())) := by
  obtain ⟨turn, earlier, hm, hs', ha⟩ := h
  refine ⟨_, turn, earlier, hm, hs.trans hs', rfl, ?_⟩
  have ho := houtcome p.client turn.answer
  rw [ha] at ho
  exact (Client.outcome_congr hc.symm R.endpoint turn.answer).trans ho.symm

theorem Answered.untagged {r : Except Fault α} (h : Answered R n r m) :
    m.client.untagged = n.client.untagged := by
  obtain ⟨turn, earlier, -, -, ha⟩ := h
  have hc : (R.accept n.client turn.answer).2 = m.client := congrArg Prod.snd ha
  rw [← hc, R.untagged_accept]

theorem outcome_config (c : Client) (a : Answer) :
    (configReader.accept c a).1.map (fun _ => ()) = c.outcome configReader.endpoint a := rfl

theorem outcome_users (c : Client) (a : Answer) :
    (userReader.accept c a).1.map (fun _ => ()) = c.outcome userReader.endpoint a := rfl

/-- How a start without the engine ends, by how its last request did. -/
def unstarted : Except Fault Unit → Except Fault Bool
  | .ok () => .ok false
  | .error fault => if fault.isTransient then .ok false else .error fault

/-- The last request of a start asked for the users and had them, and it was during that request
that the signal was raised, or the launch failed; or else the engine was not called, and the start
ended by how its last request did. -/
def StopsStart (n : Node) : Prop :=
  LastAsked n n.start.2 fun request turn =>
    n.Ended .users (.ok ()) request turn
      ∧ (turn.stops = true
        ∨ (∃ fault, n.start.1 = .error fault)
          ∧ n.start.2.engine.instances = n.engine.instances)
    ∨ n.start.2.called = n.called
      ∧ n.start.1 = unstarted (n.client.outcome request.endpoint turn.answer)

theorem stop_of_resume (n : Node) : n.resume.2.stop = n.stop :=
  Books.resume (P := fun m => m.stop = n.stop)
    { log := fun _ _ h => h, ledger := fun _ h => h } rfl

/-- From `n` to `n'` nothing was asked, the stop signal is the same, and no engine was started. -/
structure Calm (n n' : Node) : Prop where
  unasked : Unasked n n'
  stop : n'.stop = n.stop
  instances : n'.engine.instances = n.engine.instances

theorem calm_attach (n : Node) : Calm n n.attach := by
  unfold attach
  split
  · exact ⟨.refl n, rfl, rfl⟩
  · exact ⟨⟨rfl, rfl⟩, rfl, rfl⟩

/-- A launch asks nothing.  Unless it fails it leaves the stop signal alone, and if it fails the
engine was not started. -/
theorem launch_ends (n : Node) (config : NodeConfig) (users : List User) :
    Unasked n (n.launch config users).2
      ∧ ((n.launch config users).2.stop = n.stop
        ∨ (∃ fault, (n.launch config users).1 = .error fault)
          ∧ (n.launch config users).2.engine.instances = n.engine.instances) := by
  have hnote : Calm n (if users.isEmpty then n.note .noUsers else n) := by
    split
    · exact ⟨unasked_note n .noUsers, rfl, rfl⟩
    · exact ⟨.refl n, rfl, rfl⟩
  unfold launch
  dsimp only
  generalize (if users.isEmpty then n.note .noUsers else n) = m at hnote
  cases keyAll config.cipher.keyLength users with
  | error fault =>
      have hfault := idles_startFault (α := Bool) m fault
      exact ⟨hnote.unasked.trans (unasked_startFault m fault),
        .inr ⟨⟨fault, rfl⟩, (congrArg Engine.instances hfault.same.engine).trans hnote.instances⟩⟩
  | ok keyed =>
      have hattach := calm_attach m
      have hu := hnote.unasked.trans hattach.unasked
      dsimp only
      rcases call_cases m.attach (.start config keyed.values) with ⟨e, -, hc⟩ | ⟨cause, -, hc⟩
      · rw [hc]
        have hl : Unasked m.attach ((m.attach.accepted (.start config keyed.values) e).launched
          config users keyed) := ⟨rfl, rfl⟩
        exact ⟨(hu.trans hl).trans (unasked_note _ _), .inl (hattach.stop.trans hnote.stop)⟩
      · rw [hc]
        have hr : Unasked m.attach (m.attach.refused (.start config keyed.values) cause) :=
          ⟨rfl, rfl⟩
        have hfail := idles_fail (m.attach.refused (.start config keyed.values) cause)
          (.engine cause)
        exact ⟨(hu.trans hr).trans (unasked_fail _ _), .inr ⟨⟨_, rfl⟩,
          (congrArg Engine.instances hfail.same.engine).trans
            (hattach.instances.trans hnote.instances)⟩⟩

/-- A start that has nothing to go on with, since it is to stop, is over. -/
theorem stopsStart_of_missed {o : Except Fault Unit} {e : Endpoint}
    (hlast : LastAsked n m (n.Ended e o)) (ho : unstarted o = .ok false)
    (hcalled : m.called = n.called) (h : n.start = (.ok false, m)) : StopsStart n := by
  rw [StopsStart, h]
  refine hlast.mono ?_
  rintro request turn ⟨-, rfl⟩
  exact .inr ⟨hcalled, ho.symm⟩

/-- A start is over when an answer is of no use for good. -/
theorem stopsStart_of_failed {fault : Fault} {e : Endpoint}
    (hlast : LastAsked n m (n.Ended e (.error fault))) (ht : fault.isTransient = false)
    (hcalled : m.called = n.called) (h : n.start = m.startFault fault) : StopsStart n := by
  rw [StopsStart, h]
  refine (hlast.unasked (unasked_startFault m fault)).mono ?_
  rintro request turn ⟨-, hturn⟩
  refine .inr ⟨(idles_startFault m fault).called.trans hcalled, ?_⟩
  rw [hturn]
  exact (if_neg (Bool.eq_false_iff.mp ht)).symm

/-- What a start asked for may be missing because an answer was of no use for now. -/
theorem Sought.missed_last {p : Node} (h : Sought R p (.ok none) m)
    (houtcome : ∀ c a, (R.accept c a).1.map (fun _ => ()) = Client.outcome c R.endpoint a)
    (hc : p.client.untagged = n.client.untagged) (hs : n.requests <:+ p.requests) :
    ∃ o, LastAsked n m (n.Ended R.endpoint o) ∧ unstarted o = .ok false := by
  cases h with
  | missed ht ha => exact ⟨_, ha.last houtcome hc hs, if_pos ht⟩

/-- A start that ends with a fault while it is to stop has it from the last answer, since it does not
stop when a pause cannot be made. -/
theorem Sought.failed_last {p : Node} {fault : Fault} (h : Sought R p (.error fault) m)
    (houtcome : ∀ c a, (R.accept c a).1.map (fun _ => ()) = Client.outcome c R.endpoint a)
    (hc : p.client.untagged = n.client.untagged) (hs : n.requests <:+ p.requests)
    (hstart : n.start = m.startFault fault) (hraised : n.start.2.stop.raised = true) :
    LastAsked n m (n.Ended R.endpoint (.error fault)) ∧ fault.isTransient = false := by
  cases h with
  | failed ht ha => exact ⟨ha.last houtcome hc hs, ht⟩
  | unpaused _ _ _ _ hm =>
      rw [hstart] at hraised
      exact absurd (hm.symm.trans hraised) Bool.false_ne_true

/-- A start that has the users launches the engine, and was not told to stop before its last
request. -/
theorem stopsStart_of_users {p : Node} {config : NodeConfig} {users : List User}
    (hready : p.ready .users fetchUsers = (.ok (some users), m))
    (hlast : LastAsked n m (n.Ended .users (.ok ()))) (hidle : Idles n m)
    (hlaunch : n.start = m.launch config users) (h : n.start.2.stop.raised = true) :
    StopsStart n := by
  obtain ⟨k, hk, hfetch⟩ := untilReady_found hready
  have hrequests := fetches_users.asks k
  rw [hfetch] at hrequests
  have hstops : m.stop.raised = (k.panel.next .users).1.stops := by
    have hr := raised_fetchUsers k
    rw [hfetch, hk, Bool.false_or] at hr
    exact hr
  obtain ⟨hu, hends⟩ := launch_ends m config users
  rw [StopsStart]
  rw [hlaunch] at h ⊢
  have hlaunched : (k.panel.next .users).1.stops = true ∨ (∃ fault,
      (m.launch config users).1 = .error fault)
        ∧ (m.launch config users).2.engine.instances = n.engine.instances := by
    rcases hends with hstop | ⟨hfault, hinstances⟩
    · exact .inl (hstops.symm.trans ((congrArg StopSignal.raised hstop).symm.trans h))
    · exact .inr ⟨hfault, hinstances.trans (congrArg Engine.instances hidle.same.engine)⟩
  have hboth := hlast.and_of_eq (Q := fun _ turn => turn.stops = true ∨ (∃ fault,
    (m.launch config users).1 = .error fault)
      ∧ (m.launch config users).2.engine.instances = n.engine.instances) hrequests hlaunched
  exact (hboth.unasked hu).mono fun _ _ => .inl

/-- The second half of a start, which has the configuration. -/
theorem stopsStart_of_config {p : Node} {config : NodeConfig}
    (hresume : { n with phase := .starting }.resume = (.ok (), p))
    (hconfig : p.ready .config fetchConfig = (.ok (some config), m))
    (hlast : LastAsked n m (n.Ended .config (.ok ())))
    (huntagged : m.client.untagged = n.client.untagged) (hidle : Idles n m)
    (h : n.start.2.stop.raised = true) : StopsStart n := by
  by_cases hm : m.stop.raised = true
  · have husers : m.ready .users fetchUsers = (.ok none, m) := untilReady_idle (.inr hm)
    refine stopsStart_of_missed hlast rfl hidle.called ?_
    simp only [start, hresume, hconfig, husers]
  have hs : n.requests <:+ m.requests := by
    obtain ⟨request, turn, earlier, hrequests, hs, -⟩ := hlast
    exact hrequests ▸ hs.trans (List.suffix_cons _ _)
  have hsought := fetches_users.sought Endpoint.users.errand (Nat.succ_ne_zero m.stop.patience)
    (Bool.eq_false_iff.mpr hm)
  have hlistens := hidle.trans (listens_untilReady listens_fetchUsers Endpoint.users.errand
    (m.stop.patience + 1) m).keeps.idles
  rcases husers : m.ready .users fetchUsers with ⟨fault | _ | users, k⟩
  all_goals rw [← ready, husers] at hlistens hsought
  · have hstart : n.start = k.startFault fault := by simp only [start, hresume, hconfig, husers]
    obtain ⟨hlast, ht⟩ := hsought.failed_last outcome_users huntagged hs hstart h
    exact stopsStart_of_failed hlast ht hlistens.called hstart
  · obtain ⟨o, hlast, ho⟩ := hsought.missed_last outcome_users huntagged hs
    refine stopsStart_of_missed hlast ho hlistens.called ?_
    simp only [start, hresume, hconfig, husers]
  · have hlaunch : n.start = k.launch config users := by
      simp only [start, hresume, hconfig, husers]
    exact stopsStart_of_users husers (hsought.answered.last outcome_users huntagged hs) hlistens
      hlaunch h

/-- A start that is told to stop leaves the engine alone, unless it has the users by then. -/
theorem stopsStart (hn : n.stop.raised = false) (h : n.start.2.stop.raised = true) :
    StopsStart n := by
  have hphase : Unasked n { n with phase := .starting } := ⟨rfl, rfl⟩
  have hu := hphase.trans (unasked_resume { n with phase := .starting })
  have hstop : { n with phase := .starting }.resume.2.stop = n.stop := stop_of_resume _
  have hquiet : Idles n { n with phase := .starting } := ⟨⟨rfl, rfl, rfl⟩, rfl⟩
  have hidle := hquiet.trans (keepsRoster_resume { n with phase := .starting }).idles
  rcases hresume : { n with phase := .starting }.resume with ⟨fault | u, p⟩
  all_goals rw [hresume] at hu hstop hidle
  · -- Nothing was asked or waited for, so the signal cannot have been raised.
    have hstart : n.start = (.error fault, p) := by simp only [start, hresume]
    rw [hstart, hstop, hn] at h
    cases h
  have hs : n.requests <:+ p.requests := hu.requests ▸ List.suffix_refl _
  have huntagged : p.client.untagged = n.client.untagged := congrArg Client.untagged hu.client
  have hsought := fetches_config.sought Endpoint.config.errand (Nat.succ_ne_zero p.stop.patience)
    ((congrArg StopSignal.raised hstop).trans hn)
  have hlistens := hidle.trans (listens_untilReady listens_fetchConfig Endpoint.config.errand
    (p.stop.patience + 1) p).keeps.idles
  rcases hconfig : p.ready .config fetchConfig with ⟨fault | _ | config, m⟩
  all_goals rw [← ready, hconfig] at hlistens hsought
  · have hstart : n.start = m.startFault fault := by simp only [start, hresume, hconfig]
    obtain ⟨hlast, ht⟩ := hsought.failed_last outcome_config huntagged hs hstart h
    exact stopsStart_of_failed hlast ht hlistens.called hstart
  · obtain ⟨o, hlast, ho⟩ := hsought.missed_last outcome_config huntagged hs
    refine stopsStart_of_missed hlast ho hlistens.called ?_
    simp only [start, hresume, hconfig]
  · exact stopsStart_of_config hresume hconfig
      (hsought.answered.last outcome_config huntagged hs)
      (hsought.answered.untagged.trans huntagged) hlistens h

end Starts

/-! ### All of it -/

/-- What a node leaves alone once it was told to stop, whatever it was doing then. -/
structure Prompt (n : Node) : Prop where
  /-- A request that was sent before is not tried again, and one that is sent later is sent once. -/
  config (policy : Retry) (errand : String) :
    Late [] [.asks .config] n (n.retrying policy errand fetchConfig).2
  users (policy : Retry) (errand : String) :
    Late [] [.asks .users] n (n.retrying policy errand fetchUsers).2
  push (s : Snapshot) (timeout : Option Float) (policy : Retry) (errand : String) :
    Late [] [.asks .push] n (n.retrying policy errand fun m => m.push s timeout).2
  /-- A start asks nothing more. -/
  start : Late [] [] n n.start.2
  /-- A start that is told to stop leaves the engine alone, unless it has the users by then. -/
  started : n.stop.raised = false → n.start.2.stop.raised = true → StopsStart n
  /-- After the configuration a sync cycle asks for the users, once. -/
  refresh : Late [] [.asks .config] n n.refresh.2
  sync : n.roster.busy = false → Late [] [.asks .users] n.refresh.2 n.sync.2
  report (timeout : Option Float) (policy : Retry) :
    Late [] [.asks .push] n (n.report timeout policy).2
  cycle (c : Cycle) : Late c.followUps c.deeds n (n.tick c).2
  /-- No cycle begins, and the one under way asks for the users at most. -/
  duties (l : List Duty) : Late [.asks .users] [] n (n.duties l)
  loop (c : Cycle) : Serves n (n.loop c).2
  /-- Apart from what had begun the shutdown asks once, to take a report. -/
  shutdown (inFlight : List Cycle) :
    Late (.asks .push :: Cycle.deedsOf inFlight) (.asks .push :: Cycle.deedsOf inFlight) n
      (n.shutdown inFlight).2
  /-- All that a whole run still does. -/
  served (l : List Duty) (inFlight : List Cycle) :
    Late (.asks .push :: Cycle.deedsOf inFlight ++ [.asks .users])
      (.asks .push :: Cycle.deedsOf inFlight) n (n.served l inFlight)
  run (a : Activity) : ∃ l, (n.run a).2 = n.served l a.inFlight

/-- From the moment at which a node is told to stop, during any request or any wait of a start, of
its loops or of its shutdown, it tries nothing again and begins no cycle.  A start asks nothing more,
the cycle under way asks for the users at most, and the shutdown sends one report at most.  A start
that is told to stop does not start the engine, unless that happens during a request that has the
users for it: it says so, or fails if the request under way ended in a fault that is there to
stay. -/
theorem stop_prompt (n : Node) : n.Prompt where
  config := late_retrying late_fetchConfig n
  users := late_retrying late_fetchUsers n
  push s timeout := late_retrying (fun m => late_push m s timeout) n
  start := late_start n
  started := stopsStart
  refresh := late_refresh n
  sync := late_sync_of_idle
  report := late_report n
  cycle := late_tick n
  duties := late_duties n
  loop := serves_loop n
  shutdown := late_shutdown n
  served := late_served n
  run := exists_served n

/-- The sample, which is told to stop when it asks for the configuration after these turns. -/
def sampleStopped (turns : List Panel.Turn) : Node :=
  { sample with panel := { sample.panel with
      config := turns ++ sample.panel.config.map fun turn => { turn with stops := true } } }

/-- One sample is told to stop while it starts and one in its first cycle, with more to come. -/
theorem stop_prompt_sample :
    StopsStart (sampleStopped []) ∧ (sampleStopped []).start.1 = .ok false
    ∧ Late [.asks .push, .asks .users] [.asks .push] (sampleStopped sample.panel.config)
      ((sampleStopped sample.panel.config).run { rounds := 3 }).2
    ∧ late false ((sampleStopped sample.panel.config).run { rounds := 3 }).2.journal
      = [.asks .push, .asks .users] := by
  refine ⟨(stop_prompt _).started rfl (by decide +kernel), by decide +kernel, ?_, by decide +kernel⟩
  obtain ⟨l, hl⟩ := (stop_prompt (sampleStopped sample.panel.config)).run { rounds := 3 }
  rw [hl]
  exact (stop_prompt _).served l []

end Node

end ProxyNode
