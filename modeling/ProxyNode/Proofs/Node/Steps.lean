import ProxyNode.Node.Life
import ProxyNode.Proofs.Traffic.Accumulator

/-!
# Node — Steps

A node from outside: a sequence of steps, each of which is a start, a shutdown, or something that
a running node does or that happens to it.  What the panel answers, what the engine refuses, what
is counted while a request is under way and which wait finds the stop signal raised are parts of
the node's state that no operation sets, so a statement about all nodes and all sequences is a
statement about all of these.

* `exists_acts_of_activity`: what goes on while a process waits to be stopped is such a sequence.
* `runWith`, `exists_runWith`: a run, whatever the node did while it ran.
-/

namespace ProxyNode

/-- What a running node does or what happens to it. -/
inductive Action where
  | count (delta : Delta)
  | emit (delta : Delta)
  | sync
  | report (timeout : Option Float) (policy : Retry)
  | tick (cycle : Cycle)
  | wait (seconds : Float)
  | stop
  | signal (stop : StopSignal)

/-- What is done with a node. -/
inductive Step where
  | start
  | act (action : Action)
  | shutdown (inFlight : List Cycle)

def Step.isStart : Step → Bool
  | .start => true
  | _ => false

def Step.isShutdown : Step → Bool
  | .shutdown _ => true
  | _ => false

namespace Node

def act (n : Node) : Action → Node
  | .count d => n.count d
  | .emit d => n.emit d
  | .sync => n.sync.2
  | .report timeout policy => (n.report timeout policy).2
  | .tick c => (n.tick c).2
  | .wait seconds => (n.wait seconds).2
  | .stop => n.raise
  | .signal s => { n with stop := s }

def acts (n : Node) (actions : List Action) : Node := actions.foldl act n

def step (n : Node) : Step → Node
  | .start => n.start.2
  | .act a => n.act a
  | .shutdown inFlight => (n.shutdown inFlight).2

/-- The node after some steps. -/
def after (n : Node) (steps : List Step) : Node := steps.foldl step n

/-- A node to which nothing has happened yet, whatever it has been made from. -/
structure IsNew (n : Node) : Prop where
  roster : n.roster = {}
  engine : n.engine.anyRunning = false
  accumulator : n.ledger.accumulator.IsNew
  owed : n.ledger.owed = false
  reported : n.ledger.reported = 0
  phase : n.phase = .new
  journal : n.journal = []

/-- What the user of the sample sends. -/
def sampleDelta : Delta := .ofCounters 1 2 3

/-- A node that has just been made, on a spool with one row.  Its panel lists one user, who sends
more while a report is under way. -/
def sample : Node where
  client := { host := "panel", node := 1, key := "key", timeout := 5.0 }
  panel :=
    { config := [{ answer := .response { text := "\x7b\"server_port\":8388,"
        ++ "\"cipher\":\"2022-blake3-aes-128-gcm\",\"server_key\":\"k\"\x7d" } }]
      users := [{ answer := .response { text :=
        "\x7b\"users\":[\x7b\"id\":1,\"uuid\":\"0123456789abcdef\"\x7d]\x7d" } }]
      push := [{
        counted := [sampleDelta]
        answer := .response { text := "null" } }] }
  ledger := { spool := some { table := some [⟨1, "5", "7"⟩] } }

theorem isNew_sample : sample.IsNew :=
  ⟨rfl, rfl, ⟨16, by decide, rfl⟩, rfl, rfl, rfl, rfl⟩

/-- What a step keeps, any number of steps keeps. -/
theorem after_induction {P : Node → Prop} (hstep : ∀ n s, P n → P (n.step s)) {n : Node}
    (hn : P n) (steps : List Step) : P (n.after steps) := by
  induction steps generalizing n with
  | nil => exact hn
  | cons s rest ih => exact ih (hstep n s hn)

theorem acts_induction {P : Node → Prop} (hact : ∀ n a, P n → P (n.act a)) {n : Node}
    (hn : P n) (actions : List Action) : P (n.acts actions) := by
  induction actions generalizing n with
  | nil => exact hn
  | cons a rest ih => exact ih (hact n a hn)

/-- What starts and actions keep, any number of steps without a shutdown keeps. -/
theorem after_induction_of_open {P : Node → Prop} (hstart : ∀ n, P n → P n.start.2)
    (hact : ∀ n a, P n → P (n.act a)) {n : Node} (hn : P n) {steps : List Step}
    (h : ∀ s ∈ steps, s.isShutdown = false) : P (n.after steps) := by
  induction steps generalizing n with
  | nil => exact hn
  | cons s rest ih =>
      rw [List.forall_mem_cons] at h
      refine ih ?_ h.2
      cases s with
      | start => exact hstart n hn
      | act a => exact hact n a hn
      | shutdown inFlight => cases h.1

theorem acts_append (n : Node) (l l' : List Action) : n.acts (l ++ l') = (n.acts l).acts l' :=
  List.foldl_append

theorem exists_acts_of_ticks (c : Cycle) (k : Nat) (n : Node) :
    ∃ l, ticks c k n = n.acts l := by
  induction k generalizing n with
  | zero => exact ⟨[], rfl⟩
  | succ k ih =>
      rw [ticks]
      split
      · exact ⟨[], rfl⟩
      · have ht : n.act (.tick c) = (n.tick c).2 := rfl
        split
        · next m heq =>
          obtain ⟨l, hl⟩ := ih m
          refine ⟨.tick c :: l, ?_⟩
          rw [hl, acts, acts, List.foldl_cons, ht, heq]
        · next m heq => exact ⟨[.tick c], by rw [acts, List.foldl_cons, ht, heq]; rfl⟩

theorem exists_acts_of_idleFrom (k : Nat) (n : Node) : ∃ l, idleFrom k n = n.acts l := by
  induction k generalizing n with
  | zero => exact ⟨[], rfl⟩
  | succ k ih =>
      have hw : n.act (.wait 1.0) = (n.wait 1.0).2 := rfl
      rw [idleFrom]
      split
      · next m heq => exact ⟨[.wait 1.0], by rw [acts, List.foldl_cons, hw, heq]; rfl⟩
      · next m heq =>
        obtain ⟨l, hl⟩ := ih m
        refine ⟨.wait 1.0 :: l, ?_⟩
        rw [hl, acts, acts, List.foldl_cons, hw, heq]

/-- What goes on while a process waits to be stopped is a sequence of actions. -/
theorem exists_acts_of_activity (n : Node) (a : Activity) :
    ∃ l, (n.beside (ticks a.cycle a.rounds)).idle = n.acts l := by
  obtain ⟨l, hl⟩ := exists_acts_of_ticks a.cycle a.rounds
    { n with stop := { n.stop with counted := false } }
  obtain ⟨w, hw⟩ := exists_acts_of_idleFrom
    ((n.beside (ticks a.cycle a.rounds)).stop.patience + 1) (n.beside (ticks a.cycle a.rounds))
  refine ⟨.signal { n.stop with counted := false } :: l ++
    .signal { ((n.acts [.signal { n.stop with counted := false }]).acts l).stop with
      counted := n.stop.counted } :: w, ?_⟩
  rw [idle, hw, acts_append]
  show _ = Node.acts _ _
  rw [acts, acts, List.foldl_cons]
  refine congrArg (List.foldl act · w) ?_
  show n.beside (ticks a.cycle a.rounds) = Node.act _ _
  rw [beside, hl]
  rfl

/-! ### Runs -/

/-- The node as its shutdown begins, after a start and, if it started, some actions. -/
def lived (n : Node) (running : List Action) : Node := (n.live fun n => n.acts running).2

/-- Runs a node whose loops and whose surroundings do as `running` says, until it is shut down. -/
def runWith (n : Node) (running : List Action) (inFlight : List Cycle) :
    Except Fault Bool × Node :=
  let (fault, n) := n.live fun n => n.acts running
  match n.shutdown inFlight with
  | (.error fault, n) => (.error fault, n)
  | (.ok (), n) =>
    match fault with
    | some fault => (.error fault, n)
    | none => (.ok n.fatal.isNone, n)

theorem exists_live_of_activity (n : Node) (a : Activity) :
    ∃ l, (n.live fun n => (n.beside (ticks a.cycle a.rounds)).idle) = n.live fun n => n.acts l := by
  obtain ⟨l, hl⟩ := exists_acts_of_activity n.start.2 a
  refine ⟨l, ?_⟩
  unfold live
  split
  · rfl
  · next m hm =>
    rw [hm] at hl
    exact congrArg (Prod.mk none) hl
  · rfl

/-- A run is one of these, and is known by its actions. -/
theorem exists_runWith (n : Node) (a : Activity) :
    ∃ l, (n.live fun n => (n.beside (ticks a.cycle a.rounds)).idle) = (n.live fun n => n.acts l)
      ∧ n.run a = n.runWith l a.inFlight := by
  obtain ⟨l, hl⟩ := exists_live_of_activity n a
  refine ⟨l, hl, ?_⟩
  rw [run, hl]
  rfl

theorem runWith_snd (n : Node) (running : List Action) (inFlight : List Cycle) :
    (n.runWith running inFlight).2 = ((n.lived running).shutdown inFlight).2 := by
  unfold runWith lived
  generalize n.live (fun n => n.acts running) = r
  obtain ⟨fault, m⟩ := r
  dsimp only
  split
  · next e k hk => rw [hk]
  · next k hk =>
    rw [hk]
    split <;> rfl

/-- What is known of a run that returns. -/
theorem runWith_ok {n m : Node} {running : List Action} {inFlight : List Cycle} {ok : Bool}
    (h : n.runWith running inFlight = (.ok ok, m)) :
    (n.live fun n => n.acts running).1 = none
    ∧ (n.lived running).shutdown inFlight = (.ok (), m) ∧ ok = m.fatal.isNone := by
  unfold runWith at h
  unfold lived
  generalize n.live (fun n => n.acts running) = r at h ⊢
  obtain ⟨fault, k⟩ := r
  dsimp only at h ⊢
  split at h
  · cases h
  · next hk =>
    cases fault with
    | some fault => cases h
    | none =>
        cases h
        exact ⟨rfl, hk, rfl⟩

/-- A run that returns has started, or it was told to stop before. -/
theorem lived_cases {n : Node} {running : List Action}
    (h : (n.live fun n => n.acts running).1 = none) :
    (∃ m, n.start = (.ok true, m) ∧ ∀ l, n.lived l = m.acts l)
    ∨ ∃ m, n.start = (.ok false, m) ∧ ∀ l, n.lived l = m := by
  unfold live at h
  split at h
  · cases h
  · next m hm => exact .inl ⟨m, hm, fun l => by rw [lived, live, hm]⟩
  · next m hm => exact .inr ⟨m, hm, fun l => by rw [lived, live, hm]⟩

end Node

end ProxyNode
