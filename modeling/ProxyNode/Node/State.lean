import ProxyNode.Engine.Basic
import ProxyNode.Node.Notice
import ProxyNode.Panel.Client
import ProxyNode.Retry
import ProxyNode.Traffic.Accumulator
import ProxyNode.Traffic.Spool

/-!
# Node — State

The state of a node and the steps by which it changes: writing to the journal, waiting, asking the
panel and calling the engine.  The journal lists all that happened, the latest first.

* `raised_of_raise`: a raised stop signal is raised.
* `waitUnless_cases`: a wait is made unless the clock refuses it, and once the stop signal is raised
  the clock is not asked.
* `stop_of_note`, `engine_of_note`: writing to the journal changes nothing else.
-/

namespace ProxyNode

/-- How a cycle went. -/
structure Outcome where
  ok : Bool
  message : String
  deriving DecidableEq, Repr

/-- Where a node is in its life. -/
inductive Phase where
  | new
  | starting
  | running
  | stopping
  | stopped
  | failed
  deriving DecidableEq, Repr

def Phase.name : Phase → String
  | .new => "new"
  | .starting => "starting"
  | .running => "running"
  | .stopping => "stopping"
  | .stopped => "stopped"
  | .failed => "failed"

/-- The signal to stop.  It is raised by a request to stop, or after so many more waits as there is
patience for; waits of which no count is kept leave it alone. -/
structure StopSignal where
  raised : Bool := false
  patience : Nat := 20
  counted : Bool := true
  deriving DecidableEq, Repr

/-- A clock, by the waits that it refuses, of so many seconds, and the reason. -/
structure Clock where
  refusesWhole : Int → Option Unexpected
  refuses : Float → Option Unexpected

namespace Clock

/-- The longest wait in seconds: it has as many nanoseconds as 63 bits can count. -/
def longest : Float := 9223372036.854775

/-- The same for waits of whole seconds. -/
def longestWhole : Int := 9223372036

/-- The clock of a running process. -/
def system : Clock where
  refusesWhole i := if longestWhole < i then some .secondsRange else none
  refuses x := if longest < x then some .timeRange else none

end Clock

/-- What is settled when a node is made. -/
structure Plan where
  retry : Retry := {}
  syncInterval : Option Int := none
  reportInterval : Option Int := none
  finalReportTimeout : Float := 5.0

/-- The users, and the configuration and the engine that they are registered with. -/
structure Roster where
  config : Option NodeConfig := none
  applied : OrderedMap Int User := .empty
  fetched : Option (List User) := none
  handle : Option Engine.Handle := none
  busy : Bool := false
  lastSync : Option Outcome := none

/-- The traffic that is to be reported, and what became of earlier traffic.  As long as `owed`, the
spool's rows are also in the accumulator. -/
structure Ledger where
  accumulator : Accumulator := default
  spool : Option Spool := none
  owed : Bool := false
  reported : Int := 0
  lastReport : Option Outcome := none

/-- What happened to a node. -/
inductive Event where
  | began (cycle : Cycle)
  | asked (request : Panel.Request) (turn : Panel.Turn)
  | waited (seconds : Float)
  | stopRaised
  | called (call : Engine.Call) (refusal : Option EngineCause)
  | counted (delta : Delta)
  | resumed (snapshot : Snapshot)
  | delivered (snapshot : Snapshot)
  | retired (snapshot : Snapshot)
  | spoolWritten (table : Option (List Row))
  | noted (notice : Notice)

structure Node where
  plan : Plan := {}
  clock : Clock := .system
  client : Panel.Client
  panel : Panel.Script := {}
  stop : StopSignal := {}
  engine : Engine := {}
  refuses : Nat → Engine.Call → Bool := fun _ _ => false
  calls : Nat := 0
  roster : Roster := {}
  ledger : Ledger := {}
  phase : Phase := .new
  fatal : Option Fault := none
  journal : List Event := []

namespace Node

def log (n : Node) (e : Event) : Node := { n with journal := e :: n.journal }

def note (n : Node) (notice : Notice) : Node := n.log (.noted notice)

/-- Raises the stop signal. -/
def raise (n : Node) : Node :=
  if n.stop.raised then n
  else { n with stop := { n.stop with raised := true }, journal := .stopRaised :: n.journal }

/-- Waits, and says whether the stop signal is raised afterwards. -/
def wait (n : Node) (seconds : Float) : Bool × Node :=
  if n.stop.counted then
    let waited : Node := { n with
      stop := { n.stop with patience := n.stop.patience - 1 }
      journal := .waited seconds :: n.journal }
    let after := if n.stop.patience ≤ 1 then waited.raise else waited
    (after.stop.raised, after)
  else (n.stop.raised, n)

/-- Waits, unless the clock refuses that.  Once the stop signal is raised a wait takes no time, and
the clock is not asked. -/
def waitUnless (n : Node) (refusal : Option Unexpected) (seconds : Float) :
    Except Fault Bool × Node :=
  match if n.stop.raised then none else refusal with
  | some cause => (.error (.unexpected cause), n)
  | none => (.ok (n.wait seconds).1, (n.wait seconds).2)

/-- A wait between two tries. -/
def waitFor (n : Node) (seconds : Float) : Except Fault Bool × Node :=
  n.waitUnless (n.clock.refuses seconds) seconds

/-- Whole seconds as a double, without end if there are too many of them. -/
def seconds (i : Int) : Float := (Binary64.ofInt? i).getD (1.0 / 0.0)

/-- A wait of whole seconds. -/
def waitWhole (n : Node) (i : Int) : Except Fault Bool × Node :=
  n.waitUnless (n.clock.refusesWhole i) (seconds i)

/-- The name under which the node listens for the engine's traffic. -/
def listener : String := "ledger"

/-- Listens for the engine's traffic, once. -/
def attach (n : Node) : Node :=
  if n.engine.listeners.contains listener then n
  else { n with engine := n.engine.listen listener }

/-- Counts traffic. -/
def count (n : Node) (d : Delta) : Node :=
  { n with
    ledger := { n.ledger with accumulator := n.ledger.accumulator.record d }
    journal := .counted d :: n.journal }

/-- Traffic that the engine reports to its listeners. -/
def emit (n : Node) (d : Delta) : Node := (n.engine.emit d).foldl (fun n e => n.count e.2) n

/-- Sends a request and takes the answer, with all that happens until then. -/
def ask (n : Node) (e : Panel.Endpoint) (timeout : Option Float)
    (body : Option (OrderedMap String Amount)) : Panel.Answer × Node :=
  let (turn, panel) := n.panel.next e
  let sent : Node := { n with
    panel := panel
    journal := .asked (n.client.request e timeout body) turn :: n.journal }
  let counted := turn.counted.foldl emit sent
  (turn.answer, if turn.stops then counted.raise else counted)

/-- Calls the engine; the result is the reason of a refusal. -/
def call (n : Node) (c : Engine.Call) : Option EngineCause × Node :=
  let result := if n.refuses n.calls c then .error c.refusal else n.engine.perform c
  match result with
  | .error cause =>
    (some cause, { n with
      calls := n.calls + 1
      journal := .called c (some cause) :: n.journal })
  | .ok engine =>
    (none, { n with
      engine := engine
      calls := n.calls + 1
      journal := .called c none :: n.journal })

/-- Ends the node's life as failed. -/
def fail (n : Node) (f : Fault) : Node :=
  ({ n with phase := .failed, fatal := some f }.note (.fatal f)).raise

/-- The seconds between cycles where neither the plan nor the panel says. -/
def defaultInterval : Int := 60

/-- An interval that is given and not zero. -/
def usable : Option Int → Option Int
  | none => none
  | some i => if i = 0 then none else some i

/-- The seconds between two cycles of a kind: the plan's, else the panel's, else the default. -/
def interval (n : Node) : Cycle → Int
  | .sync =>
    ((usable n.plan.syncInterval).or ((n.roster.config.bind NodeConfig.pullInterval))).getD
      defaultInterval
  | .report =>
    ((usable n.plan.reportInterval).or ((n.roster.config.bind NodeConfig.pushInterval))).getD
      defaultInterval

/-- A call that is tried again under a policy, with a notice and a wait before each further try. -/
def retrying {α : Type} (n : Node) (policy : Retry) (errand : String)
    (attempt : Node → Except Fault α × Node) : Except Fault α × Node :=
  policy.run Fault.isTransient attempt
    (fun fault delay n => (n.note (.retrying errand fault delay)).waitFor delay) n

@[simp] theorem raised_of_raise (n : Node) : n.raise.stop.raised = true := by
  unfold raise
  split
  · assumption
  · rfl

/-- A wait is refused, which leaves the node as it is, or it is made. -/
theorem waitUnless_cases (n : Node) (refusal : Option Unexpected) (seconds : Float) :
    (∃ cause, refusal = some cause ∧ n.stop.raised = false
      ∧ n.waitUnless refusal seconds = (.error (.unexpected cause), n))
    ∨ ((refusal = none ∨ n.stop.raised = true)
      ∧ n.waitUnless refusal seconds = (.ok (n.wait seconds).1, (n.wait seconds).2)) := by
  cases hr : n.stop.raised with
  | true => exact .inr ⟨.inr rfl, by simp [waitUnless, hr]⟩
  | false =>
    cases refusal with
    | none => exact .inr ⟨.inl rfl, by simp [waitUnless]⟩
    | some cause => exact .inl ⟨cause, rfl, rfl, by simp [waitUnless, hr]⟩

/-- A wait that is refused is refused by the clock, and nothing happens. -/
theorem eq_of_waitUnless_error {n m : Node} {refusal : Option Unexpected} {seconds : Float}
    {fault : Fault} (h : n.waitUnless refusal seconds = (.error fault, m)) :
    m = n ∧ n.stop.raised = false ∧ ∃ cause, refusal = some cause ∧ fault = .unexpected cause := by
  rcases n.waitUnless_cases refusal seconds with ⟨cause, hc, hs, hr⟩ | ⟨-, hr⟩
  · cases hr.symm.trans h
    exact ⟨rfl, hs, cause, hc, rfl⟩
  · cases hr.symm.trans h

/-- A wait that is made is a wait. -/
theorem eq_of_waitUnless_ok {n m : Node} {refusal : Option Unexpected} {seconds : Float}
    {stopped : Bool} (h : n.waitUnless refusal seconds = (.ok stopped, m)) :
    n.wait seconds = (stopped, m) := by
  rcases n.waitUnless_cases refusal seconds with ⟨cause, -, -, hr⟩ | ⟨-, hr⟩
  · cases hr.symm.trans h
  · cases hr.symm.trans h
    rfl

/-- What holds of a node that does not wait and of one that does. -/
theorem waitUnless_keeps {P : Node → Prop} {n : Node} {seconds : Float} (refusal : Option Unexpected)
    (h : P n) (hw : P (n.wait seconds).2) : P (n.waitUnless refusal seconds).2 := by
  rcases n.waitUnless_cases refusal seconds with ⟨cause, -, -, hr⟩ | ⟨-, hr⟩
  · rwa [hr]
  · rwa [hr]

theorem waitFor_keeps {P : Node → Prop} {n : Node} {seconds : Float} (h : P n)
    (hw : P (n.wait seconds).2) : P (n.waitFor seconds).2 :=
  waitUnless_keeps _ h hw

@[simp] theorem stop_of_note (n : Node) (notice : Notice) : (n.note notice).stop = n.stop := rfl

@[simp] theorem engine_of_note (n : Node) (notice : Notice) :
    (n.note notice).engine = n.engine := rfl

end Node

end ProxyNode
