import ProxyNode.Node.Report
import ProxyNode.Node.Sync

/-!
# Node — Life

From start to shutdown.  A node that starts fetches its configuration and its users until it has
both and starts the engine with them, all or nothing.  A running node goes through its two cycles
until the stop signal is raised.  A shutdown stops the engine and reports once more; what is not
acknowledged then is spooled.

* `shutdown_of_stopped`: a node that was shut down is not shut down again.
* `tick_of_rejected`: a cycle that the panel refuses ends the node.
-/

namespace ProxyNode.Node

/-- Takes the traffic that the spool holds into the counters; its rows stay until a report was
acknowledged. -/
def resume (n : Node) : Except Fault Unit × Node :=
  match n.ledger.spool with
  | none => (.ok (), n)
  | some spool =>
    match spool.peek with
    | .error fault => (.error fault, n)
    | .ok pending =>
      if pending.isEmpty then (.ok (), n)
      else
        let n := n.restore pending
        let owing : Node := { n with ledger := { n.ledger with owed := true } }
        (owing.log (.resumed pending)).noteSums pending
          (.spoolRestored pending.size pending.up pending.down)

/-- The seconds to wait before the panel is asked again for what a start needs. -/
def startPause (policy : Retry) : Float := if policy.ceiling < 1.0 then 1.0 else policy.ceiling

/-- Asks until there is an answer to use or the stop signal is raised.  Each round waits, so there
are no more rounds than there is patience for. -/
def untilReady {α : Type} (errand : String) (fetch : Node → Except Fault α × Node) :
    Nat → Node → Except Fault (Option α) × Node
  | 0, n => (.ok none, n)
  | rounds + 1, n =>
    if n.stop.raised then (.ok none, n)
    else match n.retrying n.plan.retry errand fetch with
      | (.ok a, n) => (.ok (some a), n)
      | (.error fault, n) =>
        if fault.isTransient then
          match (n.note (.notReady errand fault)).waitFor (startPause n.plan.retry) with
          | (.error fault, n) => (.error fault, n)
          | (.ok _, n) => untilReady errand fetch rounds n
        else (.error fault, n)

/-- Asks for one resource until the node has it or is to stop. -/
def ready {α : Type} (n : Node) (e : Panel.Endpoint) (fetch : Node → Except Fault α × Node) :
    Except Fault (Option α) × Node :=
  untilReady e.errand fetch (n.stop.patience + 1) n

/-- Ends a start with a fault; the panel's refusal and a bad configuration are fatal. -/
def startFault {α : Type} (n : Node) (fault : Fault) : Except Fault α × Node :=
  (.error fault, if fault.isRejected || fault.isConfig then n.fail fault else n)

/-- Starts the engine with a configuration and users that have just been fetched. -/
def launch (n : Node) (config : NodeConfig) (users : List User) : Except Fault Bool × Node :=
  let n := if users.isEmpty then n.note .noUsers else n
  match keyAll config.cipher.keyLength users with
  | .error fault => n.startFault fault
  | .ok keyed =>
    match n.attach.call (.start config keyed.values) with
    | (some cause, n) => (.error (.engine cause), n.fail (.engine cause))
    | (none, n) =>
      let started : Node := { n with
        roster := { n.roster with
          config := some config
          applied := keyed
          fetched := some users
          handle := n.engine.latest }
        phase := .running }
      (.ok true, started.note (.nodeStarted config.port config.cipher keyed.size
        (started.interval .sync) (started.interval .report)))

/-- Starts a node; the result says whether it runs, which it does not if it was told to stop. -/
def start (n : Node) : Except Fault Bool × Node :=
  match { n with phase := .starting }.resume with
  | (.error fault, n) => (.error fault, n)
  | (.ok (), n) =>
    match n.ready .config fetchConfig with
    | (.error fault, n) => n.startFault fault
    | (.ok none, n) => (.ok false, n)
    | (.ok (some config), n) =>
      match n.ready .users fetchUsers with
      | (.error fault, n) => n.startFault fault
      | (.ok none, n) => (.ok false, n)
      | (.ok (some users), n) => n.launch config users

/-- Goes through one cycle. -/
def perform (n : Node) : Cycle → Except Fault Bool × Node
  | .sync => n.sync
  | .report => n.report none n.plan.retry

/-- One cycle of a running node; says whether another may follow. -/
def tick (n : Node) (c : Cycle) : Bool × Node :=
  match (n.log (.began c)).perform c with
  | (.ok _, n) => (true, n)
  | (.error fault, n) =>
    if fault.isRejected then (false, n.fail fault) else (true, n.note (.cycleFailed c fault))

/-- Waits and goes through a cycle, in turns, until the stop signal is raised.  Each round waits, so
there are no more rounds than there is patience for.  An interval that the clock refuses breaks the
loop off. -/
def loopFrom (c : Cycle) : Nat → Node → Except Fault Unit × Node
  | 0, n => (.ok (), n)
  | rounds + 1, n =>
    match n.waitWhole (n.interval c) with
    | (.error fault, n) => (.error fault, n)
    | (.ok true, n) => (.ok (), n)
    | (.ok false, n) =>
      match n.tick c with
      | (true, n) => loopFrom c rounds n
      | (false, n) => (.ok (), n)

def loop (n : Node) (c : Cycle) : Except Fault Unit × Node :=
  loopFrom c (n.stop.patience + 1) n

/-- Cycles without waiting, as many as are asked for or until the node is to stop. -/
def ticks (c : Cycle) : Nat → Node → Node
  | 0, n => n
  | more + 1, n =>
    if n.stop.raised then n
    else match n.tick c with
      | (true, n) => ticks c more n
      | (false, n) => n

/-- What happens beside the waits of which count is kept: their waits are not counted. -/
def beside (n : Node) (f : Node → Node) : Node :=
  let after := f { n with stop := { n.stop with counted := false } }
  { after with stop := { after.stop with counted := n.stop.counted } }

/-- Waits second by second until the stop signal is raised. -/
def idleFrom : Nat → Node → Node
  | 0, n => n
  | rounds + 1, n =>
    match n.wait 1.0 with
    | (true, n) => n
    | (false, n) => idleFrom rounds n

def idle (n : Node) : Node := idleFrom (n.stop.patience + 1) n

/-- Keeps what was not reported: in the spool if there is one that takes it.  Otherwise it is
dropped. -/
def retire (n : Node) (leftover : Snapshot) : Except Fault Unit × Node :=
  let n := n.log (.retired leftover)
  match n.ledger.spool with
  | none => n.noteSums leftover (.dropped leftover.size leftover.up leftover.down false)
  | some spool =>
    match spool.save leftover with
    | (.ok (), spool) => (.ok (), n.spooled spool)
    | (.error fault, spool) =>
      ((n.spooled spool).note (.spoolFailed fault)).noteSums leftover
        (.dropped leftover.size leftover.up leftover.down true)

/-- The last report of a node. -/
def finalFlush (n : Node) : Except Fault Unit × Node :=
  match n.report (some n.plan.finalReportTimeout) .once with
  | (.error fault, n) => (.error fault, n)
  | (.ok ok, n) =>
    let n := if ok then n else n.note .finalReportFailed
    let (leftover, n) := n.drain
    if leftover.isEmpty then (.ok (), n) else n.retire leftover

/-- Shuts a node down.  `inFlight` lists the cycles that had begun when the stop signal was raised;
they come to their end first. -/
def shutdown (n : Node) (inFlight : List Cycle) : Except Fault Unit × Node :=
  if n.phase = .stopping ∨ n.phase = .stopped then (.ok (), n)
  else
    let failed := n.phase = .failed
    let n := ({ n with phase := .stopping }.raise).note .shuttingDown
    let n := n.beside fun n => inFlight.foldl (fun n c => (n.tick c).2) n
    match n.stopEngine.finalFlush with
    | (.error fault, n) => (.error fault, n)
    | (.ok (), n) =>
      (.ok (), { n with phase := if failed then .failed else .stopped }.note .shutDown)

/-- What the cycles do while a node waits to be stopped: one kind of cycle comes round a number of
times, and some cycles are still under way when the node is stopped. -/
structure Activity where
  cycle : Cycle := .sync
  rounds : Nat := 0
  inFlight : List Cycle := []
  deriving DecidableEq, Repr

/-- The life of a node up to its shutdown: its start and, if it starts, what happens while it runs.
The fault is that of the start. -/
def live (n : Node) (running : Node → Node) : Option Fault × Node :=
  match n.start with
  | (.error fault, n) => (some fault, n)
  | (.ok true, n) => (none, running n)
  | (.ok false, n) => (none, n)

/-- Runs a node from its start to its shutdown; the result says whether it stopped without a fatal
fault.  The node is shut down however it started. -/
def run (n : Node) (activity : Activity) : Except Fault Bool × Node :=
  let (fault, n) := n.live fun n => (n.beside (ticks activity.cycle activity.rounds)).idle
  match n.shutdown activity.inFlight with
  | (.error fault, n) => (.error fault, n)
  | (.ok (), n) =>
    match fault with
    | some fault => (.error fault, n)
    | none => (.ok n.fatal.isNone, n)

theorem shutdown_of_stopped {n : Node} {inFlight : List Cycle} (h : n.phase = .stopped) :
    n.shutdown inFlight = (.ok (), n) := by
  simp [shutdown, h]

theorem tick_of_rejected {n n' : Node} {c : Cycle} {fault : Fault}
    (h : (n.log (.began c)).perform c = (.error fault, n')) (hf : fault.isRejected = true) :
    n.tick c = (false, n'.fail fault) := by
  simp [tick, h, hf]

end ProxyNode.Node
