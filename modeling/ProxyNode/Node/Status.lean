import ProxyNode.Node.State
import ProxyNode.Traffic.ByteSize

/-!
# Node — Status

What a node tells about itself, and the pages of the read-only web interface that show it.

* `ofPath?_path`: a page is found under its own path.
* `page_health`: what the page about a node's health says of it.
-/

namespace ProxyNode

/-- A count as JSON. -/
def Json.count (n : Nat) : Json := .int n

/-- A value that may be missing. -/
def Json.optional {α : Type} (f : α → Json) : Option α → Json
  | none => .null
  | some a => f a

/-- The part of a configuration that is shown. -/
def NodeConfig.summary (c : NodeConfig) : Json := .record [
  ("listen_port", .int c.port),
  ("cipher", .text c.cipher.name),
  ("tcp", .bool c.transport.mode.tcp),
  ("udp", .bool c.transport.mode.udp),
  ("pull_interval", .optional .int c.pullInterval),
  ("push_interval", .optional .int c.pushInterval)]

def Outcome.toJson (o : Outcome) : Json :=
  .record [("ok", .bool o.ok), ("message", .text o.message)]

/-- An outcome with the time at which it was noted, in whole seconds. -/
def Outcome.stamped (o : Outcome) (time : Json) : Except Fault Json :=
  match wholeOrFault time with
  | .error fault => .error fault
  | .ok seconds =>
    .ok (.record [("ts", .int seconds), ("ok", .bool o.ok), ("message", .text o.message)])

/-- A page of the web interface. -/
inductive Page where
  | health
  | status
  | users
  | pending
  deriving DecidableEq, Repr

namespace Page

def path : Page → String
  | .health => "/api/health"
  | .status => "/api/status"
  | .users => "/api/users"
  | .pending => "/api/traffic/pending"

/-- The page at a path. -/
def ofPath? (path : String) : Option Page :=
  [Page.health, .status, .users, .pending].find? fun p => p.path == path

theorem ofPath?_path (p : Page) : ofPath? p.path = some p := by
  cases p <;> rfl

end Page

namespace Node

/-- The users that are registered, in ascending order. -/
def appliedIds (n : Node) : List Int := sortBy id n.roster.applied.keys

/-- What waits to be reported. -/
def pending (n : Node) : Snapshot := n.ledger.accumulator.peek

/-- The fields of the status, with further ones for the waiting traffic and at the end. -/
def statusWith (n : Node) (morePending more : List (String × Json)) : Json := .record ([
  ("state", .text n.phase.name),
  ("config", .optional NodeConfig.summary n.roster.config),
  ("users", .count n.roster.applied.size),
  ("sync_interval", .int (n.interval .sync)),
  ("report_interval", .int (n.interval .report)),
  ("last_sync", .optional Outcome.toJson n.roster.lastSync),
  ("last_report", .optional Outcome.toJson n.ledger.lastReport),
  ("reported_bytes", .int n.ledger.reported),
  ("pending", .record ([
    ("users", .count n.pending.size),
    ("up_bytes", .int n.pending.up),
    ("down_bytes", .int n.pending.down)] ++ morePending)),
  ("fatal_error", .optional (fun f => .text f.message) n.fatal)] ++ more)

def status (n : Node) : Json := n.statusWith [] []

/-- The status with its numbers of bytes also in a form for people. -/
def readableStatus (n : Node) : Except Fault Json := do
  let up ← ByteSize.ofInt n.pending.up
  let down ← ByteSize.ofInt n.pending.down
  let reported ← ByteSize.ofInt n.ledger.reported
  return n.statusWith [("up_fmt", .text up), ("down_fmt", .text down)]
    [("reported_fmt", .text reported)]

/-- Whether a node is starting or running. -/
def isHealthy (n : Node) : Bool := n.phase = .starting || n.phase = .running

def health (n : Node) : Json :=
  .record [("status", .text (if n.isHealthy then "ok" else n.phase.name))]

def usersListing (n : Node) : Json := .record [
  ("count", .count n.appliedIds.length),
  ("user_ids", .array (n.appliedIds.map .int))]

def pendingEntry (e : Entry) : Except Fault Json := do
  return .record [
    ("user_id", .int e.id),
    ("up_bytes", .int e.amount.up),
    ("down_bytes", .int e.amount.down),
    ("total_fmt", .text (← ByteSize.ofInt e.amount.total))]

/-- The waiting traffic, unless one of its numbers has too many digits. -/
def pendingListing (n : Node) : Except Fault Json := do
  let users ← n.pending.entries.mapM pendingEntry
  if n.pending.isWritable && n.pending.entries.all fun e => e.amount.isWritable then
    return .record [
      ("users", .array users),
      ("up_bytes", .int n.pending.up),
      ("down_bytes", .int n.pending.down)]
  else throw (.unexpected .unwritable)

/-- A page by its content, if it has one. -/
def shown : Except Fault Json → Int × Option Json
  | .ok v => (200, some v)
  | .error _ => (500, none)

/-- The status code and the content of a page; a page that cannot be shown is an internal error. -/
def page (n : Node) : Page → Int × Option Json
  | .health => (if n.isHealthy then 200 else 503, some n.health)
  | .users => (200, some n.usersListing)
  | .status => shown n.readableStatus
  | .pending => shown n.pendingListing

theorem page_health (n : Node) :
    (n.page .health).1 = 200 ↔ n.phase = .starting ∨ n.phase = .running := by
  have h : n.isHealthy = true ↔ n.phase = .starting ∨ n.phase = .running := by simp [isHealthy]
  rw [← h, page]
  split <;> simp [*]

end Node

end ProxyNode
