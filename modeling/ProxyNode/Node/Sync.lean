import ProxyNode.Node.Fetch
import ProxyNode.Roster.Diff

/-!
# Node — Sync

The sync cycle: refresh the configuration, restarting the engine if need be, then fetch the users
and make the engine's users those that the panel lists.  Removals come before additions, and the
failure of one concerns no other user.

* `sync_of_busy`: while a cycle is under way another one does nothing.
-/

namespace ProxyNode.Node

/-- Notes how a sync cycle went. -/
def synced (n : Node) (ok : Bool) (message : String) : Node :=
  { n with roster := { n.roster with lastSync := some ⟨ok, message⟩ } }

/-- Lets go of the engine and of all users. -/
def release (n : Node) : Node :=
  { n with roster := { n.roster with handle := none, applied := .empty } }

/-- Stops the engine if the node holds one; a refusal does not keep the node from letting go. -/
def stopEngine (n : Node) : Node :=
  match n.roster.handle with
  | none => n
  | some h =>
    match n.call (.stop h) with
    | (some cause, n) => (n.note (.stopFailed (.engine cause))).release
    | (none, n) => n.release

/-- Starts the engine with these users; says whether it accepted. -/
def startEngine (n : Node) (config : NodeConfig) (users : OrderedMap Int User) : Bool × Node :=
  match n.call (.start config users.values) with
  | (some cause, n) => (false, (n.note (.startFailed (.engine cause))).release)
  | (none, n) =>
    let held : Node := { n with
      roster := { n.roster with handle := n.engine.latest, applied := users } }
    (true, held.note (.engineStarted users.size))

/-- Puts a configuration in the place of the present one. -/
def configured (n : Node) (config : NodeConfig) : Node :=
  { n with roster := { n.roster with config := some config } }

/-- Restarts the engine with a configuration, for the users that it has. -/
def restart (n : Node) (config : NodeConfig) : Except Fault Unit × Node :=
  let users := n.roster.applied.values
  let stopped := (n.note (.configChanged config.port config.cipher)).stopEngine.configured config
  match stopped.keyUsers config users with
  | (.error fault, n) => (.error fault, n)
  | (.ok keyed, n) => (.ok (), (n.startEngine config keyed).2)

/-- Takes a configuration on, with a restart only if the engine needs one. -/
def adopt (n : Node) (config : NodeConfig) : Except Fault Unit × Node :=
  match n.roster.config with
  | none => n.restart config
  | some old =>
    if config.requiresRestart old then n.restart config else (.ok (), n.configured config)

/-- Refreshes the configuration.  What cannot be fetched or used leaves it as it is. -/
def refresh (n : Node) : Except Fault Unit × Node :=
  match n.retrying n.plan.retry Panel.Endpoint.config.errand fetchConfig with
  | (.ok config, n) => n.adopt config
  | (.error (.notModified _), n) => (.ok (), n.note .configUnchanged)
  | (.error fault, n) =>
    if fault.isTransient then (.ok (), n.note (.refreshSkipped fault))
    else if fault.isConfig then (.ok (), n.note (.badConfig fault))
    else (.error fault, n)

/-- Removes users from the engine, one after the other; the result lists those it kept. -/
def removeAll (n : Node) (h : Engine.Handle) : List Int → List Int × Node
  | [] => ([], n)
  | id :: rest =>
    match n.call (.remove h id) with
    | (some cause, n) =>
      let (kept, n) := (n.note (.removeFailed id (.engine cause))).removeAll h rest
      (id :: kept, n)
    | (none, n) =>
      { n with roster := { n.roster with applied := n.roster.applied.erase id } }.removeAll h rest

/-- Adds users to the engine, except those that it kept; the result counts the refusals. -/
def addAll (n : Node) (h : Engine.Handle) (kept : List Int) : List User → Nat × Nat × Node
  | [] => (0, 0, n)
  | u :: rest =>
    if kept.contains u.id then n.addAll h kept rest
    else match n.call (.add h u.id u.key) with
      | (some cause, n) =>
        let (added, failures, n) := (n.note (.addFailed u.id (.engine cause))).addAll h kept rest
        (added, failures + 1, n)
      | (none, n) =>
        let registered : Node :=
          { n with roster := { n.roster with applied := n.roster.applied.insert u.id u } }
        let (added, failures, n) := registered.addAll h kept rest
        (added + 1, failures, n)

/-- Applies a change of the users; says whether nothing was refused. -/
def apply (n : Node) (h : Engine.Handle) (d : Diff) : Bool × Node :=
  let (kept, removed) := n.removeAll h d.remove
  let (added, refused, done) := removed.addAll h kept d.add
  let failures := kept.length + refused
  (failures == 0, done.note
    (.usersSynced (d.remove.length - kept.length) added failures done.roster.applied.size))

/-- Makes the engine's users those of a list that has some. -/
def reconcile (n : Node) (config : NodeConfig) (users : List User) : Except Fault Bool × Node :=
  match n.keyUsers config users with
  | (.error fault, n) => (.error fault, n)
  | (.ok keyed, n) =>
    match n.roster.handle with
    | none =>
      match n.startEngine config keyed with
      | (true, n) => (.ok true, n.synced true "engine restarted")
      | (false, n) => (.ok false, n.synced false "engine start failed")
    | some h =>
      let d := Diff.between n.roster.applied keyed.values
      if d.isEmpty then
        (.ok true, (n.note (.usersUnchanged n.roster.applied.size)).synced true "unchanged")
      else
        let (ok, n) := n.apply h d
        (.ok ok, n.synced ok s!"-{d.remove.length} +{d.add.length}")

/-- Goes on with a list of users; an empty one changes nothing. -/
def useUsers (n : Node) (users : List User) : Except Fault Bool × Node :=
  if users.isEmpty then (.ok false, (n.note .emptyList).synced false "empty user list")
  else
    let known : Node := { n with roster := { n.roster with fetched := some users } }
    match known.roster.config with
    | none => (.error (.unexpected (.noFields "NoneType" "cipher")), known)
    | some config => known.reconcile config users

/-- Fetches the users and applies them.  A list that did not change is applied again, so that what
was refused before is tried again. -/
def syncUsers (n : Node) : Except Fault Bool × Node :=
  match n.retrying n.plan.retry Panel.Endpoint.users.errand fetchUsers with
  | (.ok users, n) => n.useUsers users
  | (.error (.notModified _), n) =>
    match n.roster.fetched with
    | none => (.ok true, n)
    | some users => n.useUsers users
  | (.error fault, n) =>
    if fault.isTransient || fault.isConfig then
      (.ok false, (n.note (.syncSkipped fault)).synced false fault.message)
    else (.error fault, n)

/-- Notes the refusal that ended a sync cycle. -/
def syncFailed (n : Node) (fault : Fault) : Node :=
  if fault.isRejected then n.synced false fault.message else n

/-- One sync cycle; a fault means that the panel refused the node or that something unforeseen
happened. -/
def sync (n : Node) : Except Fault Bool × Node :=
  if n.roster.busy then (.ok false, n.note .stillSyncing)
  else match n.refresh with
    | (.error fault, n) => (.error fault, n.syncFailed fault)
    | (.ok (), n) =>
      match n.syncUsers with
      | (.error fault, n) => (.error fault, n.syncFailed fault)
      | (.ok ok, n) => (.ok ok, n)

theorem sync_of_busy {n : Node} (h : n.roster.busy = true) :
    n.sync = (.ok false, n.note .stillSyncing) := by
  simp [sync, h]

end ProxyNode.Node
