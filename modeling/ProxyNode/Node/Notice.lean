import ProxyNode.Config.NodeConfig
import ProxyNode.Number.Fixed
import ProxyNode.Panel.Exchange

/-!
# Node — Notice

What a node writes to its log, as data, with the level and the wording of each notice.
-/

namespace ProxyNode

/-- The two cycles of a running node. -/
inductive Cycle where
  | sync
  | report
  deriving DecidableEq, Repr

def Cycle.name : Cycle → String
  | .sync => "sync"
  | .report => "report"

inductive Level where
  | debug
  | info
  | warning
  | error
  | critical
  deriving DecidableEq, Repr

def Level.name : Level → String
  | .debug => "DEBUG"
  | .info => "INFO"
  | .warning => "WARNING"
  | .error => "ERROR"
  | .critical => "CRITICAL"

inductive Notice where
  | malformedUser (item : Json)
  | retrying (errand : String) (fault : Fault) (delay : Float)
  | notReady (errand : String) (fault : Fault)
  | fatal (fault : Fault)
  | noUsers
  | nodeStarted (port : Int) (cipher : Cipher) (users : Nat) (pull push : Int)
  | spoolRestored (users : Nat) (up down : Int)
  | spoolNotCleared (fault : Fault)
  | userSkipped (id : Int) (fault : Fault)
  | cycleFailed (cycle : Cycle) (fault : Fault)
  | stillSyncing
  | refreshSkipped (fault : Fault)
  | badConfig (fault : Fault)
  | configUnchanged
  | configChanged (port : Int) (cipher : Cipher)
  | stopFailed (fault : Fault)
  | startFailed (fault : Fault)
  | engineStarted (users : Nat)
  | syncSkipped (fault : Fault)
  | emptyList
  | usersUnchanged (active : Nat)
  | removeFailed (id : Int) (fault : Fault)
  | addFailed (id : Int) (fault : Fault)
  | usersSynced (removed added failures active : Nat)
  | nothingToPush
  | reportRejected (entries : Nat) (fault : Fault)
  | reportFailed (entries : Nat) (fault : Fault)
  | pushed (users : Nat) (up down : Int)
  | shuttingDown
  | finalReportFailed
  | spoolFailed (fault : Fault)
  | dropped (users : Nat) (up down : Int) (spooled : Bool)
  | shutDown

namespace Notice

/-- Whether a notice is about the panel's answers rather than the node itself. -/
def fromPanel : Notice → Bool
  | .malformedUser _ => true
  | _ => false

def level : Notice → Level
  | .configUnchanged | .usersUnchanged _ | .nothingToPush => .debug
  | .nodeStarted .. | .spoolRestored .. | .configChanged .. | .engineStarted _ | .usersSynced ..
  | .pushed .. | .shuttingDown | .shutDown => .info
  | .malformedUser _ | .retrying .. | .noUsers | .userSkipped .. | .stillSyncing
  | .refreshSkipped _ | .syncSkipped _ | .emptyList | .reportFailed .. | .finalReportFailed =>
    .warning
  | .notReady .. | .spoolNotCleared _ | .cycleFailed .. | .badConfig _ | .stopFailed _
  | .startFailed _ | .removeFailed .. | .addFailed .. | .reportRejected .. | .spoolFailed _
  | .dropped .. => .error
  | .fatal _ => .critical

def text : Notice → String
  | .malformedUser item => s!"Skipping malformed user entry: {item.display}"
  | .retrying errand fault delay =>
    s!"{errand} failed: {fault.message}; retrying in {Binary64.fixed 1 delay}s"
  | .notReady errand fault => s!"Cannot {errand} yet: {fault.message}"
  | .fatal fault => s!"Fatal: {fault.message}"
  | .noUsers => "Panel returned no users; starting with an empty user set"
  | .nodeStarted port cipher users pull push =>
    s!"Node started: port={port}, cipher={cipher.name}, users={users}, pull={pull}s, push={push}s"
  | .spoolRestored users up down =>
    s!"Restored spooled traffic for {users} users (up={up}, down={down})"
  | .spoolNotCleared fault =>
    s!"Failed to clear traffic spool, it may be reported again: {fault.message}"
  | .userSkipped id fault => s!"Skipping user {id}: {fault.message}"
  | .cycleFailed cycle fault => s!"{cycle.name} cycle error: {fault.message}"
  | .stillSyncing => "Previous sync cycle still running, skipping this tick"
  | .refreshSkipped fault => s!"Skipping node config refresh: {fault.message}"
  | .badConfig fault => s!"Panel sent an invalid node config, keeping current one: {fault.message}"
  | .configUnchanged => "Node config not modified"
  | .configChanged port cipher =>
    s!"Node config changed (port={port}, cipher={cipher.name}); restarting engine"
  | .stopFailed fault => s!"Engine stop failed: {fault.message}"
  | .startFailed fault => s!"Engine start failed, will retry next cycle: {fault.message}"
  | .engineStarted users => s!"Engine started with {users} users"
  | .syncSkipped fault => s!"Skipping user sync: {fault.message}"
  | .emptyList => "Panel returned an empty user list; keeping current users"
  | .usersUnchanged active => s!"Users unchanged ({active} active)"
  | .removeFailed id fault => s!"Failed to remove user {id}: {fault.message}"
  | .addFailed id fault => s!"Failed to add user {id}: {fault.message}"
  | .usersSynced removed added failures active =>
    s!"Users synced: -{removed} +{added}, {failures} failed, {active} active"
  | .nothingToPush => "No traffic data to push"
  | .reportRejected entries fault =>
    s!"Traffic report rejected, keeping {entries} entries for retry: {fault.message}"
  | .reportFailed entries fault =>
    s!"Traffic report failed, keeping {entries} entries for retry: {fault.message}"
  | .pushed users up down => s!"Traffic pushed for {users} users (up={up}, down={down})"
  | .shuttingDown => "Shutting down: waiting for in-flight cycles"
  | .finalReportFailed => "Final traffic report failed"
  | .spoolFailed fault => s!"Failed to spool unreported traffic: {fault.message}"
  | .dropped users up down spooled =>
    let hint := if spooled then "" else "; set SPOOL_PATH to keep it across restarts"
    s!"Dropping unreported traffic for {users} users (up={up}, down={down})" ++ hint
  | .shutDown => "Shutdown complete"

end Notice

end ProxyNode
