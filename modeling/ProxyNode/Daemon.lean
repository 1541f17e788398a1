import ProxyNode.Config.Settings
import ProxyNode.Engine.Catalogue
import ProxyNode.Node.Life

/-!
# Daemon

The process around a node: settings from the environment, a node made from them, its run, and the
exit code.

* `run_of_badSettings`: a process whose settings are not usable ends before a node is made.
-/

namespace ProxyNode

/-- A line of the process's own log. -/
structure Line where
  level : Level
  text : String
  deriving DecidableEq, Repr

namespace Daemon

/-- What is on the disk: directories that are there already, the table in the file at the spool's
path, and the modules that an engine can be taken from. -/
structure Disk where
  directories : List String := []
  table : Option (List Row) := none
  modules : Engine.Modules := Engine.ownModules

/-- The spool of a node, at the path of the settings, with its table made, if there is a path. -/
def spoolOf (s : Settings) (disk : Disk) : Except Fault (Option Spool) :=
  if s.spoolPath = "" then .ok none
  else
    let spool : Spool := {
      place := .of disk.directories s.spoolPath
      table := disk.table }
    match spool.init with
    | (.error fault, _) => .error fault
    | (.ok (), spool) => .ok (some spool)

/-- A new node. -/
def assemble (s : Settings) (disk : Disk) : Except Fault Node := do
  let spool ← spoolOf s disk
  let engine ← Engine.load disk.modules s.engine
  return {
    plan := {
      retry := {
        attempts := s.retryAttempts
        base := s.retryBackoff
        ceiling := s.retryMaxBackoff }
      syncInterval := s.syncInterval
      reportInterval := s.reportInterval
      finalReportTimeout := s.finalReportTimeout }
    client := .make s.host s.nodeId s.nodeKey s.timeout s.transport
    engine := engine
    ledger := { spool := spool } }

/-- What a process meets with: the disk, the panel's answers, the waits until it is stopped, and what
the cycles do meanwhile. -/
structure Surroundings where
  disk : Disk := {}
  panel : Panel.Script := {}
  patience : Nat := 3
  activity : Node.Activity := {}

/-- How a process ended: its exit code or the fault that broke it off, its node if one was made,
where its status was served, the level of its log, and its own lines before and after those of the
node. -/
structure Ending where
  outcome : Except Fault Nat
  node : Option Node := none
  served : Option (String × Int) := none
  logLevel : String := "INFO"
  opening : List Line := []
  closing : List Line := []

def badSettings : Nat := 2

def ruler : String := String.ofList (List.replicate 50 '=')

/-- The lines with which a process introduces itself. -/
def banner (s : Settings) : List Line :=
  [ruler, "  NodeSync starting up", s!"  Panel     : {s.host}", s!"  Node ID   : {s.nodeId}",
    s!"  Engine    : {s.engine}", "  Spool     : " ++ (Settings.given s.spoolPath).getD "disabled",
    ruler].map fun text => ⟨.info, text⟩

def configurationError (fault : Fault) : Line :=
  ⟨.error, s!"Configuration error: {fault.message}"⟩

/-- Where the status is served, unless its port is zero. -/
def servedOf (s : Settings) : Option (String × Int) :=
  if s.statusPort = 0 then none else some (s.statusHost, s.statusPort)

def servedLine : String × Int → Line
  | (host, port) => ⟨.info, s!"Status API available at http://{host}:{port}/api/status"⟩

/-- Runs a node that was made from these settings. -/
def runNode (s : Settings) (node : Node) (around : Surroundings) : Ending :=
  let prepared := { node with
    panel := around.panel
    stop := { node.stop with patience := around.patience } }
  let (result, after) := prepared.run around.activity
  let ending : Ending := {
    outcome := .ok 0
    node := some after
    served := servedOf s
    logLevel := s.logLevel
    opening := banner s ++ ((servedOf s).map servedLine).toList }
  match result with
  | .ok clean => { ending with outcome := .ok (if clean then 0 else 1) }
  | .error fault =>
    if fault.isExpected then
      { ending with
        outcome := .ok 1
        closing := [⟨.error, s!"NodeSync stopped: {fault.message}"⟩] }
    else { ending with outcome := .error fault }

/-- Runs a process; `ready` is done to its node before that starts. -/
def runWith (ready : Node → Node) (env : Environment) (around : Surroundings) : Ending :=
  match Settings.ofEnvironment env with
  | .error cause =>
    { outcome := .ok badSettings, opening := [configurationError (.config cause)] }
  | .ok s =>
    match assemble s around.disk with
    | .ok node => runNode s (ready node) around
    | .error fault =>
      if fault.isConfig then
        { outcome := .ok badSettings
          logLevel := s.logLevel
          opening := banner s
          closing := [configurationError fault] }
      else { outcome := .error fault, logLevel := s.logLevel, opening := banner s }

/-- Runs a process. -/
def run : Environment → Surroundings → Ending := runWith id

theorem run_of_badSettings {env : Environment} {around : Surroundings} {cause : ConfigCause}
    (h : Settings.ofEnvironment env = .error cause) :
    (run env around).outcome = .ok badSettings ∧ (run env around).node = none := by
  simp [run, runWith, h]

end Daemon

end ProxyNode
