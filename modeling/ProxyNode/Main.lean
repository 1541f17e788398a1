import ProxyNode.Panel.Transcript
import ProxyNode.Daemon

/-!
# Main

The command line.  Settings come from the environment; the panel's answers, the rows of the spool
and the number of waits until the node is stopped come as one JSON text on standard input.  The log
goes to standard error.
-/

namespace ProxyNode.Main

open Panel

/-- The variables that the settings are read from. -/
def variableNames : List String :=
  ["API_HOST", "NODE_ID", "NODE_KEY", "API_TIMEOUT", "SYNC_INTERVAL", "REPORT_INTERVAL",
    "FINAL_REPORT_TIMEOUT", "RETRY_ATTEMPTS", "RETRY_BACKOFF", "RETRY_MAX_BACKOFF", "STATUS_HOST",
    "STATUS_PORT", "SPOOL_PATH", "ENGINE", "LOG_LEVEL", "SS_MODE", "SS_TIMEOUT", "SS_UDP_TIMEOUT",
    "SS_NO_DELAY", "SS_FAST_OPEN", "SS_KEEP_ALIVE", "SS_MPTCP", "SS_DNS", "SS_IPV6_FIRST",
    "SS_UDP_MAX_ASSOCIATIONS", "SS_UDP_MTU", "SS_TIMESTAMP_LIMIT", "SS_COMPLY_WITH_INCOMING",
    "SS_RELAY"]

/-- What the process meets with, from its standard input. -/
def surroundings (v : Json) : Daemon.Surroundings where
  disk := {
    directories := ["/tmp"]
    table := (Transcript.field? "spool" v).map fun rows =>
      (Transcript.entries rows).map Transcript.row }
  panel := Transcript.script v
  patience := (((Transcript.field? "max_waits" v).bind Transcript.int?).getD 3).toNat

/-- How much a level matters. -/
def rank : String → Nat
  | "DEBUG" => 0
  | "INFO" => 1
  | "WARNING" => 2
  | "ERROR" => 3
  | _ => 4

/-- The lines of the whole log that the level lets through. -/
def logLines (ending : Daemon.Ending) : List String :=
  let line (source : String) (level : Level) (text : String) : List String :=
    if rank ending.logLevel ≤ rank level.name then [s!"[{level.name}] {source}: {text}"] else []
  let own (l : Line) := line "nodesync" l.level l.text
  let event : Event → List String
    | .noted notice =>
      line (if notice.fromPanel then "nodesync.panel" else "nodesync.controller") notice.level
        notice.text
    | _ => []
  let journal := (ending.node.map fun n => n.journal.reverse).getD []
  ending.opening.flatMap own ++ journal.flatMap event ++ ending.closing.flatMap own

end ProxyNode.Main

open ProxyNode in
def main : IO UInt32 := do
  let mut env : List (String × String) := []
  for name in Main.variableNames do
    if let some value ← IO.getEnv name then
      env := (name, value) :: env
  let input ← (← IO.getStdin).readToEnd
  match Json.read input with
  | .error fault =>
    IO.eprintln fault.message
    return 1
  | .ok v =>
    let settings := env
    let ending := Daemon.run (fun name => settings.lookup name) (Main.surroundings v)
    for line in Main.logLines ending do
      IO.eprintln line
    match ending.outcome with
    | .ok code => return UInt32.ofNat code
    | .error fault =>
      IO.eprintln fault.message
      return 1
