import ProxyNode.Config.Transport
import ProxyNode.Fault.Basic
import ProxyNode.Text.Case

/-!
# Config — Settings

The settings of a node, read from its environment.  Every value is stripped before it is looked at.
Where nothing is left of it, or the variable is not set, a number, a truth value or a mode has its
default; a text with a default is looked up with the default in the place of a variable that is not
set, and has it again in the place of an empty one.

* `given_eq_some_iff`: an empty text is as good as none.
-/

namespace ProxyNode

/-- The variables that are set. -/
abbrev Environment := String → Option String

namespace Environment

/-- The stripped value of a variable, or of the text that stands for it if it is not set. -/
def valueOr (env : Environment) (name default : String) : String :=
  Text.strip ((env name).getD default)

/-- The stripped value of a variable, empty if it is not set. -/
def value (env : Environment) (name : String) : String := env.valueOr name ""

end Environment

structure Settings where
  host : String
  nodeId : Int
  nodeKey : String
  timeout : Float := 5.0
  syncInterval : Option Int := none
  reportInterval : Option Int := none
  finalReportTimeout : Float := 5.0
  retryAttempts : Int := 3
  retryBackoff : Float := 1.0
  retryMaxBackoff : Float := 30.0
  statusHost : String := "127.0.0.1"
  statusPort : Int := 0
  spoolPath : String := ""
  engine : String := "simulate"
  logLevel : String := "INFO"
  transport : Transport := {}

namespace Settings

/-- What a variable is read as, or why it cannot be read. -/
abbrev Reading := Except ConfigCause

def integer? (env : Environment) (name : String) : Reading (Option Int) :=
  let raw := env.value name
  if raw = "" then .ok none
  else match Numeral.read raw with
    | .ok i => .ok (some i)
    | .error _ => .error (.integer name (Text.quote raw))

def integer (env : Environment) (name : String) (default : Int) : Reading Int :=
  (integer? env name).map fun i => i.getD default

def number (env : Environment) (name : String) (default : Float) : Reading Float :=
  let raw := env.value name
  if raw = "" then .ok default
  else match Decimal.readFloat raw with
    | some x => .ok x
    | none => .error (.number name (Text.quote raw))

/-- The words for a truth value. -/
def trueWords : List String := ["1", "true", "yes", "on"]

def falseWords : List String := ["0", "false", "no", "off"]

def boolean (env : Environment) (name : String) : Reading Bool :=
  let raw := Text.lower (env.value name)
  if raw = "" then .ok false
  else if raw ∈ trueWords then .ok true
  else if raw ∈ falseWords then .ok false
  else .error (.boolean name (Text.quote raw))

def mode (env : Environment) (name : String) : Reading Mode :=
  let raw := env.value name
  if raw = "" then .ok .tcpAndUdp
  else match Mode.ofName? (Text.lower raw) with
    | some m => .ok m
    | none => .error (.choice name (Text.quote raw))

/-- A text, unless it is empty. -/
def given (s : String) : Option String := if s = "" then none else some s

def textOr (env : Environment) (name default : String) : String :=
  (given (env.valueOr name default)).getD default

/-- Reads only the transport options. -/
def transportOfEnvironment (env : Environment) : Reading Transport := do
  return {
    mode := ← mode env "SS_MODE"
    timeout := ← integer env "SS_TIMEOUT" 300
    udpTimeout := ← integer env "SS_UDP_TIMEOUT" 300
    noDelay := ← boolean env "SS_NO_DELAY"
    fastOpen := ← boolean env "SS_FAST_OPEN"
    keepAlive := ← integer? env "SS_KEEP_ALIVE"
    mptcp := ← boolean env "SS_MPTCP"
    dns := given (env.value "SS_DNS")
    ipv6First := ← boolean env "SS_IPV6_FIRST"
    udpMaxAssociations := ← integer? env "SS_UDP_MAX_ASSOCIATIONS"
    udpMtu := ← integer env "SS_UDP_MTU" 1500
    timestampLimit := ← integer env "SS_TIMESTAMP_LIMIT" 30
    complyWithIncoming := ← boolean env "SS_COMPLY_WITH_INCOMING"
    relay := given (env.value "SS_RELAY") }

def logLevels : List String := ["DEBUG", "INFO", "WARNING", "ERROR", "CRITICAL"]

/-- Whether a text is the address of a web server. -/
def isWebAddress (s : String) : Bool :=
  "http://".toList.isPrefixOf s.toList || "https://".toList.isPrefixOf s.toList

/-- The host of the panel. -/
def hostOf (env : Environment) : Reading String :=
  let host := env.value "API_HOST"
  if isWebAddress host then .ok host else .error (.hostScheme (Text.quote host))

/-- The number of the node, which is positive. -/
def nodeIdOf (env : Environment) : Reading Int := do
  match ← integer? env "NODE_ID" with
  | none => .error .nodeId
  | some i => if i ≤ 0 then .error .nodeId else .ok i

def nodeKeyOf (env : Environment) : Reading String :=
  let key := env.value "NODE_KEY"
  if key = "" then .error .nodeKey else .ok key

/-- The settings before the values that are checked last. -/
def unchecked (env : Environment) : Reading Settings := do
  return {
    host := ← hostOf env
    nodeId := ← nodeIdOf env
    nodeKey := ← nodeKeyOf env
    timeout := ← number env "API_TIMEOUT" 5.0
    syncInterval := ← integer? env "SYNC_INTERVAL"
    reportInterval := ← integer? env "REPORT_INTERVAL"
    finalReportTimeout := ← number env "FINAL_REPORT_TIMEOUT" 5.0
    retryAttempts := ← integer env "RETRY_ATTEMPTS" 3
    retryBackoff := ← number env "RETRY_BACKOFF" 1.0
    retryMaxBackoff := ← number env "RETRY_MAX_BACKOFF" 30.0
    statusHost := textOr env "STATUS_HOST" "127.0.0.1"
    statusPort := ← integer env "STATUS_PORT" 0
    spoolPath := env.value "SPOOL_PATH"
    engine := textOr env "ENGINE" "simulate"
    logLevel := Text.upper (textOr env "LOG_LEVEL" "INFO")
    transport := ← transportOfEnvironment env }

/-- Whether an interval is positive, if there is one. -/
def isInterval : Option Int → Bool
  | none => true
  | some i => 0 < i

/-- The settings if the values that are checked last are in range. -/
def checked (s : Settings) : Reading Settings :=
  if !isInterval s.syncInterval then .error (.notPositive "SYNC_INTERVAL")
  else if !isInterval s.reportInterval then .error (.notPositive "REPORT_INTERVAL")
  else if s.logLevel ∉ logLevels then .error (.logLevel (Text.quote s.logLevel))
  else if s.retryAttempts < 1 then .error .attempts
  else .ok s

/-- Reads the settings of a node from its environment. -/
def ofEnvironment (env : Environment) : Reading Settings := do
  checked (← unchecked env)

theorem given_eq_some_iff {s t : String} : given s = some t ↔ s = t ∧ t ≠ "" := by
  unfold given
  by_cases h : s = ""
  · rw [if_pos h, h]
    exact ⟨nofun, fun ⟨ht, hne⟩ => absurd ht.symm hne⟩
  · rw [if_neg h, Option.some.injEq]
    exact ⟨fun ht => ⟨ht, ht ▸ h⟩, And.left⟩

end Settings

end ProxyNode
