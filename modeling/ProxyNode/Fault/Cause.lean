import ProxyNode.Json.Reader

/-!
# Fault — Cause

What can go wrong, by the part of the node in which it does, with the wording of each cause.

* `TransientCause.message`, `ConfigCause.message`, `EngineCause.message`, `SpoolCause.message`,
  `Unexpected.message`: the wording, given in one place for each kind.
-/

namespace ProxyNode

/-- The first characters of an answer's body, as many as a message quotes. -/
def excerpt (body : String) : String := String.ofList (body.toList.take 200)

/-- Why a request may succeed later. -/
inductive TransientCause where
  | timedOut (url detail : String)
  | failed (url detail : String)
  | badStatus (url : String) (status : Int) (body : String)
  | unreadable (url : String) (fault : Json.ReadFault)
  | noUsersField
  deriving DecidableEq, Repr

def TransientCause.message : TransientCause → String
  | .timedOut url detail => s!"request {url} timed out: {detail}"
  | .failed url detail => s!"request {url} failed: {detail}"
  | .badStatus url status body => s!"request {url} failed: status {status}, body: {excerpt body}"
  | .unreadable url fault => s!"request {url} returned invalid JSON: {fault.message}"
  | .noUsersField => "users field not found"

/-- Why a configuration, whether from the panel or from the environment, is not usable.  Texts
called `shown` are quoted already. -/
inductive ConfigCause where
  | noCipher
  | unknownCipher (name : RawText)
  | notAnObject
  | badPort (shown : String)
  | portRange
  | noServerKey
  | keyLength (length : Int)
  | noUsableUsers
  | hostScheme (shown : String)
  | nodeId
  | nodeKey
  | integer (name shown : String)
  | number (name shown : String)
  | boolean (name shown : String)
  | choice (name shown : String)
  | notPositive (name : String)
  | logLevel (shown : String)
  | attempts
  | engineForm (shown : String)
  | engineLoad (shown why : String)
  | engineKind (spec : String)
  | engineBuild (shown why : String)
  deriving DecidableEq, Repr

def ConfigCause.message : ConfigCause → String
  | .noCipher => "Cipher not specified in server config"
  | .unknownCipher name => s!"Invalid cipher: {name.shown}"
  | .notAnObject => "node config must be a JSON object"
  | .badPort shown => s!"invalid server_port: {shown}"
  | .portRange => "server port must > 0"
  | .noServerKey => "Server key not specified in config"
  | .keyLength length => s!"key length must be positive, got {length}"
  | .noUsableUsers => "no usable user entries in panel response"
  | .hostScheme shown => s!"API_HOST must be an http(s) URL, got {shown}"
  | .nodeId => "NODE_ID must be a positive integer"
  | .nodeKey => "NODE_KEY is required"
  | .integer name shown => s!"{name} must be an integer, got {shown}"
  | .number name shown => s!"{name} must be a number, got {shown}"
  | .boolean name shown => s!"{name} must be a boolean, got {shown}"
  | .choice name shown => s!"invalid {name}: {shown}"
  | .notPositive name => s!"{name} must be positive"
  | .logLevel shown => s!"invalid LOG_LEVEL: {shown}"
  | .attempts => "RETRY_ATTEMPTS must be >= 1"
  | .engineForm shown => s!"ENGINE must be 'simulate' or 'module:ClassName', got {shown}"
  | .engineLoad shown why => s!"cannot load engine {shown}: {why}"
  | .engineKind spec => s!"{spec} is not a ProxyEngine"
  | .engineBuild shown why => s!"cannot construct engine {shown}: {why}"

/-- Why the proxy engine refused a call. -/
inductive EngineCause where
  | alreadyRunning
  | stale (handle : String)
  | keyLength (id : Int) (length : Nat)
  | registered (id : Int)
  | notRegistered (id : Int)
  | startRefused (port : Int)
  | stopRefused
  | addRefused (id : Int)
  | removeRefused (id : Int)
  deriving DecidableEq, Repr

def EngineCause.message : EngineCause → String
  | .alreadyRunning => "engine already running"
  | .stale handle => s!"stale engine handle: {handle}"
  | .keyLength id length => s!"user {id}: key length {length} does not match cipher"
  | .registered id => s!"user {id} already registered"
  | .notRegistered id => s!"user {id} not registered"
  | .startRefused port => s!"start {port} refused"
  | .stopRefused => "stop refused"
  | .addRefused id => s!"add {id} refused"
  | .removeRefused id => s!"remove {id} refused"

/-- Why the spool did not store, read or clear its rows. -/
inductive SpoolCause where
  | noTable
  | repeatedId
  | wideId
  | counter (fault : Numeral.Fault)
  | longCounter
  | cannotOpen
  | nullCharacter
  | device
  deriving DecidableEq, Repr

def SpoolCause.message : SpoolCause → String
  | .noTable => "no such table: pending_traffic"
  | .repeatedId => "UNIQUE constraint failed: pending_traffic.user_id"
  | .wideId => "Python int too large to convert to SQLite INTEGER"
  | .counter fault => fault.message
  | .longCounter => Numeral.unwritable
  | .cannotOpen => "unable to open database file"
  | .nullCharacter => "embedded null byte"
  | .device => "disk I/O error"

/-- What no part of the node expects: values of a kind or size that nothing provides for. -/
inductive Unexpected where
  | session (message : String)
  | noFields (kind field : String)
  | notAList (kind : String)
  | infinite
  | nan
  | notANumber (kind : String)
  | numeral (fault : Numeral.Fault)
  | unwritable
  | tooLarge
  | quotientTooLarge
  | tooDeep (fault : Json.ReadFault)
  | counterRange (counter : String) (value : Int)
  | shardCount
  | relativeModule (shown : String)
  | unencodable (why : Unencodable)
  | secondsRange
  | timeRange
  deriving DecidableEq, Repr

def Unexpected.message : Unexpected → String
  | .session message => message
  | .noFields kind field => s!"'{kind}' object has no attribute '{field}'"
  | .notAList kind => s!"'{kind}' object is not iterable"
  | .infinite => "cannot convert float infinity to integer"
  | .nan => "cannot convert float NaN to integer"
  | .notANumber kind =>
    s!"int() argument must be a string, a bytes-like object or a real number, not '{kind}'"
  | .numeral fault => fault.message
  | .unwritable => Numeral.unwritable
  | .tooDeep fault => fault.message
  | .tooLarge => "int too large to convert to float"
  | .quotientTooLarge => "integer division result too large for a float"
  | .counterRange counter value => s!"{counter} out of u64 range: {value}"
  | .shardCount => "shards must be positive"
  | .relativeModule shown =>
    s!"the 'package' argument is required to perform a relative import for {shown}"
  | .unencodable why => why.message
  | .secondsRange => "timestamp too large to convert to C _PyTime_t"
  | .timeRange => "timestamp out of range for platform time_t"

end ProxyNode
