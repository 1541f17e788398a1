import ProxyNode.Config.Cipher
import ProxyNode.Config.Transport
import ProxyNode.Json.Whole

/-!
# Config — NodeConfig

What the panel tells a node to be, together with the local transport options, and how it is read
from the panel's answer.

* `requiresRestart_symm`: whether a change needs a restart does not depend on its direction.
-/

namespace ProxyNode

structure NodeConfig where
  port : Int
  cipher : Cipher
  serverKey : RawText
  pullInterval : Option Int := none
  pushInterval : Option Int := none
  transport : Transport := {}
  deriving DecidableEq, Repr

namespace NodeConfig

/-- The largest port. -/
def maxPort : Int := 65535

/-- A value as a positive whole number; an infinite one is an error, any other not a number. -/
def positive? (v : Json) : Except Fault (Option Int) :=
  match v.whole with
  | .ok i => .ok (if 0 < i then some i else none)
  | .error .infinite => .error (.unexpected .infinite)
  | .error _ => .ok none

/-- The port in an answer; a void value is port zero. -/
def readPort (v : Json) : Except Fault Int :=
  match (if v.isVoid then Json.int 0 else v).whole with
  | .error .infinite => .error (.unexpected .infinite)
  | .error _ => .error (.config (.badPort v.display))
  | .ok port => if port ≤ 0 ∨ maxPort < port then .error (.config .portRange) else .ok port

/-- The fields of the part of an answer that holds the intervals; a void part has none. -/
def readBase (v : Json) : Except Fault (List (RawText × Json)) :=
  if v.isVoid then .ok []
  else match v with
    | .object fields => .ok fields
    | other => .error (.unexpected (.noFields other.kindName "get"))

/-- The configuration in an answer of the panel. -/
def read (v : Json) (transport : Transport) : Except Fault NodeConfig :=
  match v with
  | .object fields => do
    let port ← readPort (Json.field "server_port" fields)
    let cipher ← Cipher.read (Json.field "cipher" fields)
    let serverKey := Json.field "server_key" fields
    if serverKey.isVoid then .error (.config .noServerKey)
    else
      let base ← readBase (Json.field "base_config" fields)
      let pullInterval ← positive? (Json.field "pull_interval" base)
      let pushInterval ← positive? (Json.field "push_interval" base)
      .ok ⟨port, cipher, serverKey.plain, pullInterval, pushInterval, transport⟩
  | _ => .error (.config .notAnObject)

/-- Whether an engine that runs with the one has to be restarted to run with the other; the
intervals alone do not matter to it. -/
def requiresRestart (new old : NodeConfig) : Bool :=
  (new.port, new.cipher, new.serverKey, new.transport)
    != (old.port, old.cipher, old.serverKey, old.transport)

theorem requiresRestart_eq_false_iff {new old : NodeConfig} :
    new.requiresRestart old = false ↔ new.port = old.port ∧ new.cipher = old.cipher
      ∧ new.serverKey = old.serverKey ∧ new.transport = old.transport := by
  simp [requiresRestart]

theorem requiresRestart_symm (a b : NodeConfig) :
    a.requiresRestart b = b.requiresRestart a :=
  bne_comm

end NodeConfig

end ProxyNode
