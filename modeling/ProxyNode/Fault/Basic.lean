import ProxyNode.Fault.Cause

/-!
# Fault — Basic

A fault by what follows from it.  A transient one is tried again, a rejected request never is, an
engine's refusal concerns one call, an unusable configuration is not applied, and an answer that
says nothing changed is a fault only where a change was asked for.

* `isTransient_iff`: only transient faults are tried again.
-/

namespace ProxyNode

inductive Fault where
  | transient (cause : TransientCause)
  | rejected (url : String) (status : Int) (body : String)
  | engine (cause : EngineCause)
  | config (cause : ConfigCause)
  | shortSecret (length required : Nat)
  | notModified (what : String)
  | spool (cause : SpoolCause)
  | unexpected (cause : Unexpected)
  deriving DecidableEq, Repr

namespace Fault

def message : Fault → String
  | .transient cause => cause.message
  | .rejected url status body =>
    s!"request {url} rejected: status {status}, body: {excerpt body}"
  | .engine cause => cause.message
  | .config cause => cause.message
  | .shortSecret length required =>
    s!"secret is {length} bytes, cipher requires at least {required}"
  | .notModified what => s!"{what} not modified"
  | .spool cause => cause.message
  | .unexpected cause => cause.message

/-- Whether the same call may be tried again. -/
def isTransient : Fault → Bool
  | .transient _ => true
  | _ => false

/-- Whether a configuration, a secret included, is at fault. -/
def isConfig : Fault → Bool
  | .config _ => true
  | .shortSecret .. => true
  | _ => false

/-- Whether the panel refused the node. -/
def isRejected : Fault → Bool
  | .rejected .. => true
  | _ => false

/-- Whether the fault is one that the node provides for. -/
def isExpected : Fault → Bool
  | .spool _ => false
  | .unexpected _ => false
  | _ => true

theorem isTransient_iff {f : Fault} : f.isTransient ↔ ∃ cause, f = .transient cause := by
  cases f <;> simp [isTransient]

theorem isRejected_iff {f : Fault} :
    f.isRejected ↔ ∃ url status body, f = .rejected url status body := by
  cases f <;> simp [isRejected]

end Fault

end ProxyNode
