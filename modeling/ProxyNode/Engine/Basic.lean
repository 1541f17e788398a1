import ProxyNode.Config.NodeConfig
import ProxyNode.Config.User
import ProxyNode.Data.OrderedMap
import ProxyNode.Traffic.Snapshot

/-!
# Engine — Basic

A proxy engine that keeps a registry of users in memory.  Each start makes a new instance, and a
handle names one instance for good; only the latest can run, and a handle to any other is stale.

* `Work`: what the engine does step by step; what was changed before a refusal stays changed.
* `check_eq_ok_iff`: which handles are accepted.
* `run_start`, `run_stop`, `run_add`, `run_remove`: what the work comes to, with the engine that is
  left when it is refused.
* `start_eq`, `stop_eq`, `add_eq`, `remove_eq`: the engine after each call that is done.
* `isExpected_withoutHandle`: a missing handle is provided for once the engine was started.
-/

namespace ProxyNode

namespace Engine

/-- One start of the engine. -/
structure Instance where
  config : NodeConfig
  running : Bool
  deriving DecidableEq, Repr

/-- A handle names an instance by how many were started before it. -/
abbrev Handle := Nat

/-- What the engine can be asked for; all but a start is asked of one instance. -/
inductive Call where
  | start (config : NodeConfig) (users : List User)
  | stop (handle : Handle)
  | add (handle : Handle) (id : Int) (key : List UInt8)
  | remove (handle : Handle) (id : Int)
  deriving DecidableEq, Repr

/-- The fault of a call that is refused from outside. -/
def Call.refusal : Call → EngineCause
  | .start config _ => .startRefused config.port
  | .stop _ => .stopRefused
  | .add _ id _ => .addRefused id
  | .remove _ id => .removeRefused id

end Engine

/-- Instances in the order of their starts, the registered keys, those who listen for traffic, and
whether and how often traffic is made up for a demonstration. -/
structure Engine where
  instances : List Engine.Instance := []
  users : OrderedMap Int (List UInt8) := .empty
  listeners : List String := []
  generatesTraffic : Bool := false
  tick : Float := 0.05

namespace Engine

/-- The handle of the latest instance. -/
def latest (e : Engine) : Option Handle :=
  match e.instances.length with
  | 0 => none
  | n + 1 => some n

/-- Whether the instance of a handle exists and runs. -/
def isRunning (e : Engine) (h : Handle) : Bool :=
  match e.instances[h]? with
  | some i => i.running
  | none => false

def truthWord (b : Bool) : String := if b then "True" else "False"

/-- What stands in a message for a handle that is missing. -/
def noHandle : String := "None"

/-- A handle in a message. -/
def displayHandle (e : Engine) (h : Handle) : String :=
  match e.instances[h]? with
  | none => noHandle
  | some i => s!"EngineHandle(port={i.config.port}, running={truthWord i.running})"

/-- The instance of a handle, if it is the latest and runs. -/
def check (e : Engine) (h : Handle) : Except EngineCause Instance :=
  if e.latest = some h then
    match e.instances[h]? with
    | some i => if i.running then .ok i else .error (.stale (e.displayHandle h))
    | none => .error (.stale (e.displayHandle h))
  else .error (.stale (e.displayHandle h))

/-- Whether the latest instance runs. -/
def anyRunning (e : Engine) : Bool :=
  match e.latest with
  | some h => e.isRunning h
  | none => false

/-- Work on an engine.  It may be refused on the way, and what it changed before stays changed. -/
abbrev Work := EStateM EngineCause Engine

namespace Work

/-- The engine after some work, if it was not refused. -/
def outcome {α : Type} (w : Work α) (e : Engine) : Except EngineCause Engine :=
  match w.run e with
  | .ok _ e' => .ok e'
  | .error cause _ => .error cause

/-- Looks up the instance of a handle, which has to be the latest and to run. -/
def check (h : Handle) : Work Instance := do
  match (← get).check h with
  | .ok i => return i
  | .error cause => throw cause

/-- Starts a new instance with these users and gives out its handle. -/
def start (config : NodeConfig) (users : List User) : Work Handle := do
  if (← get).anyRunning then throw .alreadyRunning
  let handle := (← get).instances.length
  modify fun e => { e with users := .ofList (users.map fun u => (u.id, u.key)) }
  modify fun e => { e with instances := e.instances ++ [⟨config, true⟩] }
  return handle

def stop (h : Handle) : Work Unit := do
  let i ← check h
  modify fun e => { e with instances := e.instances.set h { i with running := false } }

def add (h : Handle) (id : Int) (key : List UInt8) : Work Unit := do
  let i ← check h
  if key.length ≠ i.config.cipher.keyLength then throw (.keyLength id key.length)
  if (← get).users.contains id then throw (.registered id)
  modify fun e => { e with users := e.users.insert id key }

/-- Takes a user out and only then sees whether there was one. -/
def remove (h : Handle) (id : Int) : Work Unit := do
  let _ ← check h
  let known := (← get).users.contains id
  modify fun e => { e with users := e.users.erase id }
  unless known do throw (.notRegistered id)

/-- What a call does.  A start gives out a handle. -/
def ofCall : Call → Work (Option Handle)
  | .start config users => some <$> start config users
  | .stop h => (fun _ => none) <$> stop h
  | .add h id key => (fun _ => none) <$> add h id key
  | .remove h id => (fun _ => none) <$> remove h id

end Work

/-- Starts a new instance with these users. -/
def start (e : Engine) (config : NodeConfig) (users : List User) : Except EngineCause Engine :=
  (Work.start config users).outcome e

def stop (e : Engine) (h : Handle) : Except EngineCause Engine := (Work.stop h).outcome e

def add (e : Engine) (h : Handle) (id : Int) (key : List UInt8) : Except EngineCause Engine :=
  (Work.add h id key).outcome e

def remove (e : Engine) (h : Handle) (id : Int) : Except EngineCause Engine :=
  (Work.remove h id).outcome e

/-- The engine after a call. -/
def perform (e : Engine) : Call → Except EngineCause Engine
  | .start config users => e.start config users
  | .stop h => e.stop h
  | .add h id key => e.add h id key
  | .remove h id => e.remove h id

/-- The fault of a call that needs a handle and is given none.  Before the first start there is no
instance that a missing handle could be told from, and its state is asked for in vain. -/
def withoutHandle (e : Engine) : Fault :=
  match e.latest with
  | none => .unexpected (.noFields "NoneType" "running")
  | some _ => .engine (.stale noHandle)

/-- The engine after a call by one who may have no handle. -/
def performWith (e : Engine) (handle : Option Handle) (call : Handle → Call) :
    Except Fault Engine :=
  match handle with
  | none => .error e.withoutHandle
  | some h =>
    match e.perform (call h) with
    | .ok e => .ok e
    | .error cause => .error (.engine cause)

/-- One more listener for traffic. -/
def listen (e : Engine) (name : String) : Engine := { e with listeners := e.listeners ++ [name] }

/-- What the listeners get of a delta, in the order in which they began to listen. -/
def emit (e : Engine) (d : Delta) : List (String × Delta) := e.listeners.map fun l => (l, d)

theorem check_eq_ok_iff {e : Engine} {h : Handle} {i : Instance} :
    e.check h = .ok i
      ↔ e.latest = some h ∧ e.instances[h]? = some i ∧ i.running = true := by
  unfold check
  split
  · next hl =>
    split
    · next j hj =>
      split
      · next hr =>
        constructor
        · intro h
          cases h
          exact ⟨hl, hj, hr⟩
        · rintro ⟨-, hi, -⟩
          exact congrArg Except.ok (Option.some.inj (hj.symm.trans hi))
      · next hr =>
        constructor
        · intro h
          cases h
        · rintro ⟨-, hi, hir⟩
          rw [hj] at hi
          cases hi
          exact absurd hir hr
    · next hj =>
      constructor
      · intro h
        cases h
      · rintro ⟨-, hi, -⟩
        rw [hj] at hi
        cases hi
  · next hl =>
    constructor
    · intro h
      cases h
    · rintro ⟨hl', -, -⟩
      exact absurd hl' hl

/-! ### What the work comes to -/

section Work

variable {e : Engine} {α β : Type}

theorem run_bind (w : Work α) (f : α → Work β) :
    (w >>= f).run e = match w.run e with
      | .ok a e' => (f a).run e'
      | .error cause e' => .error cause e' := by
  show EStateM.bind w f e = _
  unfold EStateM.bind EStateM.run
  cases w e <;> rfl

theorem run_get : (get : Work Engine).run e = .ok e e := rfl

theorem run_modify (f : Engine → Engine) : (modify f : Work Unit).run e = .ok () (f e) := rfl

theorem run_throw (cause : EngineCause) : (throw cause : Work α).run e = .error cause e := rfl

theorem run_check (h : Handle) : (Work.check h).run e = match e.check h with
    | .ok i => .ok i e
    | .error cause => .error cause e := by
  rw [Work.check, run_bind, run_get]
  dsimp only
  cases e.check h <;> rfl

theorem run_start (config : NodeConfig) (users : List User) :
    (Work.start config users).run e
      = if e.anyRunning then .error .alreadyRunning e
        else .ok e.instances.length { e with
          instances := e.instances ++ [⟨config, true⟩]
          users := .ofList (users.map fun u => (u.id, u.key)) } := by
  rw [Work.start, run_bind, run_get]
  dsimp only
  split <;> rfl

theorem run_stop (h : Handle) : (Work.stop h).run e = match e.check h with
    | .ok i => .ok () { e with instances := e.instances.set h { i with running := false } }
    | .error cause => .error cause e := by
  rw [Work.stop, run_bind, run_check]
  cases e.check h <;> rfl

theorem run_add (h : Handle) (id : Int) (key : List UInt8) :
    (Work.add h id key).run e = match e.check h with
      | .ok i =>
        if key.length ≠ i.config.cipher.keyLength then .error (.keyLength id key.length) e
        else if e.users.contains id then .error (.registered id) e
        else .ok () { e with users := e.users.insert id key }
      | .error cause => .error cause e := by
  rw [Work.add, run_bind, run_check]
  cases e.check h with
  | error cause => rfl
  | ok i =>
    dsimp only
    split
    · rfl
    · rw [run_bind, run_get]
      dsimp only
      split <;> rfl

/-- Nothing is taken out where there was nothing. -/
theorem run_remove (h : Handle) (id : Int) : (Work.remove h id).run e = match e.check h with
    | .ok _ =>
      if e.users.contains id then .ok () { e with users := e.users.erase id }
      else .error (.notRegistered id) e
    | .error cause => .error cause e := by
  rw [Work.remove, run_bind, run_check]
  cases e.check h with
  | error cause => rfl
  | ok i =>
    dsimp only
    rw [run_bind, run_get]
    dsimp only
    rw [run_bind, run_modify]
    dsimp only
    split
    · rfl
    · next hu =>
      -- nobody was there to be taken out, so the users are the same although the call is refused
      have hnone : e.users.get? id = none := by simpa [OrderedMap.contains] using hu
      rw [OrderedMap.erase_of_get?_eq_none hnone, run_throw]

theorem start_eq (config : NodeConfig) (users : List User) :
    e.start config users
      = if e.anyRunning then .error .alreadyRunning
        else .ok { e with
          instances := e.instances ++ [⟨config, true⟩]
          users := .ofList (users.map fun u => (u.id, u.key)) } := by
  rw [start, Work.outcome, run_start]
  by_cases hr : e.anyRunning = true
  · rw [if_pos hr, if_pos hr]
  · rw [if_neg hr, if_neg hr]

theorem stop_eq (h : Handle) : e.stop h = match e.check h with
    | .error cause => .error cause
    | .ok i => .ok { e with instances := e.instances.set h { i with running := false } } := by
  rw [stop, Work.outcome, run_stop]
  cases e.check h <;> rfl

theorem add_eq (h : Handle) (id : Int) (key : List UInt8) :
    e.add h id key = match e.check h with
      | .error cause => .error cause
      | .ok i =>
        if key.length ≠ i.config.cipher.keyLength then .error (.keyLength id key.length)
        else if e.users.contains id then .error (.registered id)
        else .ok { e with users := e.users.insert id key } := by
  rw [add, Work.outcome, run_add]
  cases e.check h with
  | error cause => rfl
  | ok i =>
    dsimp only
    by_cases hk : key.length ≠ i.config.cipher.keyLength
    · rw [if_pos hk, if_pos hk]
    · rw [if_neg hk, if_neg hk]
      by_cases hu : e.users.contains id = true
      · rw [if_pos hu, if_pos hu]
      · rw [if_neg hu, if_neg hu]

theorem remove_eq (h : Handle) (id : Int) : e.remove h id = match e.check h with
    | .error cause => .error cause
    | .ok _ =>
      if e.users.contains id then .ok { e with users := e.users.erase id }
      else .error (.notRegistered id) := by
  rw [remove, Work.outcome, run_remove]
  cases e.check h with
  | error cause => rfl
  | ok i =>
    dsimp only
    by_cases hu : e.users.contains id = true
    · rw [if_pos hu, if_pos hu]
    · rw [if_neg hu, if_neg hu]

end Work

theorem isExpected_withoutHandle (e : Engine) :
    e.withoutHandle.isExpected = true ↔ e.instances ≠ [] := by
  unfold withoutHandle latest
  cases e.instances <;> simp [Fault.isExpected]

end Engine

end ProxyNode
