import ProxyNode.Proofs.Node.Refusals

/-!
# Node — Halves, a sync cycle request by request

A sync cycle is two requests, each followed by what is made of its answer.

* `refresh_eq`, `syncUsers_eq`, `sync_eq`: the cycle and its halves as such.
* `Settles.afterConfig`, `Settles.afterUsers`: what is kept after a request.
* `heeds_refresh`, `heeds_syncUsers`, `heeds_sync`: the stop signal is left alone after a request.
-/

namespace ProxyNode.Node

/-- What is made of an answer for the configuration. -/
def afterConfig : Except Fault NodeConfig × Node → Except Fault Unit × Node
  | (.ok config, n) => n.adopt config
  | (.error (.notModified _), n) => (.ok (), n.note .configUnchanged)
  | (.error fault, n) =>
    if fault.isTransient then (.ok (), n.note (.refreshSkipped fault))
    else if fault.isConfig then (.ok (), n.note (.badConfig fault))
    else (.error fault, n)

/-- What is made of an answer for the users. -/
def afterUsers : Except Fault (List User) × Node → Except Fault Bool × Node
  | (.ok users, n) => n.useUsers users
  | (.error (.notModified _), n) =>
    match n.roster.fetched with
    | none => (.ok true, n)
    | some users => n.useUsers users
  | (.error fault, n) =>
    if fault.isTransient || fault.isConfig then
      (.ok false, (n.note (.syncSkipped fault)).synced false fault.message)
    else (.error fault, n)

/-- How a sync cycle ends. -/
def endSync : Except Fault Bool × Node → Except Fault Bool × Node
  | (.error fault, n) => (.error fault, n.syncFailed fault)
  | (.ok ok, n) => (.ok ok, n)

/-- How a sync cycle goes on when the configuration has been refreshed. -/
def afterRefresh : Except Fault Unit × Node → Except Fault Bool × Node
  | (.error fault, n) => (.error fault, n.syncFailed fault)
  | (.ok (), n) => endSync n.syncUsers

theorem refresh_eq (n : Node) : n.refresh = afterConfig n.configFetch := rfl

theorem syncUsers_eq (n : Node) : n.syncUsers = afterUsers n.userFetch := rfl

theorem sync_eq {n : Node} (h : n.roster.busy = false) : n.sync = afterRefresh n.refresh := by
  unfold sync
  rw [if_neg (Bool.eq_false_iff.mp h)]
  rfl

theorem useUsers_of_unconfigured {n : Node} {users : List User} (hc : n.roster.config = none)
    (hne : users ≠ []) :
    n.useUsers users
      = (.error (.unexpected (.noFields "NoneType" "cipher")), n.knowing users) := by
  unfold useUsers
  rw [if_neg (by simpa using hne)]
  dsimp only
  split
  · rfl
  · next known hsome => exact absurd (hc.symm.trans hsome) nofun

namespace Settles

variable {P : Node → Prop}

theorem afterConfig (hp : Settles P) {x : Except Fault NodeConfig × Node} (h : P x.2) :
    P (afterConfig x).2 := by
  unfold Node.afterConfig
  split
  · exact hp.adopt _ h
  · exact hp.note _ rfl h
  · split
    · exact hp.note _ rfl h
    · split
      · exact hp.note _ rfl h
      · exact h

theorem afterUsers (hp : Settles P) {x : Except Fault (List User) × Node} (h : P x.2) :
    P (afterUsers x).2 := by
  unfold Node.afterUsers
  split
  · exact hp.useUsers h _
  · split
    · exact h
    · exact hp.useUsers h _
  · split
    · exact hp.synced (hp.note _ rfl h) _ _
    · exact h

theorem endSync (hp : Settles P) {x : Except Fault Bool × Node} (h : P x.2) :
    P (endSync x).2 := by
  unfold Node.endSync
  split
  · exact hp.syncFailed h _
  · exact h

end Settles

theorem Cycles.afterRefresh {P : Node → Prop} (hp : Cycles P) {x : Except Fault Unit × Node}
    (h : P x.2) : P (afterRefresh x).2 := by
  unfold Node.afterRefresh
  split
  · exact hp.syncFailed h _
  · exact hp.endSync (hp.syncUsers h)

/-! ### The stop signal -/

theorem heeds_refresh (n : Node) : Heeds n.configFetch.2 n.refresh.2 :=
  (passes_heeds _).cycles.afterConfig (.refl _)

theorem heeds_syncUsers (n : Node) : Heeds n.userFetch.2 n.syncUsers.2 :=
  (passes_heeds _).cycles.afterUsers (.refl _)

theorem heeds_afterRefresh (x : Except Fault Unit × Node) : Heeds x.2 (afterRefresh x).2 :=
  (passes_heeds _).cycles.afterRefresh (.refl _)

theorem heeds_endSync (x : Except Fault Bool × Node) : Heeds x.2 (endSync x).2 :=
  (passes_heeds _).cycles.endSync (.refl _)

end ProxyNode.Node
