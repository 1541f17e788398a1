import ProxyNode.Config.User
import ProxyNode.Data.OrderedMap

/-!
# Roster — Keyed

Keys for a list of users.  A node that starts takes every secret or none; a node that runs leaves
out the users whose last secret is too short.  A secret without bytes breaks either off.

* `keyAllFrom_cons`: a user with a key is taken in before the rest of the list is looked at.
* `step_of_broken`: what is broken off stays as it is.
-/

namespace ProxyNode

/-- Keys for all users; the first secret that has none is a fault. -/
def keyAllFrom (length : Nat) (keyed : OrderedMap Int User) :
    List User → Except Fault (OrderedMap Int User)
  | [] => .ok keyed
  | u :: rest =>
    match u.keyed length with
    | .error fault => .error fault
    | .ok k => keyAllFrom length (keyed.insert u.id k) rest

def keyAll (length : Nat) (users : List User) : Except Fault (OrderedMap Int User) :=
  keyAllFrom length .empty users

/-- Users with keys, those left out, in the order they were met, with the reason, and the fault with
which the keying was broken off, if it was. -/
structure Keyed where
  users : OrderedMap Int User := .empty
  skipped : List (Int × Fault) := []
  broken : Option Fault := none
  deriving DecidableEq, Repr

/-- Takes one more user in, or leaves it out together with its earlier entry.  Only a fault of the
secret's own kind leaves a user out; any other breaks the keying off. -/
def Keyed.step (length : Nat) (k : Keyed) (u : User) : Keyed :=
  if k.broken.isSome then k
  else match u.keyed length with
    | .ok v => { k with users := k.users.insert u.id v }
    | .error fault =>
      if fault.isConfig then
        { k with users := k.users.erase u.id, skipped := k.skipped ++ [(u.id, fault)] }
      else { k with broken := some fault }

/-- Keys for the users that can have one. -/
def keySome (length : Nat) (users : List User) : Keyed := users.foldl (Keyed.step length) {}

/-- The users with keys, unless the keying was broken off. -/
def Keyed.result (k : Keyed) : Except Fault (OrderedMap Int User) :=
  match k.broken with
  | none => .ok k.users
  | some fault => .error fault

theorem keyAllFrom_cons {length : Nat} {keyed : OrderedMap Int User} {u k : User}
    {rest : List User} (h : u.keyed length = .ok k) :
    keyAllFrom length keyed (u :: rest) = keyAllFrom length (keyed.insert u.id k) rest := by
  simp [keyAllFrom, h]

theorem Keyed.step_of_broken {length : Nat} {k : Keyed} {u : User} (h : k.broken.isSome) :
    k.step length u = k := by
  simp [step, h]

end ProxyNode
