import ProxyNode.Config.User
import ProxyNode.Data.OrderedMap
import ProxyNode.Data.SortBy

/-!
# Roster — Diff

What has to change for the users that an engine has to become those that the panel lists.  The
engine knows a user by one key, so a user whose secret changed is removed and added again; all
removals come before all additions.

* `isEmpty_iff`: nothing has to change exactly if nobody is removed and nobody is added.
-/

namespace ProxyNode

/-- The users by number; of a user listed twice the last entry counts, in the place of the first. -/
def latest (users : List User) : OrderedMap Int User :=
  .ofList (users.map fun u => (u.id, u))

structure Diff where
  remove : List Int
  add : List User
  deriving DecidableEq, Repr

namespace Diff

/-- Whether the engine's entry for a user, if any, has another secret. -/
def isChanged (current : OrderedMap Int User) (u : User) : Bool :=
  match current.get? u.id with
  | none => false
  | some old => old.secret != u.secret

/-- Whether a user has to be added, be it because it is new or because its secret changed. -/
def isWanted (current : OrderedMap Int User) (u : User) : Bool :=
  !current.contains u.id || isChanged current u

/-- The change from `current` to the listed users. -/
def between (current : OrderedMap Int User) (fetched : List User) : Diff :=
  let listed := latest fetched
  let gone := sortBy id (current.keys.filter fun i => !listed.contains i)
  let changed := (listed.values.filter (isChanged current)).map User.id
  ⟨gone ++ changed, listed.values.filter (isWanted current)⟩

def isEmpty (d : Diff) : Bool := d.remove.isEmpty && d.add.isEmpty

theorem isEmpty_iff {d : Diff} : d.isEmpty ↔ d.remove = [] ∧ d.add = [] := by
  simp [isEmpty]

end Diff

end ProxyNode
