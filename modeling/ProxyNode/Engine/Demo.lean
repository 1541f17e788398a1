import ProxyNode.Engine.Basic

/-!
# Engine — Demo

Made-up traffic for a demonstration.  What is drawn at random at each tick is a parameter: a size, a
direction and a user.

* `mem_of_delta?`: traffic is only made up for registered users.
-/

namespace ProxyNode.Engine

/-- The sizes a made-up packet can have. -/
def smallest : Nat := 500

def largest : Nat := 1460

/-- What is drawn at one tick. -/
structure Draw where
  size : Nat
  upward : Bool
  pick : Nat
  smallest_le : smallest ≤ size
  le_largest : size ≤ largest
  deriving DecidableEq, Repr

/-- The traffic of one tick, if any user is registered. -/
def Draw.delta? (d : Draw) (users : List Int) : Option Delta :=
  match users[d.pick % users.length]? with
  | none => none
  | some id =>
    have h : d.size ≤ maxCounter := Nat.le_trans d.le_largest (by decide)
    if d.upward then some ⟨id, d.size, 0, h, by decide⟩ else some ⟨id, 0, d.size, by decide, h⟩

/-- The traffic of a run with one draw for each tick. -/
def demo (e : Engine) (draws : List Draw) : List Delta :=
  draws.filterMap fun d => d.delta? e.users.keys

theorem mem_of_delta? {d : Draw} {users : List Int} {delta : Delta}
    (h : d.delta? users = some delta) : delta.id ∈ users := by
  unfold Draw.delta? at h
  split at h
  · cases h
  · next id hid =>
    have hm : id ∈ users := List.mem_of_getElem? hid
    dsimp only at h
    split at h <;> cases h <;> exact hm

end ProxyNode.Engine
