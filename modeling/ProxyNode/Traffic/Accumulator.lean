import ProxyNode.Traffic.Snapshot

/-!
# Traffic — Accumulator

Counters by user that many writers add to while one reader empties them.  The users are dealt out to
shards; one addition touches one shard, and emptying swaps out one shard after the other, so that
each of these steps can stand between any two others.

* `length_add`, `length_swap`: no step changes the number of shards.
-/

namespace ProxyNode

structure Accumulator where
  shards : List (OrderedMap Int Amount)
  deriving DecidableEq, Repr

namespace Accumulator

def defaultShards : Nat := 16

/-- An empty accumulator with `n` shards. -/
def ofShards (n : Nat) : Accumulator := ⟨List.replicate n .empty⟩

/-- An empty accumulator with a number of shards that has to be positive. -/
def of? (n : Int) : Except Fault Accumulator :=
  if n ≤ 0 then .error (.unexpected .shardCount) else .ok (ofShards n.toNat)

instance : Inhabited Accumulator := ⟨ofShards defaultShards⟩

/-- The prime by which users are dealt out. -/
def hashModulus : Int := 0x1FFFFFFFFFFFFFFF

/-- The number by which a user is dealt out: the remainder has the sign of the user's own number,
and minus two stands for minus one. -/
def hash (id : Int) : Int :=
  let r := id.tmod hashModulus
  if r = -1 then -2 else r

/-- The shard of a user. -/
def shardOf (a : Accumulator) (id : Int) : Nat := (hash id % a.shards.length).toNat

/-- An amount added to what a shard has for a user. -/
def addTo (m : OrderedMap Int Amount) (id : Int) (amount : Amount) : OrderedMap Int Amount :=
  m.insert id (((m.get? id).getD .zero).add amount)

/-- The atomic step of a writer. -/
def add (a : Accumulator) (id : Int) (amount : Amount) : Accumulator :=
  ⟨a.shards.modify (a.shardOf id) fun m => addTo m id amount⟩

/-- The atomic step of the reader: takes the shard's counters and leaves it empty. -/
def swap (a : Accumulator) (i : Nat) : OrderedMap Int Amount × Accumulator :=
  (a.shards[i]?.getD .empty, ⟨a.shards.set i .empty⟩)

/-- Adds what the engine counted. -/
def record (a : Accumulator) (d : Delta) : Accumulator :=
  if d.amount.isZero then a else a.add d.id d.amount

/-- Adds the entries of a snapshot back. -/
def restore (a : Accumulator) (s : Snapshot) : Accumulator :=
  s.entries.foldl (fun a e => a.add e.id e.amount) a

/-- Swaps out the shards from the `i`-th on, `n` of them, and adds what they held to `taken`. -/
def drainFrom (taken : OrderedMap Int Amount) (a : Accumulator) (i : Nat) :
    Nat → OrderedMap Int Amount × Accumulator
  | 0 => (taken, a)
  | n + 1 =>
    let (m, a) := a.swap i
    drainFrom (taken.union m) a (i + 1) n

/-- Takes all that was counted and leaves the counters empty. -/
def drain (a : Accumulator) : Snapshot × Accumulator :=
  let (taken, a) := drainFrom .empty a 0 a.shards.length
  (.ofMap taken, a)

/-- What was counted, the counters being left as they are. -/
def peek (a : Accumulator) : Snapshot :=
  .ofMap (a.shards.foldl OrderedMap.union .empty)

@[simp] theorem length_add (a : Accumulator) (id : Int) (amount : Amount) :
    (a.add id amount).shards.length = a.shards.length := by
  simp [add]

@[simp] theorem length_swap (a : Accumulator) (i : Nat) :
    (a.swap i).2.shards.length = a.shards.length := by
  simp [swap]

end Accumulator

end ProxyNode
