import ProxyNode.Data.OrderedMap
import ProxyNode.Data.SortBy
import ProxyNode.Fault.Basic

/-!
# Traffic — Snapshot

Traffic by user.  A delta is what the engine counts in one go and fits its counters; a snapshot is
what was counted up to some moment, users in ascending order and none without traffic.

* `mem_ofEntries`: a snapshot holds the entries with traffic, and no others.
* `Snapshot.sorted`, `Snapshot.busy`: its order and its contents, in the type.
-/

namespace ProxyNode

/-- Bytes in the two directions. -/
structure Amount where
  up : Int
  down : Int
  deriving DecidableEq, Repr

namespace Amount

def zero : Amount := ⟨0, 0⟩

def add (a b : Amount) : Amount := ⟨a.up + b.up, a.down + b.down⟩

def isZero (a : Amount) : Bool := a.up = 0 && a.down = 0

def total (a : Amount) : Int := a.up + a.down

/-- Whether both numbers can be written out. -/
def isWritable (a : Amount) : Bool := Numeral.isWritable a.up && Numeral.isWritable a.down

end Amount

/-- The largest value of an engine's counter, of 64 bits. -/
def maxCounter : Nat := 0xFFFFFFFFFFFFFFFF

structure Delta where
  id : Int
  upload : Nat
  download : Nat
  upload_le : upload ≤ maxCounter
  download_le : download ≤ maxCounter
  deriving DecidableEq, Repr

namespace Delta

/-- Whether a counter can have the value. -/
def fits (v : Int) : Bool := 0 ≤ v && v ≤ maxCounter

/-- A delta if both values fit a counter; the upload is looked at first. -/
def of? (id upload download : Int) : Except Unexpected Delta :=
  if hu : fits upload then
    if hd : fits download then
      .ok ⟨id, upload.toNat, download.toNat, by simp [fits] at hu; omega,
        by simp [fits] at hd; omega⟩
    else .error (.counterRange "download_bytes" download)
  else .error (.counterRange "upload_bytes" upload)

def amount (d : Delta) : Amount := ⟨d.upload, d.download⟩

end Delta

/-- What one user used. -/
structure Entry where
  id : Int
  amount : Amount
  deriving DecidableEq, Repr

structure Snapshot where
  entries : List Entry
  sorted : entries.Pairwise fun a b => a.id ≤ b.id
  busy : ∀ e ∈ entries, e.amount.isZero = false

namespace Snapshot

@[ext] theorem ext {s t : Snapshot} (h : s.entries = t.entries) : s = t := by
  cases s; cases t; cases h; rfl

instance : DecidableEq Snapshot := fun s t =>
  if h : s.entries = t.entries then isTrue (ext h) else isFalse fun e => h (e ▸ rfl)

instance : Repr Snapshot := ⟨fun s => reprPrec s.entries⟩

/-- The entries with traffic, put in order. -/
def ofEntries (entries : List Entry) : Snapshot where
  entries := sortBy Entry.id (entries.filter fun e => !e.amount.isZero)
  sorted := sortBy_pairwise Entry.id _
  busy := by
    intro e he
    have hf := (List.mem_filter.mp ((sortBy_perm Entry.id _).mem_iff.mp he)).2
    simpa using hf

def empty : Snapshot := ofEntries []

/-- The traffic in a map from users to what they used. -/
def ofMap (m : OrderedMap Int Amount) : Snapshot :=
  ofEntries (m.entries.map fun b => ⟨b.1, b.2⟩)

def size (s : Snapshot) : Nat := s.entries.length

def isEmpty (s : Snapshot) : Bool := s.entries.isEmpty

/-- What all users used together. -/
def sum (s : Snapshot) : Amount := s.entries.foldr (fun e t => e.amount.add t) .zero

def up (s : Snapshot) : Int := s.sum.up

def down (s : Snapshot) : Int := s.sum.down

/-- The first entry of a user. -/
def get? (s : Snapshot) (id : Int) : Option Amount :=
  (s.entries.find? fun e => e.id = id).map Entry.amount

/-- The snapshot as the panel takes it, by the decimal text of each user's number. -/
def payload (s : Snapshot) : OrderedMap String Amount :=
  OrderedMap.ofList (s.entries.map fun e => (toString e.id, e.amount))

/-- Whether the numbers of all its users can be written out. -/
def isPostable (s : Snapshot) : Bool := s.entries.all fun e => Numeral.isWritable e.id

/-- Whether the sums of a snapshot can be written out. -/
def isWritable (s : Snapshot) : Bool := s.sum.isWritable

/-- The snapshot in a message. -/
def display (s : Snapshot) : Except Fault String :=
  if s.isWritable then .ok s!"TrafficSnapshot(users={s.size}, up={s.up}, down={s.down})"
  else .error (.unexpected .unwritable)

theorem mem_ofEntries {entries : List Entry} {e : Entry} :
    e ∈ (ofEntries entries).entries ↔ e ∈ entries ∧ e.amount.isZero = false := by
  unfold ofEntries
  rw [(sortBy_perm Entry.id _).mem_iff, List.mem_filter]
  simp

end Snapshot

end ProxyNode
