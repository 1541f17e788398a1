import ProxyNode.Traffic.Place
import ProxyNode.Traffic.Snapshot

/-!
# Traffic — Spool

A table in which traffic that was not reported waits for the next start.  It holds one snapshot;
saving replaces it as a whole or leaves it as it was.  Counters are kept as decimal text, since they
may be larger than the table's numbers; the users' numbers have to fit 64 bits.

* `save_error`, `clear_error`: a write that fails leaves the table as it was.
-/

namespace ProxyNode

/-- One user's row, its counters as text. -/
structure Row where
  id : Int
  up : String
  down : String
  deriving DecidableEq, Repr

/-- The place of the table, the table, absent until it is made, and a device that may refuse the
`n`-th write to it. -/
structure Spool where
  place : Place := .file
  table : Option (List Row) := none
  faulty : Nat → Bool := fun _ => false
  writes : Nat := 0

namespace Spool

/-- The numbers a row can have. -/
def isNarrow (id : Int) : Bool := -0x8000000000000000 ≤ id && id < 0x8000000000000000

/-- The table that a new connection finds; what is only in memory is gone by then. -/
def found (s : Spool) : Except SpoolCause (Option (List Row)) :=
  match s.place with
  | .file => .ok s.table
  | .memory => .ok none
  | .nowhere cause => .error cause

/-- Makes the table if there is none. -/
def init (s : Spool) : Except Fault Unit × Spool :=
  match s.found with
  | .error cause => (.error (.spool cause), s)
  | .ok (some _) => (.ok (), s)
  | .ok none => (.ok (), { s with table := some [] })

/-- The rows that a new connection finds. -/
def rows (s : Spool) : Except Fault (List Row) :=
  match s.found with
  | .error cause => .error (.spool cause)
  | .ok none => .error (.spool .noTable)
  | .ok (some rows) => .ok rows

/-- The decimal text of a counter, unless that is too long. -/
def counterText (v : Int) : Except SpoolCause String :=
  if Numeral.isWritable v then .ok (toString v) else .error .longCounter

/-- The row of an entry. -/
def rowOf (e : Entry) : Except SpoolCause Row := do
  return ⟨e.id, ← counterText e.amount.up, ← counterText e.amount.down⟩

/-- The rows written one after the other behind `written`. -/
def insertRows (written : List Row) : List Row → Except SpoolCause (List Row)
  | [] => .ok written
  | r :: rest =>
    if !isNarrow r.id then .error .wideId
    else if written.any fun w => w.id = r.id then .error .repeatedId
    else insertRows (written ++ [r]) rest

/-- The rows that the table has after a snapshot is saved. -/
def rowsOf (s : Snapshot) : Except SpoolCause (List Row) := do
  insertRows [] (← s.entries.mapM rowOf)

/-- The outcome of a write that would leave `rows` in the table. -/
def write (s : Spool) (rows : Except SpoolCause (List Row)) : Except Fault Unit × Spool :=
  let after := { s with writes := s.writes + 1 }
  if s.faulty s.writes then (.error (.spool .device), after)
  else match s.rows with
    | .error fault => (.error fault, after)
    | .ok _ =>
      match rows with
      | .error cause => (.error (.spool cause), after)
      | .ok rows => (.ok (), { after with table := some rows })

/-- Puts a snapshot in the place of what the table holds. -/
def save (s : Spool) (snapshot : Snapshot) : Except Fault Unit × Spool := s.write (rowsOf snapshot)

/-- Removes all rows. -/
def clear (s : Spool) : Except Fault Unit × Spool := s.write (.ok [])

/-- The entry of a row. -/
def entryOf (r : Row) : Except SpoolCause Entry :=
  match Numeral.read r.up with
  | .error fault => .error (.counter fault)
  | .ok up =>
    match Numeral.read r.down with
    | .error fault => .error (.counter fault)
    | .ok down => .ok ⟨r.id, ⟨up, down⟩⟩

/-- The snapshot in the table. -/
def peek (s : Spool) : Except Fault Snapshot :=
  match s.rows with
  | .error fault => .error fault
  | .ok rows =>
    match (sortBy Row.id rows).mapM entryOf with
    | .error cause => .error (.spool cause)
    | .ok entries => .ok (.ofEntries entries)

/-- A row put in the place of one of the same user, or else last. -/
def putRow (r : Row) (rows : List Row) : List Row := rows.filter (fun w => w.id ≠ r.id) ++ [r]

/-- Rows written into the table by another program. -/
def load (s : Spool) (rows : List Row) : Except Fault Unit × Spool :=
  match s.rows with
  | .error fault => (.error fault, s)
  | .ok old =>
    if rows.all fun r => isNarrow r.id then
      (.ok (), { s with table := some (rows.foldl (fun t r => putRow r t) old) })
    else (.error (.spool .wideId), s)

theorem write_error {s s' : Spool} {rows : Except SpoolCause (List Row)} {f : Fault}
    (h : s.write rows = (.error f, s')) : s'.table = s.table := by
  unfold write at h
  dsimp only at h
  split at h
  · cases h; rfl
  · split at h
    · cases h; rfl
    · split at h
      · cases h; rfl
      · cases h

theorem save_error {s s' : Spool} {snapshot : Snapshot} {f : Fault}
    (h : s.save snapshot = (.error f, s')) : s'.table = s.table := write_error h

theorem clear_error {s s' : Spool} {f : Fault} (h : s.clear = (.error f, s')) :
    s'.table = s.table := write_error h

end Spool

end ProxyNode
