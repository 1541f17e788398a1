import ProxyNode.Node.Fetch

/-!
# Node — Report

The report cycle: take all that was counted and send it to the panel.  Whatever the panel did not
acknowledge goes back to the counters.  Rows of the spool are cleared after the first report that
was acknowledged, since until then they are also in the counters.

* `report_of_nothing`: without traffic nothing is sent.
-/

namespace ProxyNode.Node

/-- Notes how a report cycle went. -/
def reportedAs (n : Node) (ok : Bool) (message : String) : Node :=
  { n with ledger := { n.ledger with lastReport := some ⟨ok, message⟩ } }

/-- Takes all that was counted. -/
def drain (n : Node) : Snapshot × Node :=
  let (snapshot, accumulator) := n.ledger.accumulator.drain
  (snapshot, { n with ledger := { n.ledger with accumulator := accumulator } })

/-- Gives a snapshot back to the counters. -/
def restore (n : Node) (snapshot : Snapshot) : Node :=
  { n with ledger := { n.ledger with accumulator := n.ledger.accumulator.restore snapshot } }

/-- A spool after a write to it. -/
def spooled (n : Node) (spool : Spool) : Node :=
  { n with
    ledger := { n.ledger with spool := some spool }
    journal := .spoolWritten spool.table :: n.journal }

/-- Clears the spool if its rows have been reported. -/
def clearSpool (n : Node) : Node :=
  if n.ledger.owed then
    match n.ledger.spool with
    | none => n
    | some spool =>
      match spool.clear with
      | (.error fault, spool) => (n.spooled spool).note (.spoolNotCleared fault)
      | (.ok (), spool) =>
        let n := n.spooled spool
        { n with ledger := { n.ledger with owed := false } }
  else n

/-- Notes something that shows the sums of a snapshot, unless they cannot be written out. -/
def noteSums (n : Node) (snapshot : Snapshot) (notice : Notice) : Except Fault Unit × Node :=
  if snapshot.isWritable then (.ok (), n.note notice) else (.error (.unexpected .unwritable), n)

/-- Books a snapshot that the panel acknowledged. -/
def delivered (n : Node) (snapshot : Snapshot) : Except Fault Unit × Node :=
  let n := (n.log (.delivered snapshot)).clearSpool
  let total := snapshot.up + snapshot.down
  let booked : Node := { n with ledger := { n.ledger with reported := n.ledger.reported + total } }
  if Numeral.isWritable total then
    (booked.reportedAs true s!"{snapshot.size} users, {total} bytes").noteSums snapshot
      (.pushed snapshot.size snapshot.up snapshot.down)
  else (.error (.unexpected .unwritable), booked)

/-- Notes why a snapshot was not acknowledged, if that was to be reckoned with. -/
def undelivered (n : Node) (snapshot : Snapshot) (fault : Fault) : Node :=
  if fault.isRejected then
    (n.note (.reportRejected snapshot.size fault)).reportedAs false fault.message
  else if fault.isTransient then
    (n.note (.reportFailed snapshot.size fault)).reportedAs false fault.message
  else n

/-- One report cycle; a fault means that something unforeseen happened. -/
def report (n : Node) (timeout : Option Float) (policy : Retry) : Except Fault Bool × Node :=
  let (snapshot, n) := n.drain
  if snapshot.isEmpty then
    (.ok true, (n.note .nothingToPush).reportedAs true "nothing to report")
  else match n.retrying policy Panel.Endpoint.push.errand fun n => n.push snapshot timeout with
    | (.ok (), n) =>
      match n.delivered snapshot with
      | (.error fault, n) => (.error fault, n)
      | (.ok (), n) => (.ok true, n)
    | (.error fault, n) =>
      let n := (n.undelivered snapshot fault).restore snapshot
      if fault.isRejected || fault.isTransient then (.ok false, n) else (.error fault, n)

theorem report_of_nothing {n : Node} {timeout : Option Float} {policy : Retry}
    (h : n.drain.1.isEmpty = true) :
    n.report timeout policy
      = (.ok true, (n.drain.2.note .nothingToPush).reportedAs true "nothing to report") := by
  simp [report, h]

end ProxyNode.Node
