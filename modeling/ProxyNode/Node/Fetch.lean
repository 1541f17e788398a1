import ProxyNode.Node.State
import ProxyNode.Roster.Keyed

/-!
# Node — Fetch

Single requests of a node: for its configuration, for its users, and to report traffic.

* `roster_of_fetchConfig`: asking for a configuration does not apply it.
-/

namespace ProxyNode.Node

/-- Asks for the configuration. -/
def fetchConfig (n : Node) : Except Fault NodeConfig × Node :=
  let (answer, asked) := n.ask .config none none
  let (result, client) := asked.client.acceptConfig answer
  (result, { asked with client := client })

/-- Asks for the users; entries that are passed over are noted. -/
def fetchUsers (n : Node) : Except Fault (List User) × Node :=
  let (answer, asked) := n.ask .users none none
  let (listing, client) := asked.client.acceptUsers answer
  let heard : Node := { asked with client := client }
  (listing.users, listing.malformed.foldl (fun n item => n.note (.malformedUser item)) heard)

/-- Reports a snapshot; a user whose number is too long to be written breaks the report off. -/
def push (n : Node) (snapshot : Snapshot) (timeout : Option Float) : Except Fault Unit × Node :=
  if snapshot.isPostable then
    let (answer, asked) := n.ask .push timeout (some snapshot.payload)
    (asked.client.acceptPush answer, asked)
  else (.error (.unexpected .unwritable), n)

/-- Keys for the users that can have one; those left out are noted. -/
def keyUsers (n : Node) (config : NodeConfig) (users : List User) :
    Except Fault (OrderedMap Int User) × Node :=
  let keyed := keySome config.cipher.keyLength users
  (keyed.result, keyed.skipped.foldl (fun n s => n.note (.userSkipped s.1 s.2)) n)

theorem roster_of_count (n : Node) (d : Delta) : (n.count d).roster = n.roster := rfl

theorem roster_of_emit (n : Node) (d : Delta) : (n.emit d).roster = n.roster := by
  unfold emit
  generalize n.engine.emit d = deliveries
  induction deliveries generalizing n with
  | nil => rfl
  | cons x rest ih => exact (ih (n.count x.2)).trans (roster_of_count n x.2)

theorem roster_of_raise (n : Node) : n.raise.roster = n.roster := by
  unfold raise
  split <;> rfl

theorem roster_of_emits (deltas : List Delta) (n : Node) :
    (deltas.foldl emit n).roster = n.roster := by
  induction deltas generalizing n with
  | nil => rfl
  | cons d rest ih => exact (ih (n.emit d)).trans (roster_of_emit n d)

theorem roster_of_ask (n : Node) (e : Panel.Endpoint) (timeout : Option Float)
    (body : Option (OrderedMap String Amount)) : (n.ask e timeout body).2.roster = n.roster := by
  unfold ask
  dsimp only
  split
  · exact (roster_of_raise _).trans (roster_of_emits _ _)
  · exact roster_of_emits _ _

theorem roster_of_fetchConfig (n : Node) : n.fetchConfig.2.roster = n.roster :=
  roster_of_ask n .config none none

end ProxyNode.Node
