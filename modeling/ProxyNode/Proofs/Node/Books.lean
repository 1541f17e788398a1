import ProxyNode.Proofs.Node.Steps

/-!
# Node — Books

What a node's journal says about traffic: what was counted, what the panel acknowledged, read off
the requests and their answers, and what a shutdown drained.

* `acceptPush_eq_ok_iff`: a client takes a report as made exactly if the answer acknowledges it.
* `posted_payload`: what a request with a snapshot posts of a user is what the snapshot has of it.
* `sum_of_booked`: a sum over the journal grows by what is added to the books.
-/

namespace ProxyNode

namespace Panel

/-- Whether an answer acknowledges a report: a response of no error status whose text is JSON. -/
def Answer.acknowledges : Answer → Bool
  | .response r =>
    r.status ≠ 304 && !Client.isBusy r.status && r.status < 400 && (Json.read r.text).isOk
  | _ => false

/-- What a request posts of a user's traffic. -/
def Request.posted (r : Request) (id : Int) : Amount :=
  (r.body.bind fun body => body.get? (toString id)).getD 0

/-- What a request posts of all users' traffic in both directions. -/
def Request.postedTotal (r : Request) : Int :=
  ((r.body.getD .empty).values.map Amount.total).sum

theorem Client.acceptPush_eq_ok_iff (c : Client) (a : Answer) :
    c.acceptPush a = .ok () ↔ a.acknowledges = true := by
  cases a with
  | timedOut detail => exact ⟨nofun, nofun⟩
  | failed detail => exact ⟨nofun, nofun⟩
  | broken cause => exact ⟨nofun, nofun⟩
  | response r =>
      by_cases h304 : r.status = 304
      · simp [acceptPush, receive, Answer.acknowledges, h304]
      · by_cases hbusy : isBusy r.status = true
        · simp [acceptPush, receive, Answer.acknowledges, h304, hbusy]
        · by_cases h400 : 400 ≤ r.status
          · simp [acceptPush, receive, Answer.acknowledges, h304, hbusy, h400, Int.not_lt.mpr h400]
          · simp only [acceptPush, receive, Answer.acknowledges, h304, hbusy, h400, if_false]
            rcases Json.read r.text with (⟨_, _⟩ | _ | nested) | body <;>
              simp [Except.isOk, Except.toBool, h304, Int.not_le.mp h400]

theorem Request.posted_payload {s : Snapshot} (h : s.Distinct) (e : Endpoint)
    (tag : Option String) (timeout : Float) (id : Int) :
    Request.posted ⟨e, tag, timeout, some s.payload⟩ id = s.amountOf id :=
  Snapshot.get?_payload h id

theorem Request.postedTotal_payload {s : Snapshot} (h : s.Distinct) (e : Endpoint)
    (tag : Option String) (timeout : Float) :
    Request.postedTotal ⟨e, tag, timeout, some s.payload⟩ = s.up + s.down :=
  Snapshot.total_payload h

end Panel

/-- Whether a notice tells of a write to the spool that failed. -/
def Notice.isSpoolFault : Notice → Bool
  | .spoolNotCleared _ => true
  | .spoolFailed _ => true
  | _ => false

namespace Event

def countedOf (id : Int) : Event → Amount
  | .counted d => d.of id
  | _ => 0

def retiredOf (id : Int) : Event → Amount
  | .retired s => s.amountOf id
  | _ => 0

/-- Whether an event is a report that the panel acknowledged. -/
def isAcknowledged : Event → Bool
  | .asked request turn => request.endpoint = .push && turn.answer.acknowledges
  | _ => false

def acknowledgedOf (id : Int) : Event → Amount
  | .asked request turn =>
    if isAcknowledged (.asked request turn) then request.posted id else 0
  | _ => 0

def acknowledgedTotal : Event → Int
  | .asked request turn =>
    if isAcknowledged (.asked request turn) then request.postedTotal else 0
  | _ => 0

/-- Whether an event tells of a write to the spool that failed. -/
def isSpoolFault : Event → Bool
  | .noted notice => notice.isSpoolFault
  | _ => false

/-- Whether an event moves traffic. -/
def isTraffic : Event → Bool
  | .counted _ => true
  | .retired _ => true
  | e => e.isAcknowledged

/-- Whether an event matters to the books: it moves traffic or tells of a write to the spool. -/
def isBooked : Event → Bool
  | .noted notice => notice.isSpoolFault
  | .spoolWritten _ => true
  | e => e.isTraffic

end Event

namespace Node

/-- What was counted of a user's traffic. -/
def counted (n : Node) (id : Int) : Amount := (n.journal.map (Event.countedOf id)).sum

/-- What the panel acknowledged of a user's traffic. -/
def acknowledged (n : Node) (id : Int) : Amount := (n.journal.map (Event.acknowledgedOf id)).sum

/-- What the panel acknowledged of all traffic. -/
def acknowledgedTotal (n : Node) : Int := (n.journal.map Event.acknowledgedTotal).sum

/-- What shutdowns drained of a user's traffic, for the spool or to be dropped. -/
def retired (n : Node) (id : Int) : Amount := (n.journal.map (Event.retiredOf id)).sum

/-- The entries of the journal that matter to the books. -/
def booked (n : Node) : List Event := n.journal.filter Event.isBooked

end Node

theorem Event.isBooked_of_isTraffic {e : Event} (h : e.isTraffic = true) : e.isBooked = true := by
  cases e with
  | noted notice => cases h
  | spoolWritten table => cases h
  | _ => exact h

/-- An event that moves no traffic adds nothing to the books. -/
theorem Event.eq_zero_of_not_traffic (id : Int) {e : Event} (h : e.isTraffic = false) :
    e.countedOf id = 0 ∧ e.acknowledgedOf id = 0 ∧ e.retiredOf id = 0
      ∧ e.acknowledgedTotal = 0 := by
  cases e with
  | asked r t => exact ⟨rfl, if_neg (Bool.eq_false_iff.mp h), rfl, if_neg (Bool.eq_false_iff.mp h)⟩
  | counted d => cases h
  | retired s => cases h
  | _ => exact ⟨rfl, rfl, rfl, rfl⟩

/-- An event that does not matter to the books adds nothing to them. -/
theorem Event.eq_zero_of_not_booked (id : Int) {e : Event} (h : e.isBooked = false) :
    e.countedOf id = 0 ∧ e.acknowledgedOf id = 0 ∧ e.retiredOf id = 0
      ∧ e.acknowledgedTotal = 0 := by
  refine eq_zero_of_not_traffic id (Bool.eq_false_iff.mpr fun ht => ?_)
  rw [isBooked_of_isTraffic ht] at h
  cases h

namespace Node

/-- Entries that do not matter to the books change no sum of what adds nothing for such. -/
theorem sum_filter_booked {M : Type} [AddMonoid M] {f : Event → M}
    (hf : ∀ e, e.isBooked = false → f e = 0) (past : List Event) :
    ((past.filter Event.isBooked).map f).sum = (past.map f).sum := by
  induction past with
  | nil => rfl
  | cons e rest ih =>
      rw [List.map_cons, List.sum_cons, ← ih]
      by_cases he : e.isBooked = true
      · rw [List.filter_cons_of_pos he, List.map_cons, List.sum_cons]
      · rw [List.filter_cons_of_neg he, hf e (Bool.eq_false_iff.mpr he), zero_add]

/-- A sum over the journal grows by what is added to the books. -/
theorem sum_of_booked {M : Type} [AddMonoid M] {f : Event → M}
    (hf : ∀ e, e.isBooked = false → f e = 0) {n n' : Node} {l : List Event}
    (h : n'.booked = l ++ n.booked) :
    (n'.journal.map f).sum = (l.map f).sum + (n.journal.map f).sum := by
  rw [← sum_filter_booked hf n'.journal, ← sum_filter_booked hf n.journal, ← booked, ← booked, h,
    List.map_append, List.sum_append]

/-- A sum over events of a kind that adds nothing. -/
theorem sum_of_kind {α M : Type} [AddMonoid M] {kind : α → Event} {f : Event → M}
    (hf : ∀ a, f (kind a) = 0) (l : List α) : ((l.map kind).map f).sum = 0 := by
  refine List.sum_eq_zero fun x hx => ?_
  obtain ⟨e, he, rfl⟩ := List.mem_map.mp hx
  obtain ⟨a, -, rfl⟩ := List.mem_map.mp he
  exact hf a

/-- A sum over events that move no traffic, of what adds nothing for such. -/
theorem sum_of_still {M : Type} [AddMonoid M] {f : Event → M}
    (hf : ∀ e, e.isTraffic = false → f e = 0) {l : List Event}
    (h : ∀ e ∈ l, e.isTraffic = false) : (l.map f).sum = 0 := by
  refine List.sum_eq_zero fun x hx => ?_
  obtain ⟨e, he, rfl⟩ := List.mem_map.mp hx
  exact hf e (h e he)

section Growth

variable {n n' : Node} {l : List Event}

theorem counted_of_booked (h : n'.booked = l ++ n.booked) (id : Int) :
    n'.counted id = (l.map (Event.countedOf id)).sum + n.counted id :=
  sum_of_booked (fun _ he => (Event.eq_zero_of_not_booked id he).1) h

theorem acknowledged_of_booked (h : n'.booked = l ++ n.booked) (id : Int) :
    n'.acknowledged id = (l.map (Event.acknowledgedOf id)).sum + n.acknowledged id :=
  sum_of_booked (fun _ he => (Event.eq_zero_of_not_booked id he).2.1) h

theorem retired_of_booked (h : n'.booked = l ++ n.booked) (id : Int) :
    n'.retired id = (l.map (Event.retiredOf id)).sum + n.retired id :=
  sum_of_booked (fun _ he => (Event.eq_zero_of_not_booked id he).2.2.1) h

theorem acknowledgedTotal_of_booked (h : n'.booked = l ++ n.booked) :
    n'.acknowledgedTotal = (l.map Event.acknowledgedTotal).sum + n.acknowledgedTotal :=
  sum_of_booked (fun _ he => (Event.eq_zero_of_not_booked 0 he).2.2.2) h

end Growth

end Node

end ProxyNode
