import ProxyNode.Proofs.Node.Shutdown
import ProxyNode.Proofs.Node.Start

/-!
# Node — Requests

What a node asked of its panel, read off its journal, and what its client remembers.

* `Unasked`: nothing was asked, and the client is as it was.
* `requests_ask`: asking is one request, which the client makes of what it remembers.
* `Pushes`: nothing was asked but to take some number of reports, no more than a bound.
* `pushes_report`, `pushes_report_once`: a report cycle asks for no more, and only once if it is not
  to be tried again.
-/

namespace ProxyNode.Node

/-- The requests of a node with their turns, the latest first. -/
def requests (n : Node) : List (Panel.Request × Panel.Turn) :=
  n.journal.filterMap fun
    | .asked request turn => some (request, turn)
    | _ => none

/-- From `n` to `n'` nothing was asked of the panel, and the client remembers what it did. -/
structure Unasked (n n' : Node) : Prop where
  client : n'.client = n.client
  requests : n'.requests = n.requests

/-- From `n` to `n'` nothing was asked of the panel but to take no more than `k` reports. -/
structure Pushes (k : Nat) (n n' : Node) : Prop where
  client : n'.client = n.client
  requests : ∃ sent, n'.requests = sent ++ n.requests ∧ sent.length ≤ k
    ∧ ∀ x ∈ sent, x.1.endpoint = .push

section Chains

variable {n n₁ n₂ n₃ : Node} {k k' : Nat}

theorem Unasked.refl (n : Node) : Unasked n n := ⟨rfl, rfl⟩

theorem Unasked.trans (h : Unasked n₁ n₂) (h' : Unasked n₂ n₃) : Unasked n₁ n₃ :=
  ⟨h'.client.trans h.client, h'.requests.trans h.requests⟩

theorem Unasked.foldl {α : Type} {f : Node → α → Node} (h : ∀ n a, Unasked n (f n a))
    (n : Node) (l : List α) : Unasked n (l.foldl f n) := by
  induction l generalizing n with
  | nil => exact .refl n
  | cons a rest ih => exact (h n a).trans (ih (f n a))

theorem Unasked.pushes (h : Unasked n₁ n₂) : Pushes 0 n₁ n₂ :=
  ⟨h.client, [], h.requests, Nat.le_refl 0, List.forall_mem_nil _⟩

theorem Pushes.mono (h : Pushes k n₁ n₂) (hk : k ≤ k') : Pushes k' n₁ n₂ := by
  obtain ⟨sent, hs, hlen, hpush⟩ := h.requests
  exact ⟨h.client, sent, hs, hlen.trans hk, hpush⟩

theorem Pushes.trans (h : Pushes k n₁ n₂) (h' : Pushes k' n₂ n₃) : Pushes (k + k') n₁ n₃ := by
  obtain ⟨sent, hs, hk, hpush⟩ := h.requests
  obtain ⟨sent', hs', hk', hpush'⟩ := h'.requests
  refine ⟨h'.client.trans h.client, sent' ++ sent, ?_, ?_, ?_⟩
  · rw [hs', hs, List.append_assoc]
  · rw [List.length_append]
    omega
  · intro x hx
    rcases List.mem_append.mp hx with hx | hx
    · exact hpush' x hx
    · exact hpush x hx

end Chains

/-! ### Operations that ask nothing -/

theorem unasked_note (n : Node) (notice : Notice) : Unasked n (n.note notice) := ⟨rfl, rfl⟩

theorem unasked_raise (n : Node) : Unasked n n.raise := by
  unfold raise
  split
  · exact .refl n
  · exact ⟨rfl, rfl⟩

theorem unasked_wait (n : Node) (seconds : Float) : Unasked n (n.wait seconds).2 := by
  unfold wait
  split
  · have hw : Unasked n { n with
        stop := { n.stop with patience := n.stop.patience - 1 }
        journal := .waited seconds :: n.journal } := ⟨rfl, rfl⟩
    dsimp only
    split
    · exact hw.trans (unasked_raise _)
    · exact hw
  · exact .refl n

theorem unasked_emit (n : Node) (d : Delta) : Unasked n (n.emit d) :=
  Unasked.foldl (f := fun n (e : String × Delta) => n.count e.2) (fun _ _ => ⟨rfl, rfl⟩) n
    (n.engine.emit d)

theorem unasked_call (n : Node) (c : Engine.Call) : Unasked n (n.call c).2 := by
  unfold call
  dsimp only
  split <;> exact ⟨rfl, rfl⟩

theorem unasked_ledger (n : Node) (l : Ledger) : Unasked n { n with ledger := l } := ⟨rfl, rfl⟩

theorem unasked_noteSums (n : Node) (s : Snapshot) (notice : Notice) :
    Unasked n (n.noteSums s notice).2 := by
  unfold noteSums
  split
  · exact unasked_note n notice
  · exact .refl n

theorem unasked_clearSpool (n : Node) : Unasked n n.clearSpool := by
  rcases clearSpool_cases n with ⟨-, h⟩ | ⟨spool, fault, -, -, -, h⟩ | ⟨spool, -, -, -, h⟩
  · rw [h]
    exact .refl n
  · rw [h]
    exact ⟨rfl, rfl⟩
  · rw [h]
    exact ⟨rfl, rfl⟩

theorem unasked_delivered (n : Node) (s : Snapshot) : Unasked n (n.delivered s).2 := by
  have hl : Unasked n (n.log (.delivered s)) := ⟨rfl, rfl⟩
  have hb : Unasked n ((n.log (.delivered s)).clearSpool.billed s) :=
    (hl.trans (unasked_clearSpool (n.log (.delivered s)))).trans (unasked_ledger _ _)
  rcases delivered_cases n s with h | ⟨message, h⟩
  · rw [h]
    exact hb
  · rw [h]
    exact (hb.trans (unasked_ledger _ _)).trans (unasked_noteSums _ _ _)

theorem unasked_undelivered (n : Node) (s : Snapshot) (fault : Fault) :
    Unasked n (n.undelivered s fault) := by
  unfold undelivered
  split
  · exact ⟨rfl, rfl⟩
  · split
    · exact ⟨rfl, rfl⟩
    · exact .refl n

theorem unasked_retire (n : Node) (s : Snapshot) : Unasked n (n.retire s).2 := by
  have hl : Unasked n (n.log (.retired s)) := ⟨rfl, rfl⟩
  rcases retire_cases n s with ⟨-, h⟩ | ⟨spool, -, ⟨-, h⟩ | ⟨fault, -, h⟩⟩
  · rw [h]
    exact hl.trans (unasked_noteSums _ _ _)
  · rw [h]
    exact ⟨rfl, rfl⟩
  · rw [h]
    have hn : Unasked n (((n.log (.retired s)).spooled (spool.save s).2).note
        (.spoolFailed fault)) := ⟨rfl, rfl⟩
    exact hn.trans (unasked_noteSums _ _ _)

theorem unasked_resume (n : Node) : Unasked n n.resume.2 := by
  rcases resume_cases n with ⟨hr, -⟩ | ⟨spool, pending, -, -, -, hr⟩
  · rw [hr]
    exact .refl n
  · rw [hr]
    have ho : Unasked n (n.owing pending) := ⟨rfl, rfl⟩
    exact ho.trans (unasked_noteSums _ _ _)

theorem unasked_fail (n : Node) (fault : Fault) : Unasked n (n.fail fault) := by
  have hf : Unasked n { n with phase := .failed, fatal := some fault } := ⟨rfl, rfl⟩
  exact (hf.trans (unasked_note _ (.fatal fault))).trans (unasked_raise _)

theorem unasked_startFault {α : Type} (n : Node) (fault : Fault) :
    Unasked n (n.startFault (α := α) fault).2 := by
  unfold startFault
  dsimp only
  split
  · exact unasked_fail n fault
  · exact .refl n

/-! ### Asking -/

/-- Once a request is in the journal nothing more is asked. -/
theorem unasked_ask_from (n : Node) (e : Panel.Endpoint) (timeout : Option Float)
    (body : Option (OrderedMap String Amount)) :
    Unasked { n.log (n.sent e timeout body) with panel := (n.panel.next e).2 }
      (n.ask e timeout body).2 := by
  have hc := Unasked.foldl unasked_emit
    { n.log (n.sent e timeout body) with panel := (n.panel.next e).2 } (n.panel.next e).1.counted
  unfold ask
  dsimp only
  split
  · exact hc.trans (unasked_raise _)
  · exact hc

theorem client_ask (n : Node) (e : Panel.Endpoint) (timeout : Option Float)
    (body : Option (OrderedMap String Amount)) : (n.ask e timeout body).2.client = n.client :=
  (unasked_ask_from n e timeout body).client

/-- Asking is one request, which the client makes of what it remembers. -/
theorem requests_ask (n : Node) (e : Panel.Endpoint) (timeout : Option Float)
    (body : Option (OrderedMap String Amount)) :
    (n.ask e timeout body).2.requests
      = (n.client.request e timeout body, (n.panel.next e).1) :: n.requests :=
  (unasked_ask_from n e timeout body).requests

/-! ### Reports -/

/-- Sending a snapshot is no more than one request. -/
theorem pushes_push (n : Node) (s : Snapshot) (timeout : Option Float) :
    Pushes 1 n (n.push s timeout).2 := by
  unfold push
  split
  · have hr := requests_ask n .push timeout (some s.payload)
    dsimp only
    exact ⟨client_ask n .push timeout _, [_], hr, Nat.le_refl 1, List.forall_mem_singleton.mpr rfl⟩
  · exact ⟨rfl, [], rfl, Nat.zero_le 1, List.forall_mem_nil _⟩

/-- Reports that are tried again are reports. -/
theorem pushes_retrying (n : Node) (s : Snapshot) (timeout : Option Float) (policy : Retry)
    (errand : String) :
    ∃ k, Pushes k n (n.retrying policy errand fun n => n.push s timeout).2 := by
  refine Retry.run_keeps (P := fun m => ∃ k, Pushes k n m) ?_ ?_ ⟨0, (Unasked.refl n).pushes⟩
  · rintro m ⟨k, hk⟩
    exact ⟨k + 1, hk.trans (pushes_push m s timeout)⟩
  · rintro fault delay m ⟨k, hk⟩
    have hn := hk.trans (unasked_note m (.retrying errand fault delay)).pushes
    exact ⟨k, waitFor_keeps hn (hn.trans (unasked_wait _ delay).pushes)⟩

/-- What follows the attempts of a report asks nothing. -/
theorem unasked_report {n : Node} (he : n.drain.1.isEmpty = false) (timeout : Option Float)
    (policy : Retry) :
    Unasked (n.drain.2.retrying policy Panel.Endpoint.push.errand
      fun m => m.push n.drain.1 timeout).2 (n.report timeout policy).2 := by
  unfold report
  dsimp only
  rw [if_neg (Bool.eq_false_iff.mp he)]
  split
  · next m hm =>
    rw [hm]
    have hd := unasked_delivered m n.drain.1
    split
    · next fault k hk => rw [hk] at hd; exact hd
    · next k hk => rw [hk] at hd; exact hd
  · next fault m hm =>
    rw [hm]
    have hu := (unasked_undelivered m n.drain.1 fault).trans (unasked_ledger _
      ((m.undelivered n.drain.1 fault).restore n.drain.1).ledger)
    split
    · exact hu
    · exact hu

/-- A report cycle asks for no more than that reports be taken. -/
theorem pushes_report (n : Node) (timeout : Option Float) (policy : Retry) :
    ∃ k, Pushes k n (n.report timeout policy).2 := by
  have hd : Pushes 0 n n.drain.2 := (unasked_ledger n n.drain.2.ledger).pushes
  by_cases he : n.drain.1.isEmpty = true
  · rw [report_of_nothing he]
    exact ⟨0, (hd.trans (unasked_note n.drain.2 .nothingToPush).pushes).trans
      (unasked_ledger _ _).pushes⟩
  · obtain ⟨k, hk⟩ := pushes_retrying n.drain.2 n.drain.1 timeout policy
      Panel.Endpoint.push.errand
    exact ⟨0 + k + 0, (hd.trans hk).trans
      (unasked_report (Bool.eq_false_iff.mpr he) timeout policy).pushes⟩

/-- A report that is not to be tried again is no more than one request. -/
theorem pushes_report_once (n : Node) (timeout : Option Float) :
    Pushes 1 n (n.report timeout .once).2 := by
  have hd : Pushes 0 n n.drain.2 := (unasked_ledger n n.drain.2.ledger).pushes
  by_cases he : n.drain.1.isEmpty = true
  · rw [report_of_nothing he]
    have hn := hd.trans (unasked_note n.drain.2 .nothingToPush).pushes
    exact (hn.trans (unasked_ledger _ _).pushes).mono (Nat.zero_le 1)
  · exact (hd.trans (pushes_push n.drain.2 n.drain.1 timeout)).trans
      (unasked_report (Bool.eq_false_iff.mpr he) timeout .once).pushes

/-- A last report is no more than one request. -/
theorem pushes_finalFlush (n : Node) : Pushes 1 n n.finalFlush.2 := by
  have hthen {k k' : Node} (h : Pushes 1 n k) (hk : Unasked k k') : Pushes 1 n k' := h.trans hk.pushes
  refine finalFlush_induction (P := Pushes 1 n) (pushes_report_once n _) ?_ id ?_ ?_
  · exact fun hm => hthen hm (unasked_note _ _)
  · exact fun hk _ => hthen hk (unasked_ledger _ _)
  · exact fun hk => hthen hk ((unasked_ledger _ _).trans (unasked_retire _ _))

end ProxyNode.Node
