import ProxyNode.Proofs.Node.Promptness

/-!
# Node — Stages, asking until there is something to use

A start asks for one resource until it has an answer to use, and then for another.  What a stage
comes to is what is made of the last answer to it; if there is nothing to use and no fault, the node
was told to stop.

* `lastAnswer`: the last answer under a resource; `AsksOnly`: it stays while others are asked for.
* `Waits`: count is kept of the waits, and patience does not grow.
* `untilReady_raised`: who gives up was told to stop.
* `Thwarts`: what is to blame for the fault of a stage.
* `Fetches.stage`: how a stage ends.
-/

namespace ProxyNode.Node

open Panel

variable {α : Type} {R : Reader α} {fetch : Node → Except Fault α × Node} {n m k p : Node}
  {e e' : Endpoint}

/-! ### What was answered last -/

/-- The last answer to a request for a resource. -/
def lastAnswer (n : Node) (e : Endpoint) : Option Answer :=
  (n.requests.find? fun x => x.1.endpoint = e).map fun x => x.2.answer

/-- From `n` to `m` nothing was asked for but one resource. -/
def AsksOnly (e : Endpoint) (n m : Node) : Prop :=
  ∃ asked, m.requests = asked ++ n.requests ∧ ∀ x ∈ asked, x.1.endpoint = e

theorem Unasked.asksOnly (h : Unasked n m) : AsksOnly e n m :=
  ⟨[], h.requests, List.forall_mem_nil _⟩

theorem AsksOnly.trans (h : AsksOnly e n m) (h' : AsksOnly e m k) : AsksOnly e n k := by
  obtain ⟨asked, hm, he⟩ := h
  obtain ⟨later, hk, he'⟩ := h'
  refine ⟨later ++ asked, by rw [hk, hm, List.append_assoc], fun x hx => ?_⟩
  exact (List.mem_append.mp hx).elim (he' x) (he x)

/-- Of the other resources the last answer is the same. -/
theorem AsksOnly.lastAnswer (h : AsksOnly e n m) (he : e' ≠ e) :
    m.lastAnswer e' = n.lastAnswer e' := by
  obtain ⟨asked, hm, hall⟩ := h
  have hnone : (asked.find? fun x => x.1.endpoint = e') = none :=
    List.find?_eq_none.mpr fun x hx hx' => he ((of_decide_eq_true hx').symm.trans (hall x hx))
  rw [Node.lastAnswer, hm, List.find?_append, hnone, Option.none_or]
  rfl

theorem Unasked.lastAnswer (h : Unasked n m) (e : Endpoint) : m.lastAnswer e = n.lastAnswer e := by
  rw [Node.lastAnswer, h.requests]
  rfl

theorem Fetches.asksOnly (hf : Fetches R fetch) (errand : String) (rounds : Nat) (n : Node) :
    AsksOnly R.endpoint n (Node.untilReady errand fetch rounds n).2 := by
  refine untilReady_of_steps (P := AsksOnly R.endpoint n)
    (fun notice h => h.trans (unasked_note _ notice).asksOnly)
    (fun seconds h => h.trans (unasked_wait _ seconds).asksOnly) (fun {m} h => ?_) errand rounds
    (Unasked.refl n).asksOnly
  exact h.trans ⟨[_], hf.asks m, List.forall_mem_singleton.mpr rfl⟩

theorem lastAnswer_of_requests {request : Request} {turn : Turn}
    {earlier : List (Request × Turn)} (h : m.requests = (request, turn) :: earlier) :
    m.lastAnswer request.endpoint = some turn.answer := by
  rw [lastAnswer, h]
  simp

/-- What is made of the last answer, by any client that is settled in the same way. -/
theorem Answered.last_answer {r : Except Fault α} (h : Answered R p r m)
    (hsame : ∀ c a, (R.accept c.untagged a).1 = (R.accept c a).1)
    (hc : p.client.untagged = n.client.untagged) :
    ∃ a, m.lastAnswer R.endpoint = some a ∧ (R.accept n.client a).1 = r := by
  obtain ⟨turn, earlier, hm, -, ha⟩ := h
  refine ⟨turn.answer, lastAnswer_of_requests hm, ?_⟩
  rw [← hsame, ← hc, hsame, ha]

/-! ### Waiting for an answer to use -/

/-- From `n` to `m` some patience may have been lost, and it is still counted. -/
structure Waits (n m : Node) : Prop where
  counted : m.stop.counted = n.stop.counted
  patience : m.stop.patience ≤ n.stop.patience
  stays : n.stop.raised = true → m.stop.raised = true

theorem Waits.of_eq (h : m.stop = n.stop) : Waits n m :=
  ⟨congrArg StopSignal.counted h, Nat.le_of_eq (congrArg StopSignal.patience h), fun hr => h ▸ hr⟩

theorem Waits.trans (h : Waits n m) (h' : Waits m k) : Waits n k :=
  ⟨h'.counted.trans h.counted, h'.patience.trans h.patience, fun hr => h'.stays (h.stays hr)⟩

theorem waits_raise (n : Node) : Waits n n.raise := by
  unfold raise
  split
  · exact .of_eq rfl
  · exact ⟨rfl, le_rfl, fun _ => rfl⟩

theorem waits_wait (n : Node) (seconds : Float) : Waits n (n.wait seconds).2 := by
  unfold wait
  split
  · have hw : Waits n { n with
        stop := { n.stop with patience := n.stop.patience - 1 }
        journal := .waited seconds :: n.journal } := ⟨rfl, Nat.sub_le _ _, id⟩
    dsimp only
    split
    · exact hw.trans (waits_raise _)
    · exact hw
  · exact .of_eq rfl

/-- A wait of which count is kept takes patience, or is the last. -/
theorem wait_patience (seconds : Float) (hc : n.stop.counted = true) :
    (n.wait seconds).2.stop.raised = true
      ∨ (n.wait seconds).2.stop.patience < n.stop.patience := by
  unfold wait
  rw [if_pos hc]
  dsimp only
  split
  · exact .inl (raised_of_raise _)
  · next hlast => exact .inr (Nat.sub_lt (by omega) Nat.one_pos)

theorem waits_ask (n : Node) (e : Endpoint) (timeout : Option Float)
    (body : Option (OrderedMap String Amount)) : Waits n (n.ask e timeout body).2 := by
  obtain ⟨m, hm, hask⟩ := exists_asked n e timeout body
  rw [hask]
  split
  · exact (Waits.of_eq hm).trans (waits_raise m)
  · exact .of_eq hm

theorem waits_call (n : Node) (c : Engine.Call) : Waits n (n.call c).2 := by
  rcases call_cases n c with ⟨e, -, hc⟩ | ⟨cause, -, hc⟩
  · rw [hc]
    exact .of_eq rfl
  · rw [hc]
    exact .of_eq rfl

theorem passes_waits (n : Node) : Passes (Waits n) where
  log _ h := h.trans (.of_eq rfl)
  wait seconds h := h.trans (waits_wait _ seconds)
  ask e timeout body h := h.trans (waits_ask _ e timeout body)
  call c h := h.trans (waits_call _ c)
  attach h := h.trans (.of_eq (calm_attach _).stop)
  client _ h := h.trans (.of_eq rfl)
  roster _ h := h.trans (.of_eq rfl)
  ledger _ h := h.trans (.of_eq rfl)

/-- Who asks again and again gives up only when told to stop: there are no more rounds than there is
patience for, if count is kept of the waits. -/
theorem untilReady_raised (hfetch : ∀ {n m}, Waits n m → Waits n (fetch m).2) {errand : String}
    {rounds : Nat} (hc : n.stop.counted = true)
    (hp : n.stop.raised = true ∨ n.stop.patience < rounds)
    (h : Node.untilReady errand fetch rounds n = (.ok none, m)) : m.stop.raised = true := by
  induction rounds generalizing n with
  | zero =>
      cases h
      exact hp.resolve_right (Nat.not_lt_zero _)
  | succ rounds ih =>
      have hr := retrying_of_steps (P := Waits n) (fun _ h => h.trans (.of_eq rfl))
        (fun seconds h => h.trans (waits_wait _ seconds)) fetch hfetch (.of_eq rfl) n.plan.retry
        errand
      unfold Node.untilReady at h
      split at h
      · next hn =>
        cases h
        exact hn
      · next hn =>
        have hp := hp.resolve_left hn
        split at h
        · cases h
        · next fault k hk =>
          rw [hk] at hr
          split at h
          · have hk := hr.trans (.of_eq rfl : Waits k (k.note (.notReady errand fault)))
            have hw := hk.trans (waits_wait _ (startPause k.plan.retry))
            have hlost := wait_patience (startPause k.plan.retry) (hk.counted.trans hc)
            split at h
            · cases h
            · next stopped l hl =>
              rw [eq_of_waitUnless_ok hl] at hw hlost
              refine ih (hw.counted.trans hc) (hlost.imp_right fun hlt => ?_) h
              have hle := hk.patience
              omega
          · cases h

/-! ### A stage -/

/-- What the fault of a stage is due to: an answer that another try does not mend, or, after one that
another try may mend, a pause that the clock refuses. -/
inductive Thwarts (n m : Node) (e : Endpoint) : Fault → Prop
  | answer {a : Answer} {fault : Fault} (hlast : m.lastAnswer e = some a)
      (hout : n.client.outcome e a = .error fault) (hfault : fault.isTransient = false) :
      Thwarts n m e fault
  | pause {a : Answer} {fault : Fault} {seconds : Float} {cause : Unexpected}
      (hlast : m.lastAnswer e = some a) (hout : n.client.outcome e a = .error fault)
      (hfault : fault.isTransient = true) (hpause : seconds ∈ pauses n.plan.retry)
      (hrefused : n.clock.refuses seconds = some cause) : Thwarts n m e (.unexpected cause)

namespace Thwarts

variable {fault : Fault}

theorem lasting (h : Thwarts n m e fault) : fault.isTransient = false := by
  cases h with
  | answer _ _ hfault => exact hfault
  | pause => rfl

/-- There was nothing to use in the last answer. -/
theorem unread (h : Thwarts n m e fault) {a : Answer} (ha : m.lastAnswer e = some a) :
    ∃ fault, n.client.outcome e a = .error fault := by
  obtain ⟨hlast, hout, -⟩ | ⟨hlast, hout, -, -, -⟩ := h
  · obtain rfl := Option.some.inj (hlast.symm.trans ha)
    exact ⟨_, hout⟩
  · obtain rfl := Option.some.inj (hlast.symm.trans ha)
    exact ⟨_, hout⟩

theorem unasked (h : Thwarts n m e fault) (hu : Unasked m k) : Thwarts n k e fault := by
  obtain ⟨hlast, hout, hfault⟩ | ⟨hlast, hout, hfault, hpause, hrefused⟩ := h
  · exact .answer ((hu.lastAnswer e).trans hlast) hout hfault
  · exact .pause ((hu.lastAnswer e).trans hlast) hout hfault hpause hrefused

end Thwarts

/-- How one stage of a start ends: with what is made of the last answer, with a fault that something
is to blame for, or without anything, which means that the node was told to stop. -/
theorem Fetches.stage {r : Except Fault (Option α)} (hf : Fetches R fetch)
    (hwaits : ∀ {n m}, Waits n m → Waits n (fetch m).2)
    (hsame : ∀ c a, (R.accept c.untagged a).1 = (R.accept c a).1)
    (houtcome : ∀ c a, (R.accept c a).1.map (fun _ => ()) = Client.outcome c R.endpoint a)
    (hc : p.client.untagged = n.client.untagged) (hfixed : Fixed n p)
    (hnone : p.lastAnswer R.endpoint = none) (h : p.ready R.endpoint fetch = (r, m)) :
    AsksOnly R.endpoint p m ∧ m.client.untagged = n.client.untagged
    ∧ match r with
      | .ok (some v) => ∃ a, m.lastAnswer R.endpoint = some a ∧ (R.accept n.client a).1 = .ok v
      | .ok none => (∀ a, m.lastAnswer R.endpoint = some a →
          ∃ fault, n.client.outcome R.endpoint a = .error fault)
        ∧ (p.stop.counted = true → m.stop.raised = true)
      | .error fault => Thwarts n m R.endpoint fault := by
  have hasks := hf.asksOnly R.endpoint.errand (p.stop.patience + 1) p
  rw [← ready, h] at hasks
  refine ⟨hasks, ?_⟩
  by_cases hp : p.stop.raised = true
  · have hidle : p.ready R.endpoint fetch = (.ok none, p) := untilReady_idle (.inr hp)
    obtain ⟨rfl, rfl⟩ := Prod.mk.inj (h.symm.trans hidle)
    refine ⟨hc, fun a ha => ?_, fun _ => hp⟩
    cases hnone.symm.trans ha
  · have hs := hf.sought R.endpoint.errand (Nat.succ_ne_zero p.stop.patience)
      (Bool.eq_false_iff.mpr hp)
    rw [← ready, h] at hs
    have hout {a : Answer} {fault : Fault} (ha : (R.accept n.client a).1 = .error fault) :
        n.client.outcome R.endpoint a = .error fault := by
      rw [← houtcome, ha]
      rfl
    cases hs with
    | found ha => exact ⟨ha.untagged.trans hc, ha.last_answer hsame hc⟩
    | failed ht ha =>
        obtain ⟨a, hlast, hr⟩ := ha.last_answer hsame hc
        exact ⟨ha.untagged.trans hc, .answer hlast (hout hr) ht⟩
    | missed ht ha =>
        obtain ⟨a, hlast, hr⟩ := ha.last_answer hsame hc
        refine ⟨ha.untagged.trans hc, fun b hb => ?_, fun hcounted => ?_⟩
        · obtain rfl := Option.some.inj (hlast.symm.trans hb)
          exact ⟨_, hout hr⟩
        · exact untilReady_raised hwaits hcounted (.inr (Nat.lt_succ_self _)) h
    | unpaused ht ha hpause hrefused hm =>
        obtain ⟨a, hlast, hr⟩ := ha.last_answer hsame hc
        exact ⟨ha.untagged.trans hc, .pause hlast (hout hr) ht (hfixed.plan ▸ hpause)
          (hfixed.clock ▸ hrefused)⟩

end ProxyNode.Node
