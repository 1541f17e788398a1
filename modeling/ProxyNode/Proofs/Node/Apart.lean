import ProxyNode.Proofs.Node.Abreast
import ProxyNode.Proofs.Node.Lockstep
import ProxyNode.Proofs.Node.Requests

/-!
# Node — Apart, two cycles that do not interfere

A sync cycle works on the users, the configuration and the engine, a report cycle on the traffic.
What they share, the client, the policy and the stop signal, neither changes in a way that the other
notices, as long as the node is not told to stop and no traffic is counted during the sync cycle.
So they can be run in either order.

* `Spares`: what a sync cycle leaves alone.
* `OrderFree`: the two orders end with the same node, up to the order of the journal.
* `cycles_apart`: and so they do.
-/

namespace ProxyNode

namespace Panel

/-- No traffic is counted while the configuration or the users are asked for. -/
def Script.Quiet (s : Script) : Prop := ∀ t ∈ s.config ++ s.users, t.counted = []

theorem take_fst (l : List Turn) : (take l).1 = .idle ∨ (take l).1 ∈ l := by
  match l with
  | [] => exact .inl rfl
  | [t] => exact .inr (List.mem_singleton_self t)
  | t :: _ :: _ => exact .inr List.mem_cons_self

theorem take_snd (l : List Turn) : (take l).2 ⊆ l := by
  match l with
  | [] => exact List.Subset.refl []
  | [t] => exact List.Subset.refl [t]
  | t :: t' :: rest => exact List.subset_cons_self t (t' :: rest)

theorem Script.Quiet.counted {s : Script} (h : s.Quiet) {e : Endpoint} (he : e ≠ .push) :
    (s.next e).1.counted = [] := by
  have hidle {l : List Turn} (hl : ∀ t ∈ l, t.counted = []) : (take l).1.counted = [] := by
    rcases take_fst l with ht | ht
    · rw [ht]
      rfl
    · exact hl _ ht
  cases e with
  | config => exact hidle fun t ht => h t (List.mem_append_left _ ht)
  | users => exact hidle fun t ht => h t (List.mem_append_right _ ht)
  | push => exact absurd rfl he

theorem Script.Quiet.next {s : Script} (h : s.Quiet) {e : Endpoint} (he : e ≠ .push) :
    (s.next e).2.Quiet ∧ (s.next e).2.push = s.push := by
  cases e with
  | config =>
      refine ⟨fun t ht => h t ?_, rfl⟩
      exact (List.mem_append.mp ht).elim
        (fun ht => List.mem_append_left _ (take_snd _ ht)) (List.mem_append_right _)
  | users =>
      refine ⟨fun t ht => h t ?_, rfl⟩
      exact (List.mem_append.mp ht).elim (List.mem_append_left _)
        (fun ht => List.mem_append_right _ (take_snd _ ht))
  | push => exact absurd rfl he

end Panel

namespace Node

/-! ### What a sync cycle leaves alone -/

/-- The reports that a node sent, with their turns, the latest first. -/
def pushed (n : Node) : List (Panel.Request × Panel.Turn) :=
  n.requests.filter fun x => x.1.endpoint = .push

/-- From `n` to `n'` nothing happened to the traffic, and nothing will while the node asks for its
configuration and its users. -/
structure Spares (n n' : Node) : Prop where
  quiet : n'.panel.Quiet
  plan : n'.plan = n.plan
  clock : n'.clock = n.clock
  client : n'.client.untagged = n.client.untagged
  push : n'.panel.push = n.panel.push
  counted : n'.stop.counted = n.stop.counted
  listeners : n'.engine.listeners = n.engine.listeners
  refuses : n'.refuses = n.refuses
  ledger : n'.ledger = n.ledger
  phase : n'.phase = n.phase
  fatal : n'.fatal = n.fatal
  pushed : n'.pushed = n.pushed

theorem Spares.refl {n : Node} (h : n.panel.Quiet) : Spares n n :=
  ⟨h, rfl, rfl, rfl, rfl, rfl, rfl, rfl, rfl, rfl, rfl, rfl⟩

theorem Spares.raise {n n' : Node} (h : Spares n n') : Spares n n'.raise := by
  unfold Node.raise
  split
  · exact h
  · exact { h with pushed := h.pushed }

theorem pulls_spares (n : Node) : Pulls (Spares n) where
  note _ h := { h with pushed := h.pushed }
  wait seconds h := by
    unfold Node.wait
    split
    · dsimp only
      split
      · exact Spares.raise { h with pushed := h.pushed }
      · exact { h with pushed := h.pushed }
    · exact h
  ask {m e} he h := by
    obtain ⟨hq, hp⟩ := h.quiet.next he
    have hs : Spares n { m.log (m.sent e none none) with panel := (m.panel.next e).2 } := by
      refine { h with quiet := hq, push := hp.trans h.push, pushed := ?_ }
      rw [← h.pushed]
      exact List.filter_cons_of_neg (decide_eq_true_iff.not.mpr he)
    unfold Node.ask
    dsimp only
    rw [h.quiet.counted he]
    split
    · exact hs.raise
    · exact hs
  call c h := by
    rcases call_cases _ c with ⟨e, he, hc⟩ | ⟨cause, -, hc⟩
    · rw [hc]
      exact { h with
        listeners := (Engine.listeners_of_perform he).trans h.listeners, pushed := h.pushed }
    · rw [hc]
      exact { h with pushed := h.pushed }
  client c hc h := { h with client := hc.trans h.client, pushed := h.pushed }
  roster _ h := { h with pushed := h.pushed }

theorem spares_sync {n : Node} (h : n.panel.Quiet) : Spares n n.sync.2 :=
  (pulls_spares n).sync (.refl h)

/-! ### The two orders -/

/-- Nothing differs but the traffic, and that one node may have `k` more waits of patience. -/
def apart (k : Nat) : Likeness where
  toGuise := .plain
  entry := Eq
  turn := Eq
  ledger _ _ := True
  push _ _ := True
  ahead := k
  idle := rfl
  counted h := h ▸ rfl
  stops h := h ▸ rfl
  listing {t t'} h c := by
    cases h
    refine ⟨⟨List.forall₂_refl _, .refl (fun users => ?_) _⟩, rfl⟩
    rw [users_matches_plain]
  record _ _ := trivial

theorem eq_of_matches_apart {k : Nat} {e e' : Event} (h : Event.Matches (apart k) e e') :
    e' = e := by
  cases h with
  | same => rfl
  | asked request ht =>
      cases ht
      rfl
  | called refusal hc => rw [Engine.Call.matches_plain_iff.mp hc]
  | malformed hi =>
      cases hi
      rfl

/-- The two orders of a sync cycle and a report cycle have the same results and end with the same
node, but that its journal lists the two cycles in the order in which they were run. -/
structure OrderFree (n : Node) (timeout : Option Float) (policy : Retry) : Prop where
  synced : (n.report timeout policy).2.sync.1 = n.sync.1
  reported : (n.sync.2.report timeout policy).1 = (n.report timeout policy).1
  called : (n.report timeout policy).2.sync.2.called = (n.sync.2.report timeout policy).2.called
  pushed : (n.report timeout policy).2.sync.2.pushed = (n.sync.2.report timeout policy).2.pushed
  node : ∃ synced reported,
    (n.sync.2.report timeout policy).2.journal = reported ++ (synced ++ n.journal)
    ∧ (n.report timeout policy).2.sync.2 = { (n.sync.2.report timeout policy).2 with
        journal := synced ++ (reported ++ n.journal) }

theorem matches_apart_of_reports {n n' : Node} (h : Reports n n') {k : Nat}
    (hs : n.stop.Ahead k n'.stop) : Matches (apart k) n.journal n'.journal n n' where
  plan := h.plan
  clock := h.clock
  client := h.client
  config := h.config
  users := by
    rw [h.users]
    exact List.forall₂_same.mpr fun _ _ => rfl
  push := trivial
  stop := hs
  engine := Engine.matches_plain_iff.mpr h.engine
  refuses k {c c'} hc := by rw [h.refuses, Engine.Call.matches_plain_iff.mp hc]
  calls := h.calls
  roster := Roster.matches_plain_iff.mpr h.roster
  ledger := trivial
  phase := h.phase
  fatal := h.fatal
  journal := ⟨[], [], rfl, rfl, .nil⟩

theorem abreast_of_spares {n n' : Node} (h : Spares n n') {k : Nat}
    (hs : n.stop.Ahead k n'.stop) : Abreast k n.journal n'.journal n n' where
  plan := h.plan
  clock := h.clock
  client := h.client
  turns := h.push
  listeners := h.listeners
  ledger := h.ledger
  stop := hs
  journal := ⟨[], rfl, rfl⟩

attribute [ext] Node StopSignal Panel.Script

/-- What two nodes have from the sync cycle and what they have from the report cycle is all that
they have. -/
theorem eq_of_matches_of_abreast {a₁ a₂ b₁ b₂ : Node} {k k' : Nat}
    {past past' old old' : List Event}
    (hm : Matches (apart k) past past' a₁ b₂) (ha : Abreast k' old old' b₁ a₂)
    (hr : Reports a₁ a₂) (hs : Spares b₁ b₂) (h₁ : a₂.stop.raised = false)
    (h₂ : b₂.stop.raised = false) (hp : b₁.stop.patience + k = a₁.stop.patience + k') :
    b₂ = { a₂ with journal := b₂.journal } := by
  have husers : b₂.panel.users = a₁.panel.users := by
    have hu : List.Forall₂ Eq a₁.panel.users b₂.panel.users := hm.users
    rw [List.forall₂_eq_eq_eq] at hu
    exact hu.symm
  have hpatience : b₂.stop.patience = a₂.stop.patience := by
    have h : a₁.stop.patience = b₂.stop.patience + k := hm.stop.patience
    have h' := ha.stop.patience
    omega
  have hrefuses : b₂.refuses = a₁.refuses := by
    funext k c
    exact hm.refuses k (Engine.Call.matches_plain_iff.mpr rfl)
  apply Node.ext
  · exact hm.plan.trans hr.plan.symm
  · exact hm.clock.trans hr.clock.symm
  · exact hm.client.trans hr.client.symm
  · exact Panel.Script.ext (hm.config.trans hr.config.symm) (husers.trans hr.users.symm)
      (hs.push.trans ha.turns.symm)
  · exact StopSignal.ext (h₂.trans h₁.symm) hpatience (hm.stop.counted.trans hr.counted.symm)
  · exact (Engine.matches_plain_iff.mp hm.engine).trans hr.engine.symm
  · exact hrefuses.trans hr.refuses.symm
  · exact hm.calls.trans hr.calls.symm
  · exact (Roster.matches_plain_iff.mp hm.roster).trans hr.roster.symm
  · exact hs.ledger.trans ha.ledger.symm
  · exact hm.phase.trans hr.phase.symm
  · exact hm.fatal.trans hr.fatal.symm
  · rfl

theorem called_of_append {n n' : Node} {past : List Event} (h : n'.journal = past ++ n.journal) :
    n'.called = called { n with journal := past } ++ n.called := by
  rw [called, h, List.filterMap_append]
  rfl

theorem pushed_of_append {n n' : Node} {past : List Event} (h : n'.journal = past ++ n.journal) :
    n'.pushed = pushed { n with journal := past } ++ n.pushed := by
  rw [pushed, requests, h, List.filterMap_append, List.filter_append]
  rfl

theorem orderFree {n : Node} {timeout : Option Float} {policy : Retry} (hq : n.panel.Quiet)
    (hfirst : (n.sync.2.report timeout policy).2.stop.raised = false)
    (hlast : (n.report timeout policy).2.sync.2.stop.raised = false) :
    OrderFree n timeout policy := by
  have hreports := reports_report n timeout policy
  have hreports' := reports_report n.sync.2 timeout policy
  have hspares := spares_sync hq
  have hq' : (n.report timeout policy).2.panel.Quiet := by
    unfold Panel.Script.Quiet
    rw [hreports.config, hreports.users]
    exact hq
  have hspares' := spares_sync hq'
  have hsynced : Heeds n n.sync.2 := (passes_heeds n).sync (.refl n)
  have hreported : Heeds n (n.report timeout policy).2 :=
    (passes_heeds n).report (.refl n) timeout policy
  have hn₁ : n.sync.2.stop.raised = false :=
    raised_of_heeds ((passes_heeds _).report (.refl _) timeout policy) hfirst
  have hn₂ : (n.report timeout policy).2.stop.raised = false :=
    raised_of_heeds ((passes_heeds _).sync (.refl _)) hlast
  have hn : n.stop.raised = false := raised_of_heeds hsynced hn₁
  -- Each cycle may have taken patience from the node, which the other one does not notice.
  have hmatch := matches_apart_of_reports hreports
    ⟨hn₂.trans hn.symm, hreports.counted,
      (Nat.add_sub_of_le hreported.told.patience).symm⟩
  have habreast := abreast_of_spares hspares
    ⟨hn₁.trans hn.symm, hspares.counted, (Nat.add_sub_of_le hsynced.told.patience).symm⟩
  obtain ⟨hsync, hm⟩ := hmatch.sync (.inr ⟨hn₁, hlast⟩)
  obtain ⟨hreport, ha⟩ := habreast.report timeout policy (.inr ⟨hn₂, hfirst⟩)
  obtain ⟨synced, synced', hs, hs', hevents⟩ := hm.journal
  obtain ⟨reported, hr, hr'⟩ := ha.journal
  obtain rfl : synced' = synced := by
    have he := hevents.imp fun _ _ he => (eq_of_matches_apart he).symm
    rw [List.forall₂_eq_eq_eq] at he
    exact he.symm
  have hnode := eq_of_matches_of_abreast hm ha hreports' hspares' hfirst hlast (by
    rw [Nat.add_sub_of_le hreported.told.patience, Nat.add_sub_of_le hsynced.told.patience])
  refine ⟨hsync.symm, hreport.symm, ?_, ?_, synced', reported, ?_, ?_⟩
  · rw [(keepsRoster_report n.sync.2 timeout policy).called, called_of_append hs',
      called_of_append hs, (keepsRoster_report n timeout policy).called]
    rfl
  · rw [hspares'.pushed, pushed_of_append hr, pushed_of_append hr', hspares.pushed]
    rfl
  · rw [hr', hs]
  · rw [← hr, ← hs']
    exact hnode

/-- A sync cycle changes nothing of the traffic but that it counts what comes in meanwhile, and a
report cycle nothing but the traffic.  Where nothing comes in during the sync cycle and the node is
not told to stop, either may be run first. -/
theorem cycles_apart (n : Node) (timeout : Option Float) (policy : Retry) :
    Counts n n.sync.2
    ∧ (n.panel.Quiet → n.sync.2.ledger = n.ledger)
    ∧ Reports n (n.report timeout policy).2
    ∧ (n.panel.Quiet → (n.sync.2.report timeout policy).2.stop.raised = false →
        (n.report timeout policy).2.sync.2.stop.raised = false → OrderFree n timeout policy) :=
  ⟨(syncs_sync n).counts, fun hq => (spares_sync hq).ledger, reports_report n timeout policy,
    fun hq hfirst hlast => orderFree hq hfirst hlast⟩

/-- The sample once it has started, with the traffic that its spool held: both cycles do something,
in either order. -/
theorem cycles_apart_sample :
    OrderFree sample.start.2 none {} ∧ sample.start.2.sync.1 = .ok true
    ∧ (sample.start.2.report none {}).2.pushed ≠ [] := by
  have hq : sample.start.2.panel.Quiet := by
    unfold Panel.Script.Quiet
    decide +kernel
  refine ⟨?_, by decide +kernel, ?_⟩
  · exact (cycles_apart sample.start.2 none {}).2.2.2 hq (by decide +kernel) (by decide +kernel)
  · have hp : (sample.start.2.report none {}).2.pushed.length = 1 := by decide +kernel
    rintro he
    rw [he] at hp
    cases hp

end Node

end ProxyNode
