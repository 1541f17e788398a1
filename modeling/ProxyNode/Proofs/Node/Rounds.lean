import ProxyNode.Proofs.Node.Shutdown

/-!
# Node — Rounds

What a running node does is made of sync cycles, report cycles and what lies between them.  What is
kept by these three is kept by a tick of a loop, by every action, and by the cycles under way at a
shutdown.

* `Between`: a relation that covers all that lies between the cycles.
* `Rounds`: what such a relation and the cycles keep; `Rounds.act` and `Rounds.closing` follow.
-/

namespace ProxyNode.Node

/-- Whether `R` holds from a node to the same node after anything that lies between its cycles: it
counted and waited, a cycle began, it failed, or its stop signal was set. -/
structure Between (R : Node → Node → Prop) : Prop where
  listens : ∀ {n n'}, Listens n n' → R n n'
  began : ∀ n c, R n (n.log (.began c))
  fails : ∀ n fault, R n (n.fail fault)
  signals : ∀ n (s : StopSignal), R n { n with stop := s }

/-- What is kept by the cycles and by what lies between them. -/
structure Rounds (R : Node → Node → Prop) (P : Node → Prop) : Prop where
  between : Between R
  keeps : ∀ {n n'}, P n → R n n' → P n'
  sync : ∀ {n}, P n → P n.sync.2
  report : ∀ {n} timeout policy, P n → P (n.report timeout policy).2

namespace Rounds

variable {R : Node → Node → Prop} {P : Node → Prop} {n : Node}

theorem listens (hp : Rounds R P) {n' : Node} (h : P n) (hl : Listens n n') : P n' :=
  hp.keeps h (hp.between.listens hl)

theorem tick (hp : Rounds R P) (h : P n) (c : Cycle) : P (n.tick c).2 := by
  have hd : P ((n.log (.began c)).perform c).2 := by
    have hl : P (n.log (.began c)) := hp.keeps h (hp.between.began n c)
    cases c with
    | sync => exact hp.sync hl
    | report => exact hp.report none _ hl
  unfold Node.tick
  split
  · next ok m hm =>
    rw [hm] at hd
    exact hd
  · next fault m hm =>
    rw [hm] at hd
    split
    · exact hp.keeps hd (hp.between.fails m fault)
    · exact hp.listens hd (listens_note m _)

theorem act (hp : Rounds R P) (h : P n) (a : Action) : P (n.act a) := by
  cases a with
  | count d => exact hp.listens h (listens_count n d)
  | emit d => exact hp.listens h (listens_emit n d)
  | sync => exact hp.sync h
  | report timeout policy => exact hp.report timeout policy h
  | tick c => exact hp.tick h c
  | wait seconds => exact hp.listens h (listens_wait n seconds)
  | stop => exact hp.listens h (listens_raise n)
  | signal s => exact hp.keeps h (hp.between.signals n s)

theorem acts (hp : Rounds R P) (h : P n) (actions : List Action) : P (n.acts actions) :=
  acts_induction (P := P) (fun _ a hm => hp.act hm a) h actions

/-- The cycles under way keep what a node that begins to shut down has. -/
theorem closing (hp : Rounds R P) (h : P { n with phase := .stopping }) (inFlight : List Cycle) :
    P (n.closing inFlight) := by
  have hr := (listens_raise { n with phase := .stopping }).trans (listens_note _ .shuttingDown)
  obtain ⟨l, hl⟩ := exists_acts_of_closing n inFlight
  rw [hl]
  exact hp.acts (hp.listens h hr) l

end Rounds

end ProxyNode.Node
