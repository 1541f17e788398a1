import ProxyNode.Proofs.Node.Refusals
import ProxyNode.Proofs.Roster.Guise

/-!
# Node — Pace, two nodes that keep pace

Two nodes whose stop signals are alike, but that one may have more patience left than the other.  As
long as none of them loses patience, a wait says the same to both, and what is tried again by one is
tried again by the other.

* `Paced`: a relation that knows the stop signals, and that events of both nodes leave alone.
* `Paced.retrying`: attempts that go on alike, tried again alike.
* `Fair.before`: nodes that are not told to stop were not told before.
-/

namespace ProxyNode

/-- The same signal, with `k` more waits of patience in `s` than in `t`. -/
structure StopSignal.Ahead (k : Nat) (s t : StopSignal) : Prop where
  raised : t.raised = s.raised
  counted : t.counted = s.counted
  patience : s.patience = t.patience + k

theorem StopSignal.Ahead.eq {s t : StopSignal} (h : s.Ahead 0 t) : t = s := by
  obtain ⟨hr, hc, hp⟩ := h
  cases s
  cases t
  cases hr
  cases hc
  cases hp
  rfl

namespace Node

/-- Two nodes that have the same patience, or are not told to stop. -/
def Fair (k : Nat) (a b : Node) : Prop :=
  k = 0 ∨ a.stop.raised = false ∧ b.stop.raised = false

/-- Two computations that go on alike: results that belong together, and nodes that do. -/
structure Agrees {α β : Type} (V : α → β → Prop) (R : Node → Node → Prop) (x : α × Node)
    (y : β × Node) : Prop where
  results : V x.1 y.1
  nodes : R x.2 y.2

/-- What a list brings about in both nodes. -/
theorem both_foldl {α : Type} {R : Node → Node → Prop} {f : Node → α → Node}
    (hf : ∀ {a b} x, R a b → R (f a x) (f b x)) {a b : Node} (h : R a b) (l : List α) :
    R (l.foldl f a) (l.foldl f b) := by
  induction l generalizing a b with
  | nil => exact h
  | cons x rest ih => exact ih (hf x h)

/-- A relation between nodes with the same clock that tells how their stop signals are related, and
that holds further if the same happens to both. -/
structure Paced (k : Nat) (R : Node → Node → Prop) : Prop where
  clock : ∀ {a b}, R a b → b.clock = a.clock
  stop : ∀ {a b}, R a b → a.stop.Ahead k b.stop
  signal : ∀ {a b} {s t : StopSignal} (events : List Event), R a b → s.Ahead k t →
    R { a with stop := s, journal := events ++ a.journal }
      { b with stop := t, journal := events ++ b.journal }

variable {k : Nat} {R : Node → Node → Prop} {a a' b b' : Node}

theorem Agrees.exists {α : Type} {x y : α × Node} (h : Agrees Eq R x y) :
    ∃ r m m', x = (r, m) ∧ y = (r, m') ∧ R m m' :=
  ⟨x.1, x.2, y.2, rfl, Prod.ext h.results.symm rfl, h.nodes⟩

theorem raised_of_heeds {n n' : Node} (h : Heeds n n') (hr : n'.stop.raised = false) :
    n.stop.raised = false :=
  Bool.eq_false_of_not_eq_true fun hn => Bool.eq_false_iff.mp hr (h.told.stays hn)

theorem Fair.before (h : Fair k a' b') (ha : Heeds a a') (hb : Heeds b b') : Fair k a b :=
  h.imp_right (And.imp (raised_of_heeds ha) (raised_of_heeds hb))

/-- The pause before a further try; it says whether to give up. -/
def pause (n : Node) (errand : String) (fault : Fault) (delay : Float) : Except Fault Bool × Node :=
  (n.note (.retrying errand fault delay)).waitFor delay

theorem pause_fst {errand : String} {fault : Fault} {delay : Float} {stopped : Bool}
    (h : (a.pause errand fault delay).1 = .ok stopped) :
    stopped = (a.pause errand fault delay).2.stop.raised := by
  have hw := eq_of_waitUnless_ok (Prod.ext h rfl : a.pause errand fault delay = (.ok stopped, _))
  rw [← congrArg Prod.snd hw, ← wait_fst, hw]

/-- An attempt that may be made `tries` more times. -/
def tryFrom {α : Type} (attempt : Node → Except Fault α × Node) (policy : Retry) (errand : String)
    (tries : Nat) (delay : Float) (n : Node) : Except Fault α × Node :=
  policy.runFrom Fault.isTransient attempt (fun fault delay n => n.pause errand fault delay) tries
    delay n

/-- What follows a pause: the fault stands if it says so, and gives way to that of a pause that
cannot be made. -/
def afterPause {α : Type} (fault : Fault) (again : Node → Except Fault α × Node) :
    Except Fault Bool × Node → Except Fault α × Node
  | (.error refused, n) => (.error refused, n)
  | (.ok true, n) => (.error fault, n)
  | (.ok false, n) => again n

theorem tryFrom_succ {α : Type} (attempt : Node → Except Fault α × Node) (policy : Retry)
    (errand : String) (tries : Nat) (delay : Float) (n : Node) :
    tryFrom attempt policy errand (tries + 1) delay n
      = match attempt n with
        | (.ok a, m) => (.ok a, m)
        | (.error fault, m) =>
          if fault.isTransient then
            afterPause fault (tryFrom attempt policy errand tries (delay * policy.multiplier))
              (m.pause errand fault (policy.capped delay))
          else (.error fault, m) := by
  rw [tryFrom, Retry.runFrom]
  rcases attempt n with ⟨_ | _, m⟩
  · dsimp only
    split
    · rcases m.pause errand _ (policy.capped delay) with ⟨_ | _ | _, k⟩ <;> rfl
    · rfl
  · rfl

/-- A node that is not told to stop in the end was not told to give up. -/
theorem unraised_of_after {α : Type} {fault : Fault} {again : Node → Except Fault α × Node}
    {paused : Except Fault Bool × Node}
    (hp : ∀ {stopped}, paused.1 = .ok stopped → stopped = paused.2.stop.raised)
    (h : (afterPause fault again paused).2.stop.raised = false) :
    paused.2.stop.raised = false := by
  obtain ⟨_ | _ | _, n⟩ := paused
  · exact h
  · exact (hp rfl).symm
  · exact h

namespace Paced

theorem log (hp : Paced k R) (h : R a b) (e : Event) : R (a.log e) (b.log e) :=
  hp.signal [e] h (hp.stop h)

theorem note (hp : Paced k R) (h : R a b) (notice : Notice) : R (a.note notice) (b.note notice) :=
  hp.log h (.noted notice)

theorem raise (hp : Paced k R) (h : R a b) : R a.raise b.raise := by
  have hs := hp.stop h
  unfold Node.raise
  rw [hs.raised]
  split
  · exact h
  · exact hp.signal [.stopRaised] h ⟨rfl, hs.counted, hs.patience⟩

/-- The wait by which one of the nodes loses patience is fair only to nodes of the same patience. -/
theorem wait (hp : Paced k R) (h : R a b) (seconds : Float)
    (hfair : Fair k (a.wait seconds).2 (b.wait seconds).2) :
    R (a.wait seconds).2 (b.wait seconds).2 := by
  have hs := hp.stop h
  unfold Node.wait at hfair ⊢
  rw [hs.counted] at hfair ⊢
  split
  · next hc =>
    rw [if_pos hc, if_pos hc] at hfair
    dsimp only at hfair ⊢
    have hw {t t' : StopSignal} (ht : t.Ahead k t') :
        R { a with stop := t, journal := .waited seconds :: a.journal }
          { b with stop := t', journal := .waited seconds :: b.journal } :=
      hp.signal [.waited seconds] h ht
    by_cases hz : k = 0
    · have hsame : b.stop.patience = a.stop.patience := by rw [hs.patience, hz, Nat.add_zero]
      rw [hsame]
      split
      · exact hp.raise (hw ⟨hs.raised, hs.counted, by rw [hz]; rfl⟩)
      · exact hw ⟨hs.raised, hs.counted, by rw [hz]; rfl⟩
    · obtain ⟨ha, hb⟩ := hfair.resolve_left hz
      have hle {n : Node} {p : Nat} (hn : (if p ≤ 1 then n.raise else n).stop.raised = false) :
          ¬ p ≤ 1 := fun hp => by
        rw [if_pos hp, raised_of_raise] at hn
        cases hn
      have hpa := hle ha
      have hpb := hle hb
      rw [if_neg hpa, if_neg hpb]
      refine hw ⟨hs.raised, hs.counted, ?_⟩
      show a.stop.patience - 1 = b.stop.patience - 1 + k
      rw [hs.patience]
      omega
  · exact h

/-- The clock refuses a wait to both of the nodes or to none. -/
theorem waitUnless (hp : Paced k R) (h : R a b) (refusal : Option Unexpected) (seconds : Float)
    (hfair : Fair k (a.waitUnless refusal seconds).2 (b.waitUnless refusal seconds).2) :
    Agrees Eq R (a.waitUnless refusal seconds) (b.waitUnless refusal seconds) := by
  unfold Node.waitUnless at hfair ⊢
  rw [(hp.stop h).raised] at hfair ⊢
  split
  · exact ⟨rfl, h⟩
  · next hr =>
    rw [hr] at hfair
    have hw := hp.wait h seconds hfair
    refine ⟨?_, hw⟩
    rw [wait_fst, wait_fst, (hp.stop hw).raised]

theorem waitFor (hp : Paced k R) (h : R a b) (seconds : Float)
    (hfair : Fair k (a.waitFor seconds).2 (b.waitFor seconds).2) :
    Agrees Eq R (a.waitFor seconds) (b.waitFor seconds) := by
  unfold Node.waitFor at hfair ⊢
  rw [hp.clock h] at hfair ⊢
  exact hp.waitUnless h _ seconds hfair

/-- What happens from a request that is in the journal to its answer. -/
theorem turn (hp : Paced k R) (hemit : ∀ {a b} d, R a b → R (a.emit d) (b.emit d)) (h : R a b)
    {t t' : Panel.Turn} (hc : t'.counted = t.counted) (hs : t'.stops = t.stops) :
    R (if t.stops then (t.counted.foldl emit a).raise else t.counted.foldl emit a)
      (if t'.stops then (t'.counted.foldl emit b).raise else t'.counted.foldl emit b) := by
  have hm := both_foldl hemit h t.counted
  rw [hc, hs]
  split
  · exact hp.raise hm
  · exact hm

variable {α : Type} {V : α → α → Prop} {attempt attempt' : Node → Except Fault α × Node}

theorem pause (hp : Paced k R) (h : R a b) (errand : String) (fault : Fault) (delay : Float)
    (hfair : Fair k (a.pause errand fault delay).2 (b.pause errand fault delay).2) :
    Agrees Eq R (a.pause errand fault delay) (b.pause errand fault delay) := by
  have hn := hp.note h (.retrying errand fault delay)
  exact hp.waitFor hn delay hfair

theorem runFrom (hp : Paced k R)
    (hattempt : ∀ {a b}, R a b → Agrees (Outcomes V) R (attempt a) (attempt' b))
    (policy : Retry) (errand : String) (tries : Nat) (delay : Float) (h : R a b)
    (hfair : Fair k (tryFrom attempt policy errand tries delay a).2
      (tryFrom attempt' policy errand tries delay b).2) :
    Agrees (Outcomes V) R (tryFrom attempt policy errand tries delay a)
      (tryFrom attempt' policy errand tries delay b) := by
  induction tries generalizing delay a b with
  | zero => exact hattempt h
  | succ tries ih =>
      obtain ⟨ho, hn⟩ := hattempt h
      rw [tryFrom_succ, tryFrom_succ] at hfair ⊢
      generalize attempt a = x, attempt' b = y at ho hn hfair
      obtain ⟨r, m⟩ := x
      obtain ⟨r', m'⟩ := y
      cases ho with
      | ok hv => exact ⟨.ok hv, hn⟩
      | error fault =>
          dsimp only at hn hfair ⊢
          split
          · next ht =>
            rw [if_pos ht, if_pos ht] at hfair
            have hpause := hp.pause hn errand fault (policy.capped delay) (hfair.imp_right (And.imp
              (unraised_of_after pause_fst) (unraised_of_after pause_fst)))
            obtain ⟨stop, n, n', hx, hy, hn'⟩ := hpause.exists
            rw [hx, hy] at hfair ⊢
            rcases stop with refused | _ | _
            · exact ⟨.error refused, hn'⟩
            · exact ih _ hn' hfair
            · exact ⟨.error fault, hn'⟩
          · exact ⟨.error fault, hn⟩

theorem retrying (hp : Paced k R)
    (hattempt : ∀ {a b}, R a b → Agrees (Outcomes V) R (attempt a) (attempt' b))
    (h : R a b) (policy : Retry) (errand : String)
    (hfair : Fair k (a.retrying policy errand attempt).2 (b.retrying policy errand attempt').2) :
    Agrees (Outcomes V) R (a.retrying policy errand attempt) (b.retrying policy errand attempt') :=
  hp.runFrom hattempt policy errand policy.extra policy.base h hfair

end Paced

end Node

end ProxyNode
