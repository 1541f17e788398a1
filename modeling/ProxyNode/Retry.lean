/-!
# Retry

Trying a call again.  A policy allows a number of attempts and says how long to pause between two of
them; the pauses grow by a factor up to a ceiling.

* `length_delays`: a policy with `n` further attempts pauses `n` times.
* `runFrom_of_ok`, `runFrom_of_final`: an attempt that succeeds, or fails in a way that trying again
  does not mend, is the last one.
* `runWatched_of_ok`, `runAsleep_of_ok`: a first attempt that succeeds is followed by no pause.
-/

namespace ProxyNode

structure Retry where
  attempts : Int := 3
  base : Float := 1.0
  multiplier : Float := 2.0
  ceiling : Float := 30.0

namespace Retry

/-- A single attempt. -/
def once : Retry := { attempts := 1 }

/-- How many attempts may follow the first. -/
def extra (p : Retry) : Nat := (p.attempts - 1).toNat

/-- A pause cut off at the ceiling. -/
def capped (p : Retry) (delay : Float) : Float := if p.ceiling < delay then p.ceiling else delay

/-- The first `n` pauses from `delay` on. -/
def delaysFrom (p : Retry) : Nat → Float → List Float
  | 0, _ => []
  | n + 1, delay => p.capped delay :: p.delaysFrom n (delay * p.multiplier)

/-- The pauses of the policy. -/
def delays (p : Retry) : List Float := p.delaysFrom p.extra p.base

variable {σ ε α : Type}

/-- Runs a call that may be tried `n` more times.  `pause` is told the fault and the delay and says
whether to give up, in which case the fault stands; a pause that cannot be made ends the run with a
fault of its own. -/
def runFrom (p : Retry) (retriable : ε → Bool) (attempt : σ → Except ε α × σ)
    (pause : ε → Float → σ → Except ε Bool × σ) : Nat → Float → σ → Except ε α × σ
  | 0, _, s => attempt s
  | n + 1, delay, s =>
    match attempt s with
    | (.ok a, s₁) => (.ok a, s₁)
    | (.error e, s₁) =>
      if retriable e then
        match pause e (p.capped delay) s₁ with
        | (.error fault, s₂) => (.error fault, s₂)
        | (.ok true, s₂) => (.error e, s₂)
        | (.ok false, s₂) => runFrom p retriable attempt pause n (delay * p.multiplier) s₂
      else (.error e, s₁)

/-- Runs a call under the policy. -/
def run (p : Retry) (retriable : ε → Bool) (attempt : σ → Except ε α × σ)
    (pause : ε → Float → σ → Except ε Bool × σ) (s : σ) : Except ε α × σ :=
  p.runFrom retriable attempt pause p.extra p.base s

/-- A call beside a list of delays that it does not touch. -/
def beside (attempt : σ → Except ε α × σ) (s : σ × List Float) : Except ε α × (σ × List Float) :=
  let (r, after) := attempt s.1
  (r, after, s.2)

/-- Runs a call that can be stopped while it pauses: `wait k delay` says whether the `k`-th pause,
from one on, finds that it is, or why it cannot be made.  The result has the delays of the pauses
that were asked for, the last one first. -/
def runWatched (p : Retry) (retriable : ε → Bool) (wait : Nat → Float → Except ε Bool)
    (attempt : σ → Except ε α × σ) (s : σ) : Except ε α × (σ × List Float) :=
  p.run retriable (beside attempt)
    (fun _ delay t => (wait (t.2.length + 1) delay, t.1, delay :: t.2)) (s, [])

/-- Runs a call that nothing can stop: `sleep delay` says why a sleep cannot be made, if it cannot.
The result has the delays of the sleeps that were asked for, the last one first; one that is not
positive is no sleep. -/
def runAsleep (p : Retry) (retriable : ε → Bool) (sleep : Float → Except ε Unit)
    (attempt : σ → Except ε α × σ) (s : σ) : Except ε α × (σ × List Float) :=
  p.run retriable (beside attempt)
    (fun _ delay t =>
      if 0.0 < delay then ((sleep delay).map fun _ => false, t.1, delay :: t.2)
      else (.ok false, t)) (s, [])

theorem length_delaysFrom (p : Retry) (n : Nat) (delay : Float) :
    (p.delaysFrom n delay).length = n := by
  induction n generalizing delay with
  | zero => rfl
  | succ n ih => simp [delaysFrom, ih]

theorem length_delays (p : Retry) : p.delays.length = p.extra := p.length_delaysFrom _ _

theorem runFrom_of_ok {p : Retry} {retriable : ε → Bool} {attempt : σ → Except ε α × σ}
    {pause : ε → Float → σ → Except ε Bool × σ} {n : Nat} {delay : Float} {s s' : σ} {a : α}
    (h : attempt s = (.ok a, s')) : p.runFrom retriable attempt pause n delay s = (.ok a, s') := by
  cases n with
  | zero => exact h
  | succ n => simp [runFrom, h]

theorem runFrom_of_final {p : Retry} {retriable : ε → Bool} {attempt : σ → Except ε α × σ}
    {pause : ε → Float → σ → Except ε Bool × σ} {n : Nat} {delay : Float} {s s' : σ} {e : ε}
    (h : attempt s = (.error e, s')) (he : retriable e = false) :
    p.runFrom retriable attempt pause n delay s = (.error e, s') := by
  cases n with
  | zero => exact h
  | succ n => simp [runFrom, h, he]

theorem runWatched_of_ok {p : Retry} {retriable : ε → Bool} {wait : Nat → Float → Except ε Bool}
    {attempt : σ → Except ε α × σ} {s s' : σ} {a : α} (h : attempt s = (.ok a, s')) :
    p.runWatched retriable wait attempt s = (.ok a, s', []) :=
  runFrom_of_ok (by simp [beside, h])

theorem runAsleep_of_ok {p : Retry} {retriable : ε → Bool} {sleep : Float → Except ε Unit}
    {attempt : σ → Except ε α × σ} {s s' : σ} {a : α} (h : attempt s = (.ok a, s')) :
    p.runAsleep retriable sleep attempt s = (.ok a, s', []) :=
  runFrom_of_ok (by simp [beside, h])

end Retry

end ProxyNode
