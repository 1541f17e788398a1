import ProxyNode.Retry

/-!
# Retry — what a call keeps

* `runFrom_spec`: what holds before every attempt, and what every attempt leaves, goes through the
  pauses between them.
* `run_keeps`: so does what all of these keep.
-/

namespace ProxyNode.Retry

variable {σ ε α : Type} {p : Retry} {retriable : ε → Bool} {attempt : σ → Except ε α × σ}
  {pause : ε → Float → σ → Except ε Bool × σ}

/-- If `P` before an attempt gives `Q` of its result, and a pause of the policy after a fault that is
retriable gives `P` back and keeps `Q` of that fault, or gives `Q` of the fault for which it cannot be
made, then `Q` holds of the result of the call. -/
theorem runFrom_spec {P : σ → Prop} {Q : Except ε α → σ → Prop}
    (hattempt : ∀ s, P s → Q (attempt s).1 (attempt s).2)
    (hpause : ∀ e delay s, retriable e = true → Q (.error e) s →
      P (pause e delay s).2 ∧ Q (.error e) (pause e delay s).2)
    (n : Nat) (delay : Float)
    (hrefused : ∀ e, ∀ d ∈ p.delaysFrom n delay, ∀ s fault s', retriable e = true → Q (.error e) s →
      pause e d s = (.error fault, s') → Q (.error fault) s')
    {s : σ} (hs : P s) :
    Q (p.runFrom retriable attempt pause n delay s).1
      (p.runFrom retriable attempt pause n delay s).2 := by
  induction n generalizing delay s with
  | zero => exact hattempt s hs
  | succ n ih =>
      have ha := hattempt s hs
      rw [delaysFrom] at hrefused
      unfold runFrom
      split
      · next a s₁ heq => rwa [heq] at ha
      · next e s₁ heq =>
        rw [heq] at ha
        split
        · next he =>
          have hp := hpause e (p.capped delay) s₁ he ha
          split
          · next fault s₂ heq₂ => exact hrefused e _ List.mem_cons_self s₁ fault s₂ he ha heq₂
          · next s₂ heq₂ => rw [heq₂] at hp; exact hp.2
          · next s₂ heq₂ =>
            rw [heq₂] at hp
            exact ih _ (fun e d hd => hrefused e d (List.mem_cons_of_mem _ hd)) hp.1
        · exact ha

theorem run_spec {P : σ → Prop} {Q : Except ε α → σ → Prop}
    (hattempt : ∀ s, P s → Q (attempt s).1 (attempt s).2)
    (hpause : ∀ e delay s, retriable e = true → Q (.error e) s →
      P (pause e delay s).2 ∧ Q (.error e) (pause e delay s).2)
    (hrefused : ∀ e, ∀ d ∈ p.delays, ∀ s fault s', retriable e = true → Q (.error e) s →
      pause e d s = (.error fault, s') → Q (.error fault) s')
    {s : σ} (hs : P s) :
    Q (p.run retriable attempt pause s).1 (p.run retriable attempt pause s).2 :=
  runFrom_spec hattempt hpause p.extra p.base hrefused hs

/-- What every attempt and every pause keeps, made or not, is kept by the call. -/
theorem run_keeps {P : σ → Prop} (hattempt : ∀ s, P s → P (attempt s).2)
    (hpause : ∀ e delay s, P s → P (pause e delay s).2) {s : σ} (hs : P s) :
    P (p.run retriable attempt pause s).2 :=
  run_spec (Q := fun _ => P) hattempt (fun e delay s _ h => ⟨hpause e delay s h, hpause e delay s h⟩)
    (fun e delay _ s fault s' _ h heq => by
      have hp := hpause e delay s h
      rwa [heq] at hp) hs

end ProxyNode.Retry
