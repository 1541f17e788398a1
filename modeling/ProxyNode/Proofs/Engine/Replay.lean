import Mathlib.Data.List.Infix
import ProxyNode.Proofs.Engine.Basic

/-!
# Engine — Replay

The engine as its calls left it, and what it asks of a call.  Two engines with the same instances
and the same users do the same, whoever listens to them.

* `perform_of_permits`, `permits_of_perform`: the engine does just the calls that it permits.
* `Alike.perform`: engines that are alike do the same.
* `Sound`: calls each of which was permitted when it was made.
* `Sound.cons`: one more such call.
-/

namespace ProxyNode.Engine

/-- What the engine asks of a call: to be started it must not run, a handle must be that of the
latest instance, which must run, a user that is added must be new and its key of the length that the
cipher needs, and one that is removed must be there. -/
def Permits (e : Engine) : Call → Prop
  | .start _ _ => e.anyRunning = false
  | .stop h => ∃ i, e.check h = .ok i
  | .add h id key => ∃ i, e.check h = .ok i ∧ key.length = i.config.cipher.keyLength
    ∧ e.users.get? id = none
  | .remove h id => ∃ i key, e.check h = .ok i ∧ e.users.get? id = some key

/-- The engine after some calls, the latest first, of which those that were refused did nothing. -/
def replay (e : Engine) : List (Call × Option EngineCause) → Engine
  | [] => e
  | (c, none) :: past =>
    match (e.replay past).perform c with
    | .ok e' => e'
    | .error _ => e.replay past
  | (_, some _) :: past => e.replay past

theorem replay_cons_of_ok {e e' : Engine} {c : Call} {past : List (Call × Option EngineCause)}
    (h : (e.replay past).perform c = .ok e') : e.replay ((c, none) :: past) = e' := by
  rw [replay, h]

/-- Whether two engines have the same instances and the same users. -/
structure Alike (e e' : Engine) : Prop where
  instances : e'.instances = e.instances
  users : e'.users = e.users

/-- Each of some calls, the latest first, was permitted when it was made, and was done unless it was
refused from outside. -/
def Sound (e : Engine) (outside : Call → Prop) (calls : List (Call × Option EngineCause)) : Prop :=
  ∀ c refusal past, (c, refusal) :: past <:+ calls →
    (e.replay past).Permits c ∧ (refusal = none ∨ refusal = some c.refusal ∧ outside c)

variable {e e' d : Engine} {c : Call}

theorem perform_of_permits (h : e.Permits c) : ∃ e', e.perform c = .ok e' := by
  cases c with
  | start config users => exact ⟨_, start_eq_ok_iff.mpr ⟨h, rfl⟩⟩
  | stop k =>
      obtain ⟨i, hc⟩ := h
      exact ⟨_, stop_of_check hc⟩
  | add k id key =>
      obtain ⟨i, hc, hk, hu⟩ := h
      exact ⟨_, add_of_check hc hk hu⟩
  | remove k id =>
      obtain ⟨i, key, hc, hu⟩ := h
      exact ⟨_, remove_of_check hc hu⟩

theorem permits_of_perform (h : e.perform c = .ok e') : e.Permits c := by
  cases c with
  | start config users => exact (start_eq_ok_iff.mp h).1
  | stop k =>
      have h : e.stop k = .ok e' := h
      rw [stop_eq] at h
      split at h
      · cases h
      · next i hc => exact ⟨i, hc⟩
  | add k id key =>
      have h : e.add k id key = .ok e' := h
      rw [add_eq] at h
      split at h
      · cases h
      · next i hc =>
        split at h
        · cases h
        · next hk =>
          split at h
          · cases h
          · next hu => exact ⟨i, hc, not_not.mp hk, by simpa [OrderedMap.contains] using hu⟩
  | remove k id =>
      have h : e.remove k id = .ok e' := h
      rw [remove_eq] at h
      split at h
      · cases h
      · next i hc =>
        split at h
        · next hu =>
          obtain ⟨key, hkey⟩ := Option.isSome_iff_exists.mp hu
          exact ⟨i, key, hc, hkey⟩
        · cases h

theorem Alike.refl (e : Engine) : Alike e e := ⟨rfl, rfl⟩

theorem Alike.check (ha : Alike e e') (h : Handle) : e'.check h = e.check h := by
  unfold Engine.check latest displayHandle
  rw [ha.instances]

theorem Alike.permits (ha : Alike e e') (hp : e.Permits c) : e'.Permits c := by
  cases c with
  | start config users =>
      have hr : e'.anyRunning = e.anyRunning := by
        unfold anyRunning isRunning latest
        rw [ha.instances]
      exact hr.trans hp
  | stop k => simpa only [Permits, ha.check] using hp
  | add k id key => simpa only [Permits, ha.check, ha.users] using hp
  | remove k id => simpa only [Permits, ha.check, ha.users] using hp

/-- Engines that are alike do the same. -/
theorem Alike.perform (ha : Alike e e') (hp : e.perform c = .ok d) :
    ∃ d', e'.perform c = .ok d' ∧ Alike d d' := by
  obtain ⟨d', hp'⟩ := perform_of_permits (ha.permits (permits_of_perform hp))
  refine ⟨d', hp', ?_⟩
  cases c with
  | start config users =>
      obtain ⟨-, rfl⟩ := start_eq_ok_iff.mp hp
      obtain ⟨-, rfl⟩ := start_eq_ok_iff.mp hp'
      exact ⟨congrArg (· ++ [⟨config, true⟩]) ha.instances, rfl⟩
  | stop k =>
      obtain ⟨i, hc⟩ := permits_of_perform hp
      cases hp.symm.trans (stop_of_check hc)
      cases hp'.symm.trans (stop_of_check ((ha.check k).trans hc))
      exact ⟨congrArg (List.set · k { i with running := false }) ha.instances, ha.users⟩
  | add k id key =>
      rw [users_of_add hp, users_of_add hp']
      exact ⟨ha.instances, congrArg (OrderedMap.insert · id key) ha.users⟩
  | remove k id =>
      rw [users_of_remove hp, users_of_remove hp']
      exact ⟨ha.instances, congrArg (OrderedMap.erase · id) ha.users⟩

theorem sound_nil (e : Engine) (outside : Call → Prop) : e.Sound outside [] :=
  fun _ _ _ h => absurd (List.suffix_nil.mp h) (List.cons_ne_nil _ _)

/-- One more call that is permitted, and refused only from outside. -/
theorem Sound.cons {outside : Call → Prop} {calls : List (Call × Option EngineCause)}
    (hs : e.Sound outside calls) {refusal : Option EngineCause}
    (hp : (e.replay calls).Permits c)
    (hr : refusal = none ∨ refusal = some c.refusal ∧ outside c) :
    e.Sound outside ((c, refusal) :: calls) := by
  intro c' refusal' past h
  rcases List.suffix_cons_iff.mp h with heq | h
  · cases heq
    exact ⟨hp, hr⟩
  · exact hs c' refusal' past h

end ProxyNode.Engine
