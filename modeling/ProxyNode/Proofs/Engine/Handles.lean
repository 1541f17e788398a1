import Mathlib.Data.List.Nodup
import Mathlib.Data.List.Range
import ProxyNode.Proofs.Engine.Replay
import ProxyNode.Proofs.Roster.Keyed

/-!
# Engine — Handles

An engine in use: it is asked for one thing after the other, under any handles at all, and what
came of each call is kept.  These answers alone tell what runs, which key a user is registered with
and whether the next call is done.

* `run_ofCall`: what a call comes to; one that is refused leaves the engine as it was.
* `returned`, `current`, `registered`, `Allowed`: what the answers tell.
* `Follows.after`: each call keeps the engine in step with its answers.
* `handles_exclusive`: after any calls at most one handle runs, the one that the latest start gave
  out; the calls that are allowed are done, and all others leave the engine as it was.
-/

namespace ProxyNode.Engine

/-! ### One call -/

section Call

variable {e : Engine} {c : Call}

theorem run_map {α β : Type} (f : α → β) (w : Work α) : (f <$> w).run e = match w.run e with
    | .ok a e' => .ok (f a) e'
    | .error cause e' => .error cause e' := by
  show EStateM.map f w e = _
  unfold EStateM.map EStateM.run
  cases w e <;> rfl

/-- The handle that a call gives out if it is done. -/
def given (e : Engine) : Call → Option Handle
  | .start _ _ => some e.instances.length
  | _ => none

/-- A call that is refused leaves the engine as it was. -/
theorem run_ofCall (e : Engine) (c : Call) : (Work.ofCall c).run e = match e.perform c with
    | .ok e' => .ok (e.given c) e'
    | .error cause => .error cause e := by
  cases c with
  | start config users =>
      rw [Work.ofCall, run_map, run_start, perform, start_eq]
      by_cases hr : e.anyRunning = true
      · rw [if_pos hr, if_pos hr]
      · rw [if_neg hr, if_neg hr]
        rfl
  | stop h =>
      rw [Work.ofCall, run_map, run_stop, perform, stop_eq]
      cases e.check h <;> rfl
  | add h id key =>
      rw [Work.ofCall, run_map, run_add, perform, add_eq]
      cases e.check h with
      | error cause => rfl
      | ok i =>
          dsimp only
          by_cases hk : key.length ≠ i.config.cipher.keyLength
          · rw [if_pos hk, if_pos hk]
          · rw [if_neg hk, if_neg hk]
            by_cases hu : e.users.contains id = true
            · rw [if_pos hu, if_pos hu]
            · rw [if_neg hu, if_neg hu]
              rfl
  | remove h id =>
      rw [Work.ofCall, run_map, run_remove, perform, remove_eq]
      cases e.check h with
      | error cause => rfl
      | ok i =>
          dsimp only
          by_cases hu : e.users.contains id = true
          · rw [if_pos hu, if_pos hu]
            rfl
          · rw [if_neg hu, if_neg hu]

theorem run_ofCall_of_permits (h : e.Permits c) :
    ∃ e', e.perform c = .ok e' ∧ (Work.ofCall c).run e = .ok (e.given c) e' := by
  obtain ⟨e', hp⟩ := perform_of_permits h
  exact ⟨e', hp, by rw [run_ofCall, hp]⟩

theorem run_ofCall_of_not_permits (h : ¬ e.Permits c) :
    ∃ cause, (Work.ofCall c).run e = .error cause e := by
  rw [run_ofCall]
  cases hp : e.perform c with
  | ok e' => exact absurd (permits_of_perform hp) h
  | error cause => exact ⟨cause, rfl⟩

end Call

/-! ### The answers so far -/

/-- A call and what came of it: the handle that was given out, if any, or why it was refused. -/
structure Deed where
  call : Call
  answer : Except EngineCause (Option Handle)

/-- The handles that starts gave out, the latest first. -/
def returned : List Deed → List Handle
  | [] => []
  | ⟨.start _ _, .ok (some h)⟩ :: past => h :: returned past
  | _ :: past => returned past

/-- The handle that runs, and under which configuration: that of the latest start that was done,
unless it was stopped since. -/
def current : List Deed → Option (Handle × NodeConfig)
  | [] => none
  | ⟨.start config _, .ok (some h)⟩ :: _ => some (h, config)
  | ⟨.stop _, .ok _⟩ :: _ => none
  | _ :: past => current past

/-- The key that a user is registered with: that of its last entry at the latest start, unless the
user was added or removed since. -/
def registered (id : Int) : List Deed → Option (List UInt8)
  | [] => none
  | ⟨.start _ users, .ok _⟩ :: _ => (lastOf users id).map User.key
  | ⟨.add _ j key, .ok _⟩ :: past => if id = j then some key else registered id past
  | ⟨.remove _ j, .ok _⟩ :: past => if id = j then none else registered id past
  | _ :: past => registered id past

/-- Whether a call is allowed after what went before: a start while nothing runs, and anything else
under the handle that runs, where who is added has to be new, with a key for the cipher, and who is
removed has to be there. -/
def Allowed (past : List Deed) : Call → Prop
  | .start _ _ => current past = none
  | .stop h => ∃ config, current past = some (h, config)
  | .add h id key => ∃ config, current past = some (h, config)
    ∧ key.length = config.cipher.keyLength ∧ registered id past = none
  | .remove h id => ∃ config, current past = some (h, config) ∧ ∃ key, registered id past = some key

section Refused

variable {c : Call} {cause : EngineCause} {past : List Deed}

/-! What the answers tell is the same after a call that is refused. -/

theorem returned_refused : returned (⟨c, .error cause⟩ :: past) = returned past := by
  cases c <;> rfl

theorem current_refused : current (⟨c, .error cause⟩ :: past) = current past := by
  cases c <;> rfl

theorem registered_refused (id : Int) :
    registered id (⟨c, .error cause⟩ :: past) = registered id past := by
  cases c <;> rfl

end Refused

/-- An engine in use, and the answers that it gave, the latest first. -/
structure Service where
  engine : Engine
  past : List Deed := []

namespace Service

/-- One more call. -/
def after (w : Service) (c : Call) : Service :=
  match (Work.ofCall c).run w.engine with
  | .ok handle e => ⟨e, ⟨c, .ok handle⟩ :: w.past⟩
  | .error cause e => ⟨e, ⟨c, .error cause⟩ :: w.past⟩

/-- An engine that was never started, after some calls. -/
def ofCalls (listeners : List String) (generatesTraffic : Bool) (tick : Float) (calls : List Call) :
    Service :=
  calls.foldl after ⟨{ listeners, generatesTraffic, tick }, []⟩

end Service

/-- An engine is in step with the answers that it gave: its instances are numbered as they were
given out, none but the latest runs, and what runs and who is registered is what the answers say. -/
structure Follows (w : Service) : Prop where
  returned : returned w.past = (List.range w.engine.instances.length).reverse
  single : ∀ h, w.engine.isRunning h = true → w.engine.latest = some h
  current : ∀ h config,
    current w.past = some (h, config) ↔ w.engine.check h = .ok ⟨config, true⟩
  registered : ∀ id, w.engine.users.get? id = registered id w.past

namespace Follows

variable {w : Service} {e' : Engine}

theorem check (hf : Follows w) {h : Handle} {i : Instance} (hc : w.engine.check h = .ok i) :
    Engine.current w.past = some (h, i.config) := by
  obtain ⟨config, running⟩ := i
  obtain ⟨-, -, rfl⟩ := check_eq_ok_iff.mp hc
  exact (hf.current h config).mpr hc

theorem anyRunning_eq_false_iff (hf : Follows w) :
    w.engine.anyRunning = false ↔ Engine.current w.past = none := by
  rw [Bool.eq_false_iff, Option.eq_none_iff_forall_ne_some]
  constructor
  · intro hr ⟨h, config⟩ hcur
    exact hr (anyRunning_of_check ((hf.current h config).mp hcur))
  · intro hcur hr
    obtain ⟨h, i, hc⟩ := check_of_anyRunning hr
    exact hcur _ (hf.check hc)

/-- The engine permits just the calls that the answers so far allow. -/
theorem permits_iff (hf : Follows w) (c : Call) : w.engine.Permits c ↔ Allowed w.past c := by
  cases c with
  | start config users => exact hf.anyRunning_eq_false_iff
  | stop h =>
      constructor
      · rintro ⟨i, hc⟩
        exact ⟨i.config, hf.check hc⟩
      · rintro ⟨config, hcur⟩
        exact ⟨_, (hf.current h config).mp hcur⟩
  | add h id key =>
      constructor
      · rintro ⟨i, hc, hk, hu⟩
        exact ⟨i.config, hf.check hc, hk, hf.registered id ▸ hu⟩
      · rintro ⟨config, hcur, hk, hu⟩
        exact ⟨_, (hf.current h config).mp hcur, hk, (hf.registered id).trans hu⟩
  | remove h id =>
      constructor
      · rintro ⟨i, key, hc, hu⟩
        exact ⟨i.config, hf.check hc, key, hf.registered id ▸ hu⟩
      · rintro ⟨config, hcur, key, hu⟩
        exact ⟨_, key, (hf.current h config).mp hcur, (hf.registered id).trans hu⟩

/-- A start while nothing runs. -/
theorem start (hf : Follows w) {config : NodeConfig} {users : List User}
    (hs : w.engine.start config users = .ok e') :
    Follows ⟨e', ⟨.start config users, .ok (some w.engine.instances.length)⟩ :: w.past⟩ := by
  obtain ⟨hlatest, hcheck⟩ := check_of_start hs
  obtain ⟨hidle, rfl⟩ := start_eq_ok_iff.mp hs
  refine ⟨?_, ?_, ?_, get?_ofList_byId User.key users⟩
  · show w.engine.instances.length :: Engine.returned w.past = _
    rw [hf.returned, List.length_append, List.length_singleton, List.range_succ,
      List.reverse_append]
    rfl
  · -- the instances before the new one stand still, since nothing ran
    intro h hr
    obtain ⟨i, hi, hir⟩ := isRunning_iff.mp hr
    rcases Nat.lt_trichotomy h w.engine.instances.length with hlt | rfl | hgt
    · rw [List.getElem?_append_left hlt] at hi
      have hold := hf.single h (isRunning_iff.mpr ⟨i, hi, hir⟩)
      have hrun := anyRunning_of_check (check_eq_ok_iff.mpr ⟨hold, hi, hir⟩)
      rw [hidle] at hrun
      cases hrun
    · exact hlatest
    · rw [List.getElem?_eq_none (by simpa using Nat.succ_le_of_lt hgt)] at hi
      cases hi
  · intro h config'
    constructor
    · rintro ⟨rfl⟩
      exact hcheck
    · intro hc
      obtain ⟨hl, -, -⟩ := check_eq_ok_iff.mp hc
      cases hl.symm.trans hlatest
      cases hc.symm.trans hcheck
      rfl

/-- A stop of the handle that runs. -/
theorem stop (hf : Follows w) {h : Handle} (hs : w.engine.stop h = .ok e') :
    Follows ⟨e', ⟨.stop h, .ok none⟩ :: w.past⟩ := by
  have hidle := anyRunning_of_stop hs
  obtain ⟨i, hc⟩ := permits_of_perform (c := .stop h) hs
  cases hs.symm.trans (stop_of_check hc)
  obtain ⟨hl, hi, -⟩ := check_eq_ok_iff.mp hc
  refine ⟨?_, ?_, ?_, hf.registered⟩
  · show Engine.returned w.past = _
    rw [hf.returned, List.length_set]
  · -- what was stopped does not run, and nothing else ran before, for what ran was the latest
    intro k hr
    obtain ⟨j, hj, hjr⟩ := isRunning_iff.mp hr
    by_cases hk : h = k
    · subst hk
      rw [List.getElem?_set_self (List.getElem?_eq_some_iff.mp hi).1] at hj
      cases hj
      cases hjr
    · rw [List.getElem?_set_ne hk] at hj
      have hlatest := hf.single k (isRunning_iff.mpr ⟨j, hj, hjr⟩)
      exact absurd (Option.some.inj (hl.symm.trans hlatest)) hk
  · intro k config
    constructor
    · nofun
    · intro hck
      rw [anyRunning_of_check hck] at hidle
      cases hidle

/-- A call that changes nothing but who is registered. -/
theorem enroll (hf : Follows w) {d : Deed} {users : OrderedMap Int (List UInt8)}
    (hreturned : Engine.returned (d :: w.past) = Engine.returned w.past)
    (hcurrent : Engine.current (d :: w.past) = Engine.current w.past)
    (hregistered : ∀ id, users.get? id = Engine.registered id (d :: w.past)) :
    Follows ⟨{ w.engine with users }, d :: w.past⟩ :=
  ⟨hreturned.trans hf.returned, hf.single, fun h config => hcurrent ▸ hf.current h config,
    hregistered⟩

theorem add (hf : Follows w) {h : Handle} {id : Int} {key : List UInt8}
    (ha : w.engine.add h id key = .ok e') :
    Follows ⟨e', ⟨.add h id key, .ok none⟩ :: w.past⟩ := by
  cases users_of_add ha
  refine hf.enroll rfl rfl fun j => ?_
  rw [OrderedMap.get?_insert, hf.registered]
  rfl

theorem remove (hf : Follows w) {h : Handle} {id : Int}
    (hr : w.engine.remove h id = .ok e') :
    Follows ⟨e', ⟨.remove h id, .ok none⟩ :: w.past⟩ := by
  cases users_of_remove hr
  refine hf.enroll rfl rfl fun j => ?_
  rw [OrderedMap.get?_erase, hf.registered]
  rfl

/-- A call that is refused. -/
theorem refused (hf : Follows w) (c : Call) (cause : EngineCause) :
    Follows ⟨w.engine, ⟨c, .error cause⟩ :: w.past⟩ :=
  hf.enroll returned_refused current_refused fun id =>
    (hf.registered id).trans (registered_refused id).symm

/-- Each call keeps the engine in step with its answers. -/
theorem after (hf : Follows w) (c : Call) : Follows (w.after c) := by
  unfold Service.after
  by_cases hp : w.engine.Permits c
  · obtain ⟨e', he, hrun⟩ := run_ofCall_of_permits hp
    rw [hrun]
    cases c with
    | start config users => exact hf.start he
    | stop h => exact hf.stop he
    | add h id key => exact hf.add he
    | remove h id => exact hf.remove he
  · obtain ⟨cause, hrun⟩ := run_ofCall_of_not_permits hp
    rw [hrun]
    exact hf.refused c cause

theorem unused (listeners : List String) (generatesTraffic : Bool) (tick : Float) :
    Follows ⟨{ listeners, generatesTraffic, tick }, []⟩ where
  returned := rfl
  single _ hr := by cases hr
  current _ _ := ⟨nofun, nofun⟩
  registered _ := rfl

theorem ofCalls (listeners : List String) (generatesTraffic : Bool) (tick : Float)
    (calls : List Call) : Follows (.ofCalls listeners generatesTraffic tick calls) := by
  -- By induction on the last call, which the fold comes to last.
  induction calls using List.reverseRecOn with
  | nil => exact unused listeners generatesTraffic tick
  | append_singleton calls c ih =>
      rw [Service.ofCalls, List.foldl_append]
      exact ih.after c

end Follows

/-! ### After any calls -/

/-- What an engine in use keeps to: the handles that it gave out are all different, at most one of
them runs, the latest, and who is registered is what the answers say; a call that is allowed is
done, and any other is refused and leaves the engine as it was. -/
structure Exclusive (w : Service) : Prop where
  distinct : (returned w.past).Nodup
  running : ∀ h, w.engine.isRunning h = true ↔ ∃ config, current w.past = some (h, config)
  single : ∀ h h', w.engine.isRunning h = true → w.engine.isRunning h' = true → h = h'
  latest : ∀ h, w.engine.isRunning h = true → (returned w.past).head? = some h
  registry : ∀ id, w.engine.users.get? id = registered id w.past
  done : ∀ c, Allowed w.past c → ∃ handle e, (Work.ofCall c).run w.engine = .ok handle e
  refused : ∀ c, ¬ Allowed w.past c →
    ∃ cause, (Work.ofCall c).run w.engine = .error cause w.engine

section Exclusive

variable {w : Service}

theorem Follows.running (hf : Follows w) (h : Handle) :
    w.engine.isRunning h = true ↔ ∃ config, Engine.current w.past = some (h, config) := by
  rw [isRunning_iff]
  constructor
  · rintro ⟨i, hi, hr⟩
    have hl := hf.single h (isRunning_iff.mpr ⟨i, hi, hr⟩)
    exact ⟨i.config, hf.check (check_eq_ok_iff.mpr ⟨hl, hi, hr⟩)⟩
  · rintro ⟨config, hcur⟩
    obtain ⟨-, hi, hr⟩ := check_eq_ok_iff.mp ((hf.current h config).mp hcur)
    exact ⟨_, hi, hr⟩

/-- The handle that was given out last is that of the latest instance. -/
theorem Follows.head?_returned (hf : Follows w) :
    (Engine.returned w.past).head? = w.engine.latest := by
  rw [hf.returned, List.head?_reverse, latest]
  cases w.engine.instances.length with
  | zero => rfl
  | succ n => rw [List.range_succ, List.getLast?_concat]

theorem Follows.exclusive (hf : Follows w) : Exclusive w where
  distinct := by
    rw [hf.returned, List.nodup_reverse]
    exact List.nodup_range
  running := hf.running
  single h h' hr hr' := Option.some.inj ((hf.single h hr).symm.trans (hf.single h' hr'))
  latest h hr := hf.head?_returned.trans (hf.single h hr)
  registry := hf.registered
  done c hc := by
    obtain ⟨e', -, hrun⟩ := run_ofCall_of_permits ((hf.permits_iff c).mpr hc)
    exact ⟨_, e', hrun⟩
  refused c hc := run_ofCall_of_not_permits (mt (hf.permits_iff c).mp hc)

end Exclusive

/-- However an engine is used, at most one handle runs, the one that the latest start gave out;
what is allowed after the answers so far is done, and all else changes nothing. -/
theorem handles_exclusive (listeners : List String) (generatesTraffic : Bool) (tick : Float)
    (calls : List Call) : Exclusive (.ofCalls listeners generatesTraffic tick calls) :=
  (Follows.ofCalls listeners generatesTraffic tick calls).exclusive

/-- Under the handle of an earlier start nothing is done: user 7 gets the second key. -/
example :
    let config : NodeConfig := { port := 8443, cipher := .aes128Gcm, serverKey := "server" }
    (Service.ofCalls [] false 0 [.start config [], .stop 0, .start config [],
      .add 0 7 (.replicate 16 1), .add 1 7 (.replicate 16 2)]).engine.users.entries
        = [(7, .replicate 16 2)] := by
  decide +kernel

end ProxyNode.Engine
