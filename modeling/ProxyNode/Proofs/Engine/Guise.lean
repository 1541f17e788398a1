import ProxyNode.Engine.Basic
import ProxyNode.Proofs.Roster.Guise

/-!
# Engine — Guise, an engine under other keys

Two engines that differ in the keys of their users and in nothing else.  They take the same calls
and refuse the same calls for the same reasons, since of a key nothing but its length matters.

* `perform_matches`: a call, whatever it is.
* `Engine.matches_plain_iff`, `Engine.Call.matches_plain_iff`: without a guise nothing differs.
-/

namespace ProxyNode

namespace Engine

variable {g : Guise}

/-- The same instances and listeners, and the same users under other keys. -/
structure Matches (g : Guise) (e e' : Engine) : Prop where
  instances : e'.instances = e.instances
  users : OrderedMap.Matches g.key e.users e'.users
  listeners : e'.listeners = e.listeners
  generatesTraffic : e'.generatesTraffic = e.generatesTraffic
  tick : e'.tick = e.tick

theorem matches_plain_iff {e e' : Engine} : Matches .plain e e' ↔ e' = e := by
  constructor
  · rintro ⟨hi, hu, hl, hg, ht⟩
    have hu := OrderedMap.matches_eq_iff.mp hu
    cases e
    cases e'
    cases hi
    cases hu
    cases hl
    cases hg
    cases ht
    rfl
  · rintro rfl
    exact ⟨rfl, OrderedMap.matches_eq_iff.mpr rfl, rfl, rfl, rfl⟩

/-- The same call under other secrets. -/
inductive Call.Matches (g : Guise) : Call → Call → Prop
  | start (config : NodeConfig) {users users' : List User} :
      Users.Matches g users users' → Call.Matches g (.start config users) (.start config users')
  | stop (h : Handle) : Call.Matches g (.stop h) (.stop h)
  | add (h : Handle) (id : Int) {key key' : List UInt8} :
      g.key key key' → Call.Matches g (.add h id key) (.add h id key')
  | remove (h : Handle) (id : Int) : Call.Matches g (.remove h id) (.remove h id)

theorem Call.matches_plain_iff {c c' : Call} : Call.Matches .plain c c' ↔ c' = c := by
  constructor
  · intro h
    cases h with
    | start config hu =>
        rw [users_matches_plain] at hu
        rw [hu]
    | stop => rfl
    | add h id hk =>
        cases hk
        rfl
    | remove => rfl
  · rintro rfl
    cases c' with
    | start config users =>
        refine .start config ?_
        rw [users_matches_plain]
    | stop h => exact .stop h
    | add h id key => exact .add h id rfl
    | remove h id => exact .remove h id

theorem Call.Matches.refusal {c c' : Call} (h : Call.Matches g c c') : c'.refusal = c.refusal := by
  cases h <;> rfl

variable {e e' : Engine}

namespace Matches

theorem latest (h : Matches g e e') : e'.latest = e.latest := by
  rw [Engine.latest, Engine.latest, h.instances]

theorem check (h : Matches g e e') (k : Handle) : e'.check k = e.check k := by
  unfold Engine.check Engine.displayHandle
  rw [h.latest, h.instances]

theorem anyRunning (h : Matches g e e') : e'.anyRunning = e.anyRunning := by
  unfold Engine.anyRunning Engine.isRunning
  rw [h.latest, h.instances]

theorem start (h : Matches g e e') (config : NodeConfig) {users users' : List User}
    (hu : Users.Matches g users users') :
    Outcomes (Matches g) (e.start config users) (e'.start config users') := by
  rw [start_eq, start_eq]
  rw [h.anyRunning]
  split
  · exact .error _
  · refine .ok ⟨by rw [h.instances], OrderedMap.matches_ofList ?_, h.listeners,
      h.generatesTraffic, h.tick⟩
    rw [List.forall₂_map_left_iff, List.forall₂_map_right_iff]
    exact List.Forall₂.imp (fun _ _ hu => ⟨hu.id, hu.key⟩) hu

theorem stop (h : Matches g e e') (k : Handle) :
    Outcomes (Matches g) (e.stop k) (e'.stop k) := by
  rw [stop_eq, stop_eq]
  rw [h.check]
  split
  · exact .error _
  · exact .ok ⟨by rw [h.instances], h.users, h.listeners, h.generatesTraffic, h.tick⟩

theorem add (h : Matches g e e') (k : Handle) (id : Int) {key key' : List UInt8}
    (hk : g.key key key') : Outcomes (Matches g) (e.add k id key) (e'.add k id key') := by
  rw [add_eq, add_eq]
  rw [h.check, g.length_key hk, h.users.contains]
  split
  · exact .error _
  · split
    · exact .error _
    · split
      · exact .error _
      · exact .ok ⟨h.instances, h.users.insert id hk, h.listeners, h.generatesTraffic, h.tick⟩

theorem remove (h : Matches g e e') (k : Handle) (id : Int) :
    Outcomes (Matches g) (e.remove k id) (e'.remove k id) := by
  rw [remove_eq, remove_eq]
  rw [h.check, h.users.contains]
  split
  · exact .error _
  · split
    · exact .ok ⟨h.instances, h.users.erase id, h.listeners, h.generatesTraffic, h.tick⟩
    · exact .error _

end Matches

/-- The same calls are taken and the same are refused. -/
theorem perform_matches (h : Matches g e e') {c c' : Call} (hc : Call.Matches g c c') :
    Outcomes (Matches g) (e.perform c) (e'.perform c') := by
  cases hc with
  | start config hu => exact h.start config hu
  | stop k => exact h.stop k
  | add k id hk => exact h.add k id hk
  | remove k id => exact h.remove k id

end Engine

end ProxyNode
