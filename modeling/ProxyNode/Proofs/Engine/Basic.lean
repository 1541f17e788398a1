import Mathlib.Data.List.Basic
import ProxyNode.Engine.Basic
import ProxyNode.Proofs.Data.OrderedMap

/-!
# Engine — what its calls do

Each call that the engine accepts, as an equation for the engine after it.

* `anyRunning_of_check`, `check_of_anyRunning`: the engine runs if it accepts a handle.
* `start_eq_ok_iff`, `check_of_start`: a start makes the latest instance the one that runs.
* `anyRunning_of_stop`: after a stop nothing runs.
* `add_of_check`, `remove_of_check`: what is registered under an accepted handle.
* `listeners_of_perform`: no call concerns those who listen for traffic.
-/

namespace ProxyNode.Engine

variable {e e' : Engine} {h : Handle} {i : Instance}

theorem anyRunning_of_check (hc : e.check h = .ok i) : e.anyRunning = true := by
  obtain ⟨hl, hi, hr⟩ := check_eq_ok_iff.mp hc
  rw [anyRunning, hl]
  dsimp only
  rw [isRunning, hi]
  exact hr

theorem check_of_anyRunning (hr : e.anyRunning = true) : ∃ h i, e.check h = .ok i := by
  unfold anyRunning at hr
  split at hr
  · next h hl =>
    unfold isRunning at hr
    split at hr
    · next i hi => exact ⟨h, i, check_eq_ok_iff.mpr ⟨hl, hi, hr⟩⟩
    · cases hr
  · cases hr

theorem isRunning_iff :
    e.isRunning h = true ↔ ∃ i, e.instances[h]? = some i ∧ i.running = true := by
  unfold isRunning
  cases e.instances[h]? with
  | none => simp
  | some i => simp

theorem start_eq_ok_iff {config : NodeConfig} {users : List User} :
    e.start config users = .ok e'
      ↔ e.anyRunning = false ∧ e' = { e with
        instances := e.instances ++ [⟨config, true⟩]
        users := .ofList (users.map fun u => (u.id, u.key)) } := by
  rw [start_eq]
  by_cases hr : e.anyRunning = true
  · rw [if_pos hr, hr]
    exact ⟨nofun, nofun⟩
  · rw [if_neg hr]
    constructor
    · rintro ⟨rfl⟩
      exact ⟨Bool.eq_false_iff.mpr hr, rfl⟩
    · rintro ⟨-, rfl⟩
      rfl

/-- A start makes the latest instance the one that runs. -/
theorem check_of_start {config : NodeConfig} {users : List User}
    (hs : e.start config users = .ok e') :
    e'.latest = some e.instances.length ∧ e'.check e.instances.length = .ok ⟨config, true⟩ := by
  obtain ⟨-, rfl⟩ := start_eq_ok_iff.mp hs
  have hl : Engine.latest { e with
      instances := e.instances ++ [⟨config, true⟩]
      users := .ofList (users.map fun u => (u.id, u.key)) } = some e.instances.length := by
    simp [latest]
  exact ⟨hl, check_eq_ok_iff.mpr ⟨hl, List.getElem?_concat_length, rfl⟩⟩

theorem stop_of_check (hc : e.check h = .ok i) :
    e.stop h = .ok { e with instances := e.instances.set h { i with running := false } } := by
  rw [stop_eq, hc]

/-- After a stop nothing runs. -/
theorem anyRunning_of_stop (hs : e.stop h = .ok e') : e'.anyRunning = false := by
  rw [stop_eq] at hs
  split at hs
  · cases hs
  · next i hc =>
    cases hs
    obtain ⟨hl, hi, -⟩ := check_eq_ok_iff.mp hc
    have hlt : h < e.instances.length := (List.getElem?_eq_some_iff.mp hi).1
    have hl' : Engine.latest { e with
        instances := e.instances.set h { i with running := false } } = some h := by
      rw [latest, List.length_set]
      exact hl
    rw [anyRunning, hl']
    dsimp only
    rw [isRunning, List.getElem?_set_self hlt]

theorem add_of_check (hc : e.check h = .ok i) {id : Int} {key : List UInt8}
    (hk : key.length = i.config.cipher.keyLength) (hu : e.users.get? id = none) :
    e.add h id key = .ok { e with users := e.users.insert id key } := by
  rw [add_eq, hc]
  dsimp only
  rw [if_neg (not_not.mpr hk), OrderedMap.contains, hu]
  rfl

theorem users_of_add {id : Int} {key : List UInt8} (ha : e.add h id key = .ok e') :
    e' = { e with users := e.users.insert id key } := by
  rw [add_eq] at ha
  split at ha
  · cases ha
  · split at ha
    · cases ha
    · split at ha
      · cases ha
      · cases ha
        rfl

theorem remove_of_check (hc : e.check h = .ok i) {id : Int} {key : List UInt8}
    (hu : e.users.get? id = some key) :
    e.remove h id = .ok { e with users := e.users.erase id } := by
  rw [remove_eq, hc]
  dsimp only
  rw [OrderedMap.contains, hu]
  rfl

theorem users_of_remove {id : Int} (hr : e.remove h id = .ok e') :
    e' = { e with users := e.users.erase id } := by
  rw [remove_eq] at hr
  split at hr
  · cases hr
  · split at hr
    · cases hr
      rfl
    · cases hr

theorem listeners_of_stop (hs : e.stop h = .ok e') : e'.listeners = e.listeners := by
  rw [stop_eq] at hs
  split at hs
  · cases hs
  · cases hs
    rfl

theorem listeners_of_perform {c : Call} (hp : e.perform c = .ok e') :
    e'.listeners = e.listeners := by
  cases c with
  | start config users =>
      obtain ⟨-, rfl⟩ := start_eq_ok_iff.mp hp
      rfl
  | stop h => exact listeners_of_stop hp
  | add h id key =>
      rw [users_of_add hp]
  | remove h id =>
      rw [users_of_remove hp]

end ProxyNode.Engine
