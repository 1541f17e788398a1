import ProxyNode.Proofs.Engine.Basic
import ProxyNode.Proofs.Node.Kept
import ProxyNode.Proofs.Roster.Diff

/-!
# Node — Registry, the users of a node and of its engine

What a node takes for the engine's users are the engine's users, whatever the panel answers and
whatever the engine refuses, as long as it does not refuse to stop.

* `Serves`, `InStep`: the users and the configuration of a node that holds a handle, and of one that
  does not.
* `Tended.stopEngine`, `Tended.startEngine`, `serves_removeAll`, `serves_addAll`: each use of the
  engine keeps both in step.
* `inStep_after`: so does any sequence of steps.
-/

namespace ProxyNode

/-- The users `r` of a node are those of the engine `e`: the handle `h` is that of the instance `i`,
which is the latest and runs, with the configuration of the node as far as it matters to the engine,
and the engine has the keys of the node's users, which are those of their secrets. -/
structure Roster.Serves (r : Roster) (e : Engine) (h : Engine.Handle) (i : Engine.Instance)
    (config : NodeConfig) : Prop where
  current : e.latest = some h
  named : e.instances[h]? = some i
  running : i.running = true
  configured : r.config = some config
  port : config.port = i.config.port
  cipher : config.cipher = i.config.cipher
  serverKey : config.serverKey = i.config.serverKey
  transport : config.transport = i.config.transport
  registered : ∀ id, e.users.get? id = (r.applied.get? id).map User.key
  keyed : IsKeyed config.cipher.keyLength r.applied

/-- The users of a node and of its engine are the same.  A node without a handle has none, and its
engine does not run. -/
structure Roster.InStep (r : Roster) (e : Engine) : Prop where
  serves : ∀ {h}, r.handle = some h → ∃ i config, r.Serves e h i config
  none : r.handle = none → r.applied = .empty ∧ e.anyRunning = false

namespace Roster

variable {r r' : Roster} {e : Engine} {h : Engine.Handle} {i : Engine.Instance}
  {config : NodeConfig}

theorem Serves.inStep (hs : r.Serves e h i config) (hh : r.handle = some h) : r.InStep e := by
  refine ⟨fun hk => ?_, fun hn => absurd (hh.symm.trans hn) nofun⟩
  obtain rfl := Option.some.inj (hh.symm.trans hk)
  exact ⟨i, config, hs⟩

theorem inStep_of_none (hh : r.handle = none) (ha : r.applied = .empty)
    (hr : e.anyRunning = false) : r.InStep e :=
  ⟨fun hk => absurd (hh.symm.trans hk) nofun, fun _ => ⟨ha, hr⟩⟩

theorem Serves.check (hs : r.Serves e h i config) : e.check h = .ok i :=
  Engine.check_eq_ok_iff.mpr ⟨hs.current, hs.named, hs.running⟩

/-- Of a roster the configuration and the users matter. -/
theorem Serves.congr (hs : r.Serves e h i config) (hc : r'.config = r.config)
    (ha : r'.applied = r.applied) : r'.Serves e h i config :=
  ⟨hs.current, hs.named, hs.running, hc.trans hs.configured, hs.port, hs.cipher, hs.serverKey,
    hs.transport, fun id => ha ▸ hs.registered id, ha ▸ hs.keyed⟩

/-- A user that is removed from both is removed. -/
theorem Serves.erase (hs : r.Serves e h i config) (id : Int) :
    Serves { r with applied := r.applied.erase id } { e with users := e.users.erase id } h i
      config := by
  refine ⟨hs.current, hs.named, hs.running, hs.configured, hs.port, hs.cipher, hs.serverKey,
    hs.transport, fun j => ?_, hs.keyed.erase id⟩
  rw [OrderedMap.get?_erase, OrderedMap.get?_erase, hs.registered]
  split <;> rfl

/-- A user that is added to both with its key is added. -/
theorem Serves.insert (hs : r.Serves e h i config) {u : User}
    (hu : u.IsKeyed config.cipher.keyLength u.id) :
    Serves { r with applied := r.applied.insert u.id u }
      { e with users := e.users.insert u.id u.key } h i config := by
  refine ⟨hs.current, hs.named, hs.running, hs.configured, hs.port, hs.cipher, hs.serverKey,
    hs.transport, fun j => ?_, hs.keyed.insert hu⟩
  rw [OrderedMap.get?_insert, OrderedMap.get?_insert, hs.registered]
  split <;> rfl

/-- Of a roster the handle, the configuration and the users matter. -/
theorem InStep.congr (hs : r.InStep e) (hh : r'.handle = r.handle) (hc : r'.config = r.config)
    (ha : r'.applied = r.applied) : r'.InStep e := by
  cases hn : r.handle with
  | none =>
      obtain ⟨hempty, hrun⟩ := hs.none hn
      exact inStep_of_none (hh.trans hn) (ha.trans hempty) hrun
  | some h =>
      obtain ⟨i, config, hserves⟩ := hs.serves hn
      exact (hserves.congr hc ha).inStep (hh.trans hn)

theorem InStep.listen (hs : r.InStep e) (name : String) : r.InStep (e.listen name) := by
  cases hn : r.handle with
  | none =>
      obtain ⟨ha, hrun⟩ := hs.none hn
      exact inStep_of_none hn ha hrun
  | some h =>
      obtain ⟨i, config, hserves⟩ := hs.serves hn
      have hl : r.Serves (e.listen name) h i config :=
        ⟨hserves.current, hserves.named, hserves.running, hserves.configured, hserves.port,
          hserves.cipher, hserves.serverKey, hserves.transport, hserves.registered, hserves.keyed⟩
      exact hl.inStep hn

/-- A roster with the users that an engine has been started with is in step with it. -/
theorem inStep_of_start {e' : Engine} {users : OrderedMap Int User}
    (hs : e.start config users.values = .ok e') (hk : IsKeyed config.cipher.keyLength users)
    (hh : r.handle = e'.latest) (hc : r.config = some config) (ha : r.applied = users) :
    r.InStep e' := by
  obtain ⟨hl, hcheck⟩ := Engine.check_of_start hs
  obtain ⟨-, hi, hr⟩ := Engine.check_eq_ok_iff.mp hcheck
  have hreg (id : Int) : e'.users.get? id = (r.applied.get? id).map User.key := by
    obtain ⟨-, rfl⟩ := Engine.start_eq_ok_iff.mp hs
    rw [ha]
    exact OrderedMap.get?_ofList_values User.key hk.id_eq id
  have hserves : r.Serves e' e.instances.length ⟨config, true⟩ config :=
    ⟨hl, hi, hr, hc, rfl, rfl, rfl, rfl, hreg, ha ▸ hk⟩
  exact hserves.inStep (hh.trans hl)

end Roster

namespace Node

/-- A node that is in step with its engine, which never refuses to stop. -/
structure Tended (n : Node) : Prop where
  stops : ∀ k h, n.refuses k (.stop h) = false
  inStep : n.roster.InStep n.engine

section Calls

variable {n : Node} {c : Engine.Call}

/-- The node after a call that was accepted. -/
def accepted (n : Node) (c : Engine.Call) (e : Engine) : Node :=
  { n with engine := e, calls := n.calls + 1, journal := .called c none :: n.journal }

/-- The node after a call that was refused. -/
def refused (n : Node) (c : Engine.Call) (cause : EngineCause) : Node :=
  { n with calls := n.calls + 1, journal := .called c (some cause) :: n.journal }

/-- A call is accepted, and the engine does it, or refused, and the engine is as it was. -/
theorem call_cases (n : Node) (c : Engine.Call) :
    (∃ e, n.engine.perform c = .ok e ∧ n.call c = (none, n.accepted c e))
    ∨ ∃ cause, (n.refuses n.calls c = true ∨ n.engine.perform c = .error cause)
      ∧ n.call c = (some cause, n.refused c cause) := by
  unfold call
  dsimp only
  by_cases hr : n.refuses n.calls c = true
  · rw [if_pos hr]
    exact .inr ⟨c.refusal, .inl hr, rfl⟩
  · rw [if_neg hr]
    cases hp : n.engine.perform c with
    | ok e => exact .inl ⟨e, rfl, rfl⟩
    | error cause => exact .inr ⟨cause, .inr rfl, rfl⟩

/-- A call that is not refused from outside is done if the engine can do it. -/
theorem call_of_perform (hr : n.refuses n.calls c = false) {e : Engine}
    (hp : n.engine.perform c = .ok e) : n.call c = (none, n.accepted c e) := by
  rcases call_cases n c with ⟨e', hp', hc⟩ | ⟨cause, hr' | hp', -⟩
  · rw [hp] at hp'
    cases hp'
    exact hc
  · rw [hr] at hr'
    cases hr'
  · rw [hp] at hp'
    cases hp'

end Calls

namespace Tended

variable {n n' : Node}

/-- What concerns neither the users nor the engine keeps them in step. -/
theorem of_eq (h : n.Tended) (hr : n'.refuses = n.refuses) (he : n'.engine = n.engine)
    (hh : n'.roster.handle = n.roster.handle) (hc : n'.roster.config = n.roster.config)
    (ha : n'.roster.applied = n.roster.applied) : n'.Tended :=
  ⟨hr ▸ h.stops, he ▸ h.inStep.congr hh hc ha⟩

theorem same (h : n.Tended) (hs : SameUsers n n') : n'.Tended :=
  h.of_eq hs.refuses hs.engine (congrArg Roster.handle hs.roster)
    (congrArg Roster.config hs.roster) (congrArg Roster.applied hs.roster)

theorem keeps (h : n.Tended) (hk : KeepsRoster n n') : n'.Tended := h.same hk.sameUsers

/-- A node that has stopped its engine is in step. -/
theorem stopEngine (h : n.Tended) :
    n.stopEngine.Tended ∧ n.stopEngine.roster.handle = none := by
  unfold Node.stopEngine
  split
  · next hn => exact ⟨h, hn⟩
  · next k hn =>
    obtain ⟨i, config, hs⟩ := h.inStep.serves hn
    obtain ⟨e, he⟩ : ∃ e, n.engine.stop k = .ok e := ⟨_, Engine.stop_of_check hs.check⟩
    rw [call_of_perform (h.stops _ k) he]
    exact ⟨⟨h.stops, Roster.inStep_of_none rfl rfl (Engine.anyRunning_of_stop he)⟩, rfl⟩

/-- A node whose engine does not run is in step once it has started it, or has not. -/
theorem startEngine (hstops : ∀ k h, n.refuses k (.stop h) = false)
    (hrun : n.engine.anyRunning = false) {config : NodeConfig}
    (hc : n.roster.config = some config) {users : OrderedMap Int User}
    (hk : IsKeyed config.cipher.keyLength users) : (n.startEngine config users).2.Tended := by
  unfold Node.startEngine
  rcases call_cases n (.start config users.values) with ⟨e, he, hcall⟩ | ⟨cause, -, hcall⟩
  · rw [hcall]
    exact ⟨hstops, Roster.inStep_of_start he hk rfl hc rfl⟩
  · rw [hcall]
    exact ⟨hstops, Roster.inStep_of_none rfl rfl hrun⟩

theorem restart (h : n.Tended) (config : NodeConfig) : (n.restart config).2.Tended := by
  have hn : (n.note (.configChanged config.port config.cipher)).Tended :=
    h.of_eq rfl rfl rfl rfl rfl
  obtain ⟨ht, hh⟩ := hn.stopEngine
  obtain ⟨hempty, hrun⟩ := ht.inStep.none hh
  obtain ⟨m, hm, hr⟩ := restart_cases n config
  generalize (n.note (.configChanged config.port config.cipher)).stopEngine = k
    at ht hh hempty hrun hm
  rcases hr with ⟨fault, -, hr⟩ | ⟨keyed, hkeyed, hr⟩
  · have hk : (k.configured config).Tended := ⟨ht.stops, Roster.inStep_of_none hh hempty hrun⟩
    rw [hr]
    exact hk.keeps hm.keeps
  · rw [hr]
    exact startEngine (hm.keeps.refuses ▸ ht.stops) (hm.keeps.engine ▸ hrun)
      (congrArg Roster.config hm.keeps.roster)
      (isKeyed_of_result config.cipher.keyLength_pos hkeyed)

/-- A configuration that differs in what does not matter to the engine keeps both in step. -/
theorem configured (h : n.Tended) {old config : NodeConfig} (ho : n.roster.config = some old)
    (hr : config.requiresRestart old = false) : (n.configured config).Tended := by
  obtain ⟨hport, hcipher, hkey, htransport⟩ := NodeConfig.requiresRestart_eq_false_iff.mp hr
  refine ⟨h.stops, ?_⟩
  cases hn : n.roster.handle with
  | none =>
      obtain ⟨ha, hrun⟩ := h.inStep.none hn
      exact Roster.inStep_of_none hn ha hrun
  | some k =>
      obtain ⟨i, old', hs⟩ := h.inStep.serves hn
      obtain rfl : old = old' := Option.some.inj (ho.symm.trans hs.configured)
      have hs' : (n.configured config).roster.Serves n.engine k i config :=
        ⟨hs.current, hs.named, hs.running, rfl, hport.trans hs.port, hcipher.trans hs.cipher,
          hkey.trans hs.serverKey, htransport.trans hs.transport, hs.registered,
          hcipher ▸ hs.keyed⟩
      exact hs'.inStep hn

theorem adopt (h : n.Tended) (config : NodeConfig) : (n.adopt config).2.Tended := by
  unfold Node.adopt
  split
  · exact h.restart config
  · next old ho =>
    split
    · exact h.restart config
    · next hr => exact h.configured ho (Bool.eq_false_iff.mpr hr)

end Tended

/-! ### Changing the users -/

section Users

variable {h : Engine.Handle} {i : Engine.Instance} {config : NodeConfig}

/-- The node after a removal that was accepted. -/
def removed (n : Node) (h : Engine.Handle) (id : Int) (e : Engine) : Node :=
  { n.accepted (.remove h id) e with
    roster := { n.roster with applied := n.roster.applied.erase id } }

/-- The node after a removal that was refused. -/
def unremoved (n : Node) (h : Engine.Handle) (id : Int) (cause : EngineCause) : Node :=
  (n.refused (.remove h id) cause).note (.removeFailed id (.engine cause))

/-- The node after an addition that was accepted. -/
def added (n : Node) (h : Engine.Handle) (u : User) (e : Engine) : Node :=
  { n.accepted (.add h u.id u.key) e with
    roster := { n.roster with applied := n.roster.applied.insert u.id u } }

/-- The node after an addition that was refused. -/
def unadded (n : Node) (h : Engine.Handle) (u : User) (cause : EngineCause) : Node :=
  (n.refused (.add h u.id u.key) cause).note (.addFailed u.id (.engine cause))

/-- One removal is accepted or refused, and the others follow. -/
theorem removeAll_cons (n : Node) (h : Engine.Handle) (id : Int) (rest : List Int) :
    (∃ e, n.call (.remove h id) = (none, n.accepted (.remove h id) e)
      ∧ e = { n.engine with users := n.engine.users.erase id }
      ∧ n.removeAll h (id :: rest) = (n.removed h id e).removeAll h rest)
    ∨ ∃ cause, n.call (.remove h id) = (some cause, n.refused (.remove h id) cause)
      ∧ n.removeAll h (id :: rest)
        = (id :: ((n.unremoved h id cause).removeAll h rest).1,
          ((n.unremoved h id cause).removeAll h rest).2) := by
  rw [removeAll]
  rcases call_cases n (.remove h id) with ⟨e, he, hcall⟩ | ⟨cause, -, hcall⟩
  · rw [hcall]
    exact .inl ⟨e, rfl, Engine.users_of_remove he, rfl⟩
  · rw [hcall]
    exact .inr ⟨cause, rfl, rfl⟩

/-- One addition is passed over, accepted or refused, and the others follow. -/
theorem addAll_cons (n : Node) (h : Engine.Handle) (kept : List Int) (u : User)
    (rest : List User) :
    (kept.contains u.id = true ∧ n.addAll h kept (u :: rest) = n.addAll h kept rest)
    ∨ kept.contains u.id = false
      ∧ ((∃ e, n.call (.add h u.id u.key) = (none, n.accepted (.add h u.id u.key) e)
          ∧ e = { n.engine with users := n.engine.users.insert u.id u.key }
          ∧ n.addAll h kept (u :: rest) = (((n.added h u e).addAll h kept rest).1 + 1,
            ((n.added h u e).addAll h kept rest).2))
        ∨ ∃ cause, n.call (.add h u.id u.key) = (some cause, n.refused (.add h u.id u.key) cause)
          ∧ n.addAll h kept (u :: rest) = (((n.unadded h u cause).addAll h kept rest).1,
            ((n.unadded h u cause).addAll h kept rest).2.1 + 1,
            ((n.unadded h u cause).addAll h kept rest).2.2)) := by
  rw [addAll]
  by_cases hk : kept.contains u.id = true
  · rw [if_pos hk]
    exact .inl ⟨hk, rfl⟩
  · rw [if_neg hk]
    refine .inr ⟨Bool.eq_false_iff.mpr hk, ?_⟩
    rcases call_cases n (.add h u.id u.key) with ⟨e, he, hcall⟩ | ⟨cause, -, hcall⟩
    · rw [hcall]
      exact .inl ⟨e, rfl, Engine.users_of_add he, rfl⟩
    · rw [hcall]
      exact .inr ⟨cause, rfl, rfl⟩

/-- Removing users keeps a node and its engine in step, whichever removals are refused. -/
theorem serves_removeAll {n : Node} (hs : n.roster.Serves n.engine h i config) (ids : List Int) :
    (n.removeAll h ids).2.roster.Serves (n.removeAll h ids).2.engine h i config
      ∧ (n.removeAll h ids).2.roster.handle = n.roster.handle := by
  induction ids generalizing n with
  | nil => exact ⟨hs, rfl⟩
  | cons id rest ih =>
      rcases removeAll_cons n h id rest with ⟨e, -, rfl, hr⟩ | ⟨cause, -, hr⟩
      · rw [hr]
        exact ih (n := n.removed h id _) (hs.erase id)
      · rw [hr]
        exact ih (n := n.unremoved h id cause) hs

/-- Adding users with their keys keeps a node and its engine in step, whichever additions are
refused. -/
theorem serves_addAll {n : Node} (hs : n.roster.Serves n.engine h i config) (kept : List Int)
    {users : List User} (hu : ∀ u ∈ users, u.IsKeyed config.cipher.keyLength u.id) :
    (n.addAll h kept users).2.2.roster.Serves (n.addAll h kept users).2.2.engine h i config
      ∧ (n.addAll h kept users).2.2.roster.handle = n.roster.handle := by
  induction users generalizing n with
  | nil => exact ⟨hs, rfl⟩
  | cons u rest ih =>
      have hrest : ∀ v ∈ rest, v.IsKeyed config.cipher.keyLength v.id :=
        fun v hv => hu v (List.mem_cons_of_mem u hv)
      rcases addAll_cons n h kept u rest with ⟨-, hr⟩ | ⟨-, ⟨e, -, rfl, hr⟩ | ⟨cause, -, hr⟩⟩
      · rw [hr]
        exact ih hs hrest
      · rw [hr]
        exact ih (n := n.added h u _) (hs.insert (hu u List.mem_cons_self)) hrest
      · rw [hr]
        exact ih (n := n.unadded h u cause) hs hrest

theorem serves_apply {n : Node} (hs : n.roster.Serves n.engine h i config) {d : Diff}
    (hd : ∀ u ∈ d.add, u.IsKeyed config.cipher.keyLength u.id) :
    (n.apply h d).2.roster.Serves (n.apply h d).2.engine h i config
      ∧ (n.apply h d).2.roster.handle = n.roster.handle := by
  obtain ⟨hr, hh⟩ := serves_removeAll hs d.remove
  obtain ⟨ha, hh'⟩ := serves_addAll hr (n.removeAll h d.remove).1 hd
  exact ⟨ha, hh'.trans hh⟩

end Users

namespace Tended

variable {n : Node}

theorem settle (h : n.Tended) {config : NodeConfig} (hc : n.roster.config = some config)
    {keyed : OrderedMap Int User} (hk : IsKeyed config.cipher.keyLength keyed) :
    (n.settle config keyed).2.Tended := by
  rcases settle_cases n config keyed with ⟨hh, message, hr⟩ | ⟨k, hh, ⟨-, hr⟩ | ⟨-, message, hr⟩⟩
  · have hs := startEngine h.stops (h.inStep.none hh).2 hc hk
    rw [hr]
    exact hs.of_eq rfl rfl rfl rfl rfl
  · rw [hr]
    exact h.of_eq rfl rfl rfl rfl rfl
  -- The configuration is that of the engine, so the new keys are as long as the engine wants.
  · obtain ⟨i, config', hs⟩ := h.inStep.serves hh
    obtain rfl : config = config' := Option.some.inj (hc.symm.trans hs.configured)
    obtain ⟨hs', hh'⟩ := serves_apply hs fun u hu => Diff.isKeyed_of_mem_add hk hu
    have ha := (manages_apply n k (Diff.between n.roster.applied keyed.values)).refuses
    rw [hr]
    exact ⟨ha ▸ h.stops, (hs'.inStep (hh'.trans hh)).congr rfl rfl rfl⟩

theorem reconcile (h : n.Tended) {config : NodeConfig} (hc : n.roster.config = some config)
    (users : List User) : (n.reconcile config users).2.Tended := by
  obtain ⟨m, hl, ⟨fault, -, hr⟩ | ⟨keyed, hkeyed, hr⟩⟩ := reconcile_cases n config users
  · rw [hr]
    exact h.keeps hl.keeps
  · rw [hr]
    exact (h.keeps hl.keeps).settle ((congrArg Roster.config hl.keeps.roster).trans hc)
      (isKeyed_of_result config.cipher.keyLength_pos hkeyed)

theorem cycles : Cycles Tended where
  config h := h.keeps (listens_retrying listens_fetchConfig _ _ _).keeps
  users h := h.keeps (listens_retrying listens_fetchUsers _ _ _).keeps
  note _ _ h := h.of_eq rfl rfl rfl rfl rfl
  roster _ hh hc ha _ h := h.of_eq rfl rfl hh hc ha
  adopt config h := h.adopt config
  reconcile users hc h := h.reconcile hc users

theorem refresh (h : n.Tended) : n.refresh.2.Tended := cycles.refresh h

/-- A sync cycle keeps a node and its engine in step. -/
theorem sync (h : n.Tended) : n.sync.2.Tended := cycles.sync h

/-- A launch keeps a node and its engine in step, also if the engine runs already. -/
theorem launch (h : n.Tended) (config : NodeConfig) (users : List User) :
    (n.launch config users).2.Tended := by
  obtain ⟨m, hm, ⟨fault, -, hr⟩ | ⟨keyed, hkeyed, hk⟩⟩ := launch_cases n config users
  · rw [hr]
    exact h.same (hm.rests.trans (rests_startFault m fault)).same
  · have ht := h.same hm.keeps.sameUsers
    have hattach : m.attach.Tended := by
      unfold attach
      split
      · exact ht
      · exact ⟨ht.stops, ht.inStep.listen _⟩
    rcases hk with ⟨cause, k, hcall, hr⟩ | ⟨k, notice, hcall, -, hr⟩
    · rw [hr]
      rcases call_cases m.attach (.start config keyed.values) with
        ⟨e, -, hcall'⟩ | ⟨cause', -, hcall'⟩
      · rw [hcall] at hcall'
        cases hcall'
      · rw [hcall] at hcall'
        cases hcall'
        have hrefused : (m.attach.refused (.start config keyed.values) cause).Tended :=
          hattach.same ⟨rfl, rfl, rfl⟩
        exact hrefused.same (rests_fail _ _).same
    · rw [hr]
      rcases call_cases m.attach (.start config keyed.values) with
        ⟨e, he, hcall'⟩ | ⟨cause', -, hcall'⟩
      · rw [hcall] at hcall'
        cases hcall'
        exact ⟨hattach.stops, Roster.inStep_of_start he
          (isKeyed_keyAll config.cipher.keyLength_pos hkeyed) rfl rfl rfl⟩
      · rw [hcall] at hcall'
        cases hcall'

/-- Every step keeps a node and its engine in step. -/
theorem attends : Attends Tended :=
  ⟨same, sync, fun h => h.stopEngine.1, fun config users h => h.launch config users⟩

end Tended

theorem IsNew.tended {n : Node} (h : n.IsNew)
    (hstops : ∀ k handle, n.refuses k (.stop handle) = false) : n.Tended :=
  ⟨hstops, Roster.inStep_of_none (by rw [h.roster]) (by rw [h.roster]) h.engine⟩

/-- Whatever is done with a node, and whatever the panel answers and the engine refuses except to
stop: the node's users are those of its engine. -/
theorem inStep_after {n : Node} (h : n.IsNew)
    (hstops : ∀ k handle, n.refuses k (.stop handle) = false) (steps : List Step) :
    (n.after steps).roster.InStep (n.after steps).engine :=
  (Tended.attends.after (h.tended hstops) steps).inStep

/-- After a start and a sync cycle the sample holds the handle of the only instance. -/
theorem inStep_after_sample :
    (sample.after [.start, .act .sync]).roster.handle = some 0
    ∧ Roster.InStep (sample.after [.start, .act .sync]).roster
      (sample.after [.start, .act .sync]).engine :=
  ⟨by decide +kernel, inStep_after isNew_sample (fun _ _ => rfl) _⟩

end Node

end ProxyNode
