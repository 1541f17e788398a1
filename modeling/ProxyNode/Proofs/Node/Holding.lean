import ProxyNode.Proofs.Node.Registry

/-!
# Node — Holding, the engine behind a handle

A node that holds a handle has the engine behind it, which runs with the node's users and
configuration, whatever the engine refuses.  An engine that refuses to stop goes on to run after the
node has let go of it; so of a node without a handle less is known than if every stop is accepted,
namely only that it has no users.

* `Backed`: the users and the engine of a node, as far as its handle goes.
* `Backed.startEngine`, `Backed.restart`, `Backed.reconcile`, `Backed.launch`: the uses of the engine
  keep to it.
* `backed_after`: so does any sequence of steps.
-/

namespace ProxyNode

namespace Roster

/-- What stands behind the handle of a node: the engine with the node's users and configuration.  A
node without a handle has no users. -/
structure Backed (r : Roster) (e : Engine) : Prop where
  serves : ∀ {h}, r.handle = some h → ∃ i config, r.Serves e h i config
  empty : r.handle = none → r.applied = .empty

variable {r r' : Roster} {e : Engine} {h : Engine.Handle} {i : Engine.Instance}
  {config : NodeConfig}

theorem InStep.backed (hs : r.InStep e) : r.Backed e := ⟨hs.serves, fun hn => (hs.none hn).1⟩

theorem Serves.backed (hs : r.Serves e h i config) (hh : r.handle = some h) : r.Backed e :=
  (hs.inStep hh).backed

theorem backed_of_none (hh : r.handle = none) (ha : r.applied = .empty) : r.Backed e := by
  refine ⟨fun hk => ?_, fun _ => ha⟩
  cases hh.symm.trans hk

/-- Of a roster the handle, the configuration and the users matter. -/
theorem Backed.congr (hb : r.Backed e) (hh : r'.handle = r.handle) (hc : r'.config = r.config)
    (ha : r'.applied = r.applied) : r'.Backed e := by
  cases hn : r.handle with
  | none => exact backed_of_none (hh.trans hn) (ha.trans (hb.empty hn))
  | some h =>
      obtain ⟨i, config, hs⟩ := hb.serves hn
      exact (hs.congr hc ha).backed (hh.trans hn)

theorem Backed.legible (hb : r.Backed e) : Legible r.applied.values := by
  cases hn : r.handle with
  | none =>
      rw [hb.empty hn]
      exact nofun
  | some h =>
      obtain ⟨i, config, hs⟩ := hb.serves hn
      exact hs.keyed.legible config.cipher.keyLength_pos

theorem Backed.listen (hb : r.Backed e) (name : String) : r.Backed (e.listen name) := by
  refine ⟨fun hh => ?_, hb.empty⟩
  obtain ⟨i, config, hs⟩ := hb.serves hh
  exact ⟨i, config, hs.current, hs.named, hs.running, hs.configured, hs.port, hs.cipher,
    hs.serverKey, hs.transport, hs.registered, hs.keyed⟩

/-- A configuration that differs in what does not matter to the engine may take the place of that
with which it runs. -/
theorem Serves.reconfigure (hs : r.Serves e h i config) {new : NodeConfig}
    (hr : new.requiresRestart config = false) :
    Serves { r with config := some new } e h i new := by
  obtain ⟨hport, hcipher, hkey, htransport⟩ := NodeConfig.requiresRestart_eq_false_iff.mp hr
  exact ⟨hs.current, hs.named, hs.running, rfl, hport.trans hs.port, hcipher.trans hs.cipher,
    hkey.trans hs.serverKey, htransport.trans hs.transport, hs.registered, hcipher ▸ hs.keyed⟩

end Roster

namespace Node

/-- A node whose handle, if it holds one, has the engine behind it. -/
def Backed (n : Node) : Prop := n.roster.Backed n.engine

namespace Backed

variable {n n' : Node}

/-- What concerns neither the users nor the engine leaves the engine behind the handle. -/
theorem of_eq (h : n.Backed) (he : n'.engine = n.engine)
    (hh : n'.roster.handle = n.roster.handle) (hc : n'.roster.config = n.roster.config)
    (ha : n'.roster.applied = n.roster.applied) : n'.Backed := by
  have hr : n'.roster.Backed n.engine := Roster.Backed.congr h hh hc ha
  rwa [Backed, he]

theorem same (h : n.Backed) (hs : SameUsers n n') : n'.Backed :=
  h.of_eq hs.engine (congrArg Roster.handle hs.roster) (congrArg Roster.config hs.roster)
    (congrArg Roster.applied hs.roster)

theorem keeps (h : n.Backed) (hk : KeepsRoster n n') : n'.Backed := h.same hk.sameUsers

theorem released (n : Node) : n.release.Backed := Roster.backed_of_none rfl rfl

/-- A node that lets go of its engine holds no handle and has no users, refused or not. -/
theorem stopEngine (h : n.Backed) :
    n.stopEngine.roster.handle = none ∧ n.stopEngine.roster.applied = .empty := by
  unfold Node.stopEngine
  split
  · next hn => exact ⟨hn, Roster.Backed.empty h hn⟩
  · split
    · exact ⟨rfl, rfl⟩
    · exact ⟨rfl, rfl⟩

/-- After a start the engine stands behind the handle, or there is none. -/
theorem startEngine {config : NodeConfig} (hc : n.roster.config = some config)
    {users : OrderedMap Int User} (hk : IsKeyed config.cipher.keyLength users) :
    (n.startEngine config users).2.Backed := by
  unfold Node.startEngine
  rcases call_cases n (.start config users.values) with ⟨e, he, hcall⟩ | ⟨cause, -, hcall⟩
  · rw [hcall]
    refine Roster.InStep.backed ?_
    exact Roster.inStep_of_start he hk rfl hc rfl
  · rw [hcall]
    exact released _

theorem restart (h : n.Backed) (config : NodeConfig) : (n.restart config).2.Backed := by
  have hn : (n.note (.configChanged config.port config.cipher)).Backed := h.of_eq rfl rfl rfl rfl
  obtain ⟨hh, ha⟩ := hn.stopEngine
  obtain ⟨m, hm, ⟨fault, -, hr⟩ | ⟨keyed, hkeyed, hr⟩⟩ := restart_cases n config
  · rw [hr]
    exact Roster.backed_of_none ((congrArg Roster.handle hm.keeps.roster).trans hh)
      ((congrArg Roster.applied hm.keeps.roster).trans ha)
  · rw [hr]
    exact startEngine (congrArg Roster.config hm.keeps.roster)
      (isKeyed_of_result config.cipher.keyLength_pos hkeyed)

theorem configured (h : n.Backed) {old config : NodeConfig} (ho : n.roster.config = some old)
    (hr : config.requiresRestart old = false) : (n.configured config).Backed := by
  cases hn : n.roster.handle with
  | none =>
      have ha := Roster.Backed.empty h hn
      exact Roster.backed_of_none hn ha
  | some k =>
      obtain ⟨i, config', hs⟩ := Roster.Backed.serves h hn
      obtain rfl : old = config' := Option.some.inj (ho.symm.trans hs.configured)
      exact (hs.reconfigure hr).backed hn

theorem adopt (h : n.Backed) (config : NodeConfig) : (n.adopt config).2.Backed := by
  unfold Node.adopt
  split
  · exact h.restart config
  · next old ho =>
    split
    · exact h.restart config
    · next hr => exact h.configured ho (Bool.eq_false_iff.mpr hr)

theorem settle (h : n.Backed) {config : NodeConfig} (hc : n.roster.config = some config)
    {keyed : OrderedMap Int User} (hk : IsKeyed config.cipher.keyLength keyed) :
    (n.settle config keyed).2.Backed := by
  rcases settle_cases n config keyed with ⟨-, message, hr⟩ | ⟨k, hh, ⟨-, hr⟩ | ⟨-, message, hr⟩⟩
  · rw [hr]
    exact (startEngine hc hk).of_eq rfl rfl rfl rfl
  · rw [hr]
    exact h.of_eq rfl rfl rfl rfl
  · obtain ⟨i, config', hs⟩ := Roster.Backed.serves h hh
    obtain rfl : config = config' := Option.some.inj (hc.symm.trans hs.configured)
    obtain ⟨hs', hh'⟩ := serves_apply hs fun u hu => Diff.isKeyed_of_mem_add hk hu
    rw [hr]
    exact (hs'.backed (hh'.trans hh)).congr rfl rfl rfl

theorem reconcile (h : n.Backed) {config : NodeConfig} (hc : n.roster.config = some config)
    (users : List User) : (n.reconcile config users).2.Backed := by
  obtain ⟨m, hl, ⟨fault, -, hr⟩ | ⟨keyed, hkeyed, hr⟩⟩ := reconcile_cases n config users
  · rw [hr]
    exact h.keeps hl.keeps
  · rw [hr]
    exact (h.keeps hl.keeps).settle ((congrArg Roster.config hl.keeps.roster).trans hc)
      (isKeyed_of_result config.cipher.keyLength_pos hkeyed)

theorem cycles : Cycles Backed where
  config h := h.keeps (listens_retrying listens_fetchConfig _ _ _).keeps
  users h := h.keeps (listens_retrying listens_fetchUsers _ _ _).keeps
  note _ _ h := h.of_eq rfl rfl rfl rfl
  roster _ hh hc ha _ h := h.of_eq rfl hh hc ha
  adopt config h := h.adopt config
  reconcile users hc h := h.reconcile hc users

/-- A launch that is refused leaves node and engine as they were. -/
theorem launch (h : n.Backed) (config : NodeConfig) (users : List User) :
    (n.launch config users).2.Backed := by
  obtain ⟨m, hm, ⟨fault, -, hr⟩ | ⟨keyed, hkeyed, hk⟩⟩ := launch_cases n config users
  · rw [hr]
    exact h.same (hm.rests.trans (rests_startFault m fault)).same
  · have hattach : m.attach.Backed := by
      unfold attach
      split
      · exact h.keeps hm.keeps
      · exact Roster.Backed.listen (h.keeps hm.keeps) _
    rcases hk with ⟨cause, k, hcall, hr⟩ | ⟨k, notice, hcall, -, hr⟩
    · rw [hr]
      rcases call_cases m.attach (.start config keyed.values) with
        ⟨e, -, hcall'⟩ | ⟨cause', -, hcall'⟩
      · cases hcall.symm.trans hcall'
      · cases hcall.symm.trans hcall'
        have hrefused : (m.attach.refused (.start config keyed.values) cause).Backed :=
          hattach.same ⟨rfl, rfl, rfl⟩
        exact hrefused.same (rests_fail _ _).same
    · rw [hr]
      rcases call_cases m.attach (.start config keyed.values) with
        ⟨e, he, hcall'⟩ | ⟨cause', -, hcall'⟩
      · cases hcall.symm.trans hcall'
        refine Roster.InStep.backed ?_
        exact Roster.inStep_of_start he
          (isKeyed_keyAll config.cipher.keyLength_pos hkeyed) rfl rfl rfl
      · cases hcall.symm.trans hcall'

theorem attends : Attends Backed where
  same := same
  sync h := cycles.sync h
  stopEngine h := by
    obtain ⟨hh, ha⟩ := h.stopEngine
    exact Roster.backed_of_none hh ha
  launch config users h := h.launch config users

end Backed

theorem IsNew.backed {n : Node} (h : n.IsNew) : n.Backed :=
  Roster.backed_of_none (by rw [h.roster]) (by rw [h.roster])

/-- Whatever is done with a node, and whatever the panel answers and the engine refuses: behind its
handle is the engine, with the node's users and configuration. -/
theorem backed_after {n : Node} (h : n.IsNew) (steps : List Step) : (n.after steps).Backed :=
  Backed.attends.after h.backed steps

/-- No cycle is under way before one begins. -/
theorem idle_after {n : Node} (h : n.IsNew) (steps : List Step) :
    (n.after steps).roster.busy = false := by
  rw [(lasts_after n steps).busy, h.roster]

end Node

end ProxyNode
