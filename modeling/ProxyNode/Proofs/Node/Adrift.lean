import ProxyNode.Proofs.Node.Disturbance

/-!
# Node — Adrift, a node without an engine

A node whose engine did not start again has no users and no handle, and keeps its configuration.  It
stays so until a sync cycle gets users whose secrets all have bytes, and that cycle starts the engine
with all of them.

* `opens`: the sync cycle that an action goes through, if it does.
* `startEngine_cases`: a start that is accepted and one that is refused.
* `starts_sync`: a cycle that gets users starts the engine of a node that holds none.
* `Fruitless`: actions with no cycle that gets such users, or a configuration that needs a restart.
* `Adrift.acts`: a node stays adrift through them, and asks nothing of the engine.
* `Adrift.awaits`: the first cycle after them that gets such users starts the engine with these.
-/

namespace ProxyNode

theorem NodeConfig.requiresRestart_trans {a b c : NodeConfig} (hab : a.requiresRestart b = false)
    (hbc : b.requiresRestart c = false) : a.requiresRestart c = false := by
  obtain ⟨hport, hcipher, hkey, htransport⟩ := requiresRestart_eq_false_iff.mp hab
  obtain ⟨hport', hcipher', hkey', htransport'⟩ := requiresRestart_eq_false_iff.mp hbc
  exact requiresRestart_eq_false_iff.mpr ⟨hport.trans hport', hcipher.trans hcipher',
    hkey.trans hkey', htransport.trans htransport'⟩

namespace Node

variable {n m : Node} {users : List User} {config new : NodeConfig}

/-- The node with which an action begins a sync cycle, if it does. -/
def opens (n : Node) : Action → Option Node
  | .sync => some n
  | .tick .sync => some (n.log (.began .sync))
  | _ => none

/-- After a cycle nothing more happens to the users and the engine. -/
theorem idles_tick (n : Node) (c : Cycle) :
    Idles ((n.log (.began c)).perform c).2 (n.tick c).2 := by
  unfold tick
  split
  · next ok k hk =>
    rw [hk]
    exact (KeepsRoster.refl k).idles
  · next fault k hk =>
    rw [hk]
    split
    · exact idles_fail k fault
    · exact (listens_note k (.cycleFailed c fault)).keeps.idles

theorem idles_act_of_opens {a : Action} (h : n.opens a = some m) :
    Idles n m ∧ Idles m.sync.2 (n.act a) := by
  have hbegan : Idles n (n.log (.began .sync)) := between_idles.began n .sync
  have htick := idles_tick n .sync
  unfold opens at h
  split at h
  · cases h
    exact ⟨(KeepsRoster.refl n).idles, (KeepsRoster.refl _).idles⟩
  · cases h
    exact ⟨hbegan, htick⟩
  · cases h

/-- An action that goes through no sync cycle leaves the users and the engine alone. -/
theorem idles_act {a : Action} (h : n.opens a = none) : Idles n (n.act a) := by
  cases a with
  | count d => exact (listens_count n d).keeps.idles
  | emit d => exact (listens_emit n d).keeps.idles
  | sync => cases h
  | report timeout policy => exact (keepsRoster_report n timeout policy).idles
  | tick c =>
      cases c with
      | sync => cases h
      | report =>
          have hreport := (keepsRoster_report (n.log (.began .report)) none n.plan.retry).idles
          exact ((between_idles.began n .report).trans hreport).trans (idles_tick n .report)
  | wait seconds => exact (listens_wait n seconds).keeps.idles
  | stop => exact (listens_raise n).keeps.idles
  | signal s => exact between_idles.signals n s

/-! ### Starting the engine -/

/-- A start that is accepted leaves a handle and the users, one that is refused neither. -/
theorem startEngine_cases (n : Node) (config : NodeConfig) (users : OrderedMap Int User) :
    (∃ k, n.Makes [(.start config users.values, none)] (n.startEngine config users).2
      ∧ (n.startEngine config users).2.roster.handle = some k
      ∧ (n.startEngine config users).2.roster.applied = users)
    ∨ ∃ cause, n.Makes [(.start config users.values, some cause)] (n.startEngine config users).2
      ∧ (n.startEngine config users).2.roster.handle = none
      ∧ (n.startEngine config users).2.roster.applied = .empty := by
  have hmakes := makes_call n (.start config users.values)
  unfold startEngine
  rcases call_cases n (.start config users.values) with ⟨e, he, hcall⟩ | ⟨cause, -, hcall⟩
  · rw [hcall] at hmakes ⊢
    obtain ⟨hlatest, -⟩ := Engine.check_of_start he
    exact .inl ⟨_, hmakes, hlatest, rfl⟩
  · rw [hcall] at hmakes ⊢
    exact .inr ⟨cause, hmakes, rfl, rfl⟩

/-- A node that holds no handle starts the engine with the users of a list, if all their secrets
have bytes. -/
theorem starts_reconcile (hh : n.roster.handle = none) (config : NodeConfig) (hl : Legible users) :
    ∃ o, n.Makes [(.start config (wanted config.cipher.keyLength users).values, o)]
      (n.reconcile config users).2 := by
  obtain ⟨m, hm, hr⟩ := reconcile_of_legible n config hl
  have hmh : m.roster.handle = none := (congrArg Roster.handle hm.keeps.roster).trans hh
  rw [hr]
  rcases settle_cases m config (wanted config.cipher.keyLength users) with
    ⟨-, message, hs⟩ | ⟨k, hk, -⟩
  · have hmarks := marks_synced (m.startEngine config (wanted config.cipher.keyLength users)).2
      (m.startEngine config (wanted config.cipher.keyLength users)).1 message
    rw [hs]
    rcases startEngine_cases m config (wanted config.cipher.keyLength users) with
      ⟨k, hstart, -⟩ | ⟨cause, hstart, -⟩
    · exact ⟨none, (hm.keeps.idles.makes hstart).marks hmarks⟩
    · exact ⟨some cause, (hm.keeps.idles.makes hstart).marks hmarks⟩
  · cases hmh.symm.trans hk

/-- A cycle that gets users, all with secrets that have bytes, starts the engine with them if no
handle is held once the configuration is refreshed. -/
theorem starts_sync (hidle : n.roster.busy = false) (ha : Legible n.roster.applied.values)
    (hg : n.Gets users) (hl : Legible users) (hc : n.refresh.2.roster.config = some config)
    (hh : n.refresh.2.roster.handle = none) :
    ∃ o, n.refresh.2.Makes [(.start config (wanted config.cipher.keyLength users).values, o)]
      n.sync.2 := by
  obtain ⟨m, hm, hsync⟩ := sync_of_yields hidle (hg.refresh_fst ha) hg.2.1 hg.2.2 hc
  have hknown : n.refresh.2.Makes [] (m.knowing users) := hm.keeps.called
  have hmh : (m.knowing users).roster.handle = none :=
    (congrArg Roster.handle hm.keeps.roster).trans hh
  obtain ⟨o, ho⟩ := starts_reconcile hmh config hl
  rw [hsync]
  exact ⟨o, hknown.trans ho⟩

/-! ### Until then -/

/-- A node without a handle and without users, between its cycles, with a configuration that is
`config` as far as it matters to the engine. -/
structure Adrift (config : NodeConfig) (n : Node) : Prop where
  handle : n.roster.handle = none
  applied : n.roster.applied = .empty
  configured : ∃ now, n.roster.config = some now ∧ now.requiresRestart config = false
  idle : n.roster.busy = false

theorem Adrift.hears (h : n.Adrift config) (hm : Hears n m) : m.Adrift config := by
  obtain ⟨outcome, fetched, hr⟩ := hm.roster
  refine ⟨?_, ?_, ?_, ?_⟩
  · rw [hr, ← h.handle]
  · rw [hr, ← h.applied]
  · rw [hr]
    exact h.configured
  · rw [hr, ← h.idle]

/-- Of the users of such a node all secrets have bytes, for there are none. -/
theorem Adrift.legible (h : n.Adrift config) : Legible n.roster.applied.values := by
  rw [h.applied]
  exact List.forall_mem_nil _

/-- A configuration that needs no restart leaves the node adrift, with this configuration. -/
theorem Adrift.refresh (h : n.Adrift config) (hmild : n.Mild) :
    n.Makes [] n.refresh.2 ∧ n.refresh.2.Adrift config := by
  -- Of several new configurations in turn each needs no restart after the one before it.
  obtain ⟨old, ho, hold⟩ := h.configured
  obtain ⟨hmakes, now, -, hnow, hr⟩ := refresh_of_mild ho hmild
  have hsettled := NodeConfig.requiresRestart_trans hnow hold
  refine ⟨hmakes, ?_, ?_, ⟨now, ?_, hsettled⟩, ?_⟩
  · rw [hr, ← h.handle]
  · rw [hr, ← h.applied]
  · rw [hr]
  · rw [hr, ← h.idle]

/-- Actions with no cycle that gets users whose secrets all have bytes, or a configuration that needs
a restart. -/
def Fruitless (n : Node) : List Action → Prop
  | [] => True
  | a :: rest =>
    (∀ m, n.opens a = some m → m.Mild ∧ ∀ users, m.Gets users → ¬ Legible users)
      ∧ (n.act a).Fruitless rest

/-- A cycle that gets no such users leaves a node adrift and asks nothing of the engine. -/
theorem Adrift.sync (h : n.Adrift config) (hmild : n.Mild)
    (huseless : ∀ users, n.Gets users → ¬ Legible users) :
    n.Makes [] n.sync.2 ∧ n.sync.2.Adrift config := by
  obtain ⟨hmakes, hrefresh⟩ := h.refresh hmild
  obtain ⟨now, hnow, -⟩ := hrefresh.configured
  have hhears := sync_of_useless h.idle h.legible hnow huseless
  exact ⟨hmakes.hears hhears, hrefresh.hears hhears⟩

/-- One such action. -/
theorem Adrift.act (h : n.Adrift config) {a : Action}
    (ha : ∀ m, n.opens a = some m → m.Mild ∧ ∀ users, m.Gets users → ¬ Legible users) :
    n.Makes [] (n.act a) ∧ (n.act a).Adrift config := by
  cases ho : n.opens a with
  | none =>
      have hidles := idles_act ho
      exact ⟨hidles.marks.makes, h.hears hidles.marks.hears⟩
  | some m =>
      obtain ⟨hbefore, hafter⟩ := idles_act_of_opens ho
      obtain ⟨hmild, huseless⟩ := ha m ho
      obtain ⟨hmakes, hsync⟩ := (h.hears hbefore.marks.hears).sync hmild huseless
      exact ⟨(hbefore.makes hmakes).idles hafter, hsync.hears hafter.marks.hears⟩

/-- As long as nothing else happens a node stays adrift and asks nothing of the engine. -/
theorem Adrift.acts (h : n.Adrift config) {actions : List Action} (ha : n.Fruitless actions) :
    n.Makes [] (n.acts actions) ∧ (n.acts actions).Adrift config := by
  -- Each action leaves the node adrift, so the next one meets with the same.
  induction actions generalizing n with
  | nil => exact ⟨rfl, h⟩
  | cons a rest ih =>
      obtain ⟨hfirst, hrest⟩ := ha
      obtain ⟨hmakes, hact⟩ := h.act hfirst
      obtain ⟨hmakes', hacts⟩ := ih hact hrest
      exact ⟨hmakes.trans hmakes', hacts⟩

/-- A cycle that gets users, all with secrets that have bytes, and no configuration that needs a
restart, starts the engine with all of these users. -/
theorem Adrift.starts (h : n.Adrift config) (hmild : n.Mild) (hg : n.Gets users)
    (hl : Legible users) :
    ∃ now o, n.refresh.2.roster.config = some now ∧ now.requiresRestart config = false
      ∧ n.Makes [(.start now (wanted config.cipher.keyLength users).values, o)] n.sync.2 := by
  obtain ⟨hmakes, hrefresh⟩ := h.refresh hmild
  obtain ⟨now, hnow, hsettled⟩ := hrefresh.configured
  obtain ⟨o, ho⟩ := starts_sync h.idle h.legible hg hl hnow hrefresh.handle
  rw [(NodeConfig.requiresRestart_eq_false_iff.mp hsettled).2.1] at ho
  exact ⟨now, o, hnow, hsettled, hmakes.trans ho⟩

/-- So does the first such cycle after actions that came to nothing, which asked nothing of the
engine. -/
theorem Adrift.awaits (h : n.Adrift config) {actions : List Action} (ha : n.Fruitless actions)
    {a : Action} (ho : (n.acts actions).opens a = some m) (hmild : m.Mild) (hg : m.Gets users)
    (hl : Legible users) :
    ∃ now o, m.refresh.2.roster.config = some now ∧ now.requiresRestart config = false
      ∧ n.Makes [(.start now (wanted config.cipher.keyLength users).values, o)]
        (n.acts (actions ++ [a])) := by
  obtain ⟨hmakes, hacts⟩ := h.acts ha
  obtain ⟨hbefore, hafter⟩ := idles_act_of_opens ho
  obtain ⟨now, o, hnow, hsettled, hstart⟩ := (hacts.hears hbefore.marks.hears).starts hmild hg hl
  refine ⟨now, o, hnow, hsettled, ?_⟩
  rw [acts_append]
  exact hmakes.trans ((hbefore.makes hstart).idles hafter)

end Node

end ProxyNode
