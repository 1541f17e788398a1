import ProxyNode.Proofs.Engine.Replay
import ProxyNode.Proofs.Node.Registry

/-!
# Node — Calls, none of which the engine objects to

A node that is in step with its engine asks it only for what it permits: it removes whom the engine
has, adds whom it does not have with a key of the right length, names the instance that runs, and
starts it only when it does not run.

* `Attuned`: every call so far was permitted, and the engine is what the calls made of it.
* `Attuned.removeAll`, `Attuned.addAll`: the calls that change the users.
* `Attuned.start`: a start needs an engine that does not run.
* `calls_permitted`: after one start the engine has no objection to any call, and refuses none of
  its own accord.
-/

namespace ProxyNode

namespace Roster

variable {r : Roster} {e : Engine} {h : Engine.Handle} {i : Engine.Instance} {config : NodeConfig}

theorem Serves.permits_remove (hs : r.Serves e h i config) {id : Int} {u : User}
    (hu : r.applied.get? id = some u) : e.Permits (.remove h id) :=
  ⟨i, u.key, hs.check, by rw [hs.registered, hu]; rfl⟩

theorem Serves.permits_add (hs : r.Serves e h i config) {u : User}
    (hk : u.IsKeyed config.cipher.keyLength u.id) (hu : r.applied.get? u.id = none) :
    e.Permits (.add h u.id u.key) :=
  ⟨i, hs.check, hs.cipher ▸ hk.length_key, by rw [hs.registered, hu]; rfl⟩

end Roster

namespace Node

/-- What a node has asked of its engine, which was `e₀` at first and refuses from outside what `r`
says: every call was permitted, and the engine is what the calls made of it. -/
structure Attuned (e₀ : Engine) (r : Nat → Engine.Call → Bool) (n : Node) : Prop where
  refuses : n.refuses = r
  alike : Engine.Alike n.engine (e₀.replay n.called)
  sound : e₀.Sound (fun c => ∃ k, r k c = true) n.called

/-- From `n` to `n'` nothing happened to the users and the engine, which was not called. -/
structure Idles (n n' : Node) : Prop where
  same : SameUsers n n'
  called : n'.called = n.called

section Chains

variable {n n₁ n₂ n₃ : Node}

theorem KeepsRoster.idles (h : KeepsRoster n₁ n₂) : Idles n₁ n₂ := ⟨h.sameUsers, h.called⟩

theorem Idles.trans (h : Idles n₁ n₂) (h' : Idles n₂ n₃) : Idles n₁ n₃ :=
  ⟨h.same.trans h'.same, h'.called.trans h.called⟩

theorem idles_fail (n : Node) (fault : Fault) : Idles n (n.fail fault) := by
  have hf : Idles n { n with phase := .failed, fatal := some fault } := ⟨⟨rfl, rfl, rfl⟩, rfl⟩
  exact hf.trans ((listens_note _ (.fatal fault)).trans (listens_raise _)).keeps.idles

theorem idles_startFault {α : Type} (n : Node) (fault : Fault) :
    Idles n (n.startFault fault : Except Fault α × Node).2 := by
  unfold startFault
  dsimp only
  split
  · exact idles_fail n fault
  · exact (KeepsRoster.refl n).idles

theorem between_idles : Between Idles where
  listens hl := hl.keeps.idles
  began _ _ := ⟨⟨rfl, rfl, rfl⟩, rfl⟩
  fails := idles_fail
  signals _ _ := ⟨⟨rfl, rfl, rfl⟩, rfl⟩

end Chains

namespace Attuned

variable {e₀ : Engine} {r : Nat → Engine.Call → Bool} {n n' : Node}

theorem of_eq (h : n.Attuned e₀ r) (hr : n'.refuses = n.refuses) (he : n'.engine = n.engine)
    (hc : n'.called = n.called) : n'.Attuned e₀ r :=
  ⟨hr.trans h.refuses, by rw [he, hc]; exact h.alike, by rw [hc]; exact h.sound⟩

theorem idles (h : n.Attuned e₀ r) (hi : Idles n n') : n'.Attuned e₀ r :=
  h.of_eq hi.same.refuses hi.same.engine hi.called

/-- A call that the engine permits is made, or refused from outside. -/
theorem call (h : n.Attuned e₀ r) {c : Engine.Call} (hp : n.engine.Permits c) :
    (n.call c).2.Attuned e₀ r := by
  have hpermits := h.alike.permits hp
  by_cases hr : n.refuses n.calls c = true
  · have hcall : n.call c = (some c.refusal, n.refused c c.refusal) := by
      unfold Node.call
      rw [if_pos hr]
      rfl
    rw [hcall]
    exact ⟨h.refuses, h.alike, h.sound.cons hpermits (.inr ⟨rfl, n.calls, h.refuses ▸ hr⟩)⟩
  · obtain ⟨e, he⟩ := Engine.perform_of_permits hp
    obtain ⟨d, hd, halike⟩ := h.alike.perform he
    rw [call_of_perform (Bool.eq_false_iff.mpr hr) he]
    have hreplay : e₀.replay (n.accepted c e).called = d := Engine.replay_cons_of_ok hd
    exact ⟨h.refuses, hreplay ▸ halike, h.sound.cons hpermits (.inl rfl)⟩

/-! ### The engine -/

theorem stopEngine (h : n.Attuned e₀ r) (ht : n.Tended) : n.stopEngine.Attuned e₀ r := by
  unfold Node.stopEngine
  split
  · exact h
  · next k hk =>
    obtain ⟨i, config, hs⟩ := ht.inStep.serves hk
    have hc := h.call (c := .stop k) ⟨i, hs.check⟩
    split
    · next cause m hm => rw [hm] at hc; exact hc.of_eq rfl rfl rfl
    · next m hm => rw [hm] at hc; exact hc.of_eq rfl rfl rfl

theorem startEngine (h : n.Attuned e₀ r) (hrun : n.engine.anyRunning = false)
    (config : NodeConfig) (users : OrderedMap Int User) :
    (n.startEngine config users).2.Attuned e₀ r := by
  have hc := h.call (c := .start config users.values) hrun
  unfold Node.startEngine
  split
  · next cause m hm => rw [hm] at hc; exact hc.of_eq rfl rfl rfl
  · next m hm => rw [hm] at hc; exact hc.of_eq rfl rfl rfl

/-- A restart stops the engine before it starts it. -/
theorem restart (h : n.Attuned e₀ r) (ht : n.Tended) (config : NodeConfig) :
    (n.restart config).2.Attuned e₀ r := by
  have hn : (n.note (.configChanged config.port config.cipher)).Tended :=
    ht.of_eq rfl rfl rfl rfl rfl
  have hs := (h.idles (listens_note n (.configChanged config.port config.cipher)).keeps.idles)
    |>.stopEngine hn
  obtain ⟨hts, hh⟩ := hn.stopEngine
  obtain ⟨-, hrun⟩ := hts.inStep.none hh
  have hc : (configured _ config).Attuned e₀ r := hs.of_eq rfl rfl rfl
  obtain ⟨m, hm, ⟨fault, -, hr⟩ | ⟨keyed, -, hr⟩⟩ := restart_cases n config
  · rw [hr]
    exact hc.idles hm.keeps.idles
  · rw [hr]
    exact (hc.idles hm.keeps.idles).startEngine (hm.keeps.engine ▸ hrun) config keyed

theorem adopt (h : n.Attuned e₀ r) (ht : n.Tended) (config : NodeConfig) :
    (n.adopt config).2.Attuned e₀ r := by
  unfold Node.adopt
  split
  · exact h.restart ht config
  · split
    · exact h.restart ht config
    · exact h.of_eq rfl rfl rfl

/-! ### Changing the users -/

section Users

variable {handle : Engine.Handle} {i : Engine.Instance} {config : NodeConfig}

/-- Removing users, each of whom is there. -/
theorem removeAll (h : n.Attuned e₀ r) (hs : n.roster.Serves n.engine handle i config)
    {ids : List Int} (hnodup : ids.Nodup)
    (hin : ∀ id ∈ ids, ∃ u, n.roster.applied.get? id = some u) :
    (n.removeAll handle ids).2.Attuned e₀ r := by
  induction ids generalizing n with
  | nil => exact h
  | cons id rest ih =>
      rw [List.nodup_cons] at hnodup
      obtain ⟨u, hu⟩ := hin id List.mem_cons_self
      have hc := h.call (hs.permits_remove hu)
      rcases removeAll_cons n handle id rest with ⟨e, hcall, rfl, hr⟩ | ⟨cause, hcall, hr⟩
      · rw [hr]
        rw [hcall] at hc
        have hrest : ∀ j ∈ rest, ∃ v, (n.roster.applied.erase id).get? j = some v := by
          intro j hj
          have hne : j ≠ id := fun e => hnodup.1 (e ▸ hj)
          rw [OrderedMap.get?_erase, if_neg hne]
          exact hin j (List.mem_cons_of_mem id hj)
        exact ih (n := n.removed handle id _) (hc.of_eq rfl rfl rfl) (hs.erase id) hnodup.2 hrest
      · rw [hr]
        rw [hcall] at hc
        exact ih (n := n.unremoved handle id cause) (hc.of_eq rfl rfl rfl) hs hnodup.2
          fun j hj => hin j (List.mem_cons_of_mem id hj)

/-- Adding users with their keys, none of whom is there. -/
theorem addAll (h : n.Attuned e₀ r) (hs : n.roster.Serves n.engine handle i config)
    {kept : List Int} {users : List User}
    (hkeyed : ∀ u ∈ users, u.IsKeyed config.cipher.keyLength u.id)
    (hnodup : (users.map User.id).Nodup)
    (hout : ∀ u ∈ users, kept.contains u.id = false → n.roster.applied.get? u.id = none) :
    (n.addAll handle kept users).2.2.Attuned e₀ r := by
  induction users generalizing n with
  | nil => exact h
  | cons u rest ih =>
      rw [List.map_cons, List.nodup_cons] at hnodup
      rw [List.forall_mem_cons] at hkeyed hout
      rcases addAll_cons n handle kept u rest with
        ⟨-, hr⟩ | ⟨hk, ⟨e, hcall, rfl, hr⟩ | ⟨cause, hcall, hr⟩⟩
      · rw [hr]
        exact ih h hs hkeyed.2 hnodup.2 hout.2
      · have hc := h.call (hs.permits_add hkeyed.1 (hout.1 hk))
        rw [hr]
        rw [hcall] at hc
        have hrest : ∀ v ∈ rest, kept.contains v.id = false →
            (n.roster.applied.insert u.id u).get? v.id = none := by
          intro v hv hkv
          have hne : v.id ≠ u.id := fun e => hnodup.1 (List.mem_map.mpr ⟨v, hv, e⟩)
          rw [OrderedMap.get?_insert, if_neg hne]
          exact hout.2 v hv hkv
        exact ih (n := n.added handle u _) (hc.of_eq rfl rfl rfl) (hs.insert hkeyed.1) hkeyed.2
          hnodup.2 hrest
      · have hc := h.call (hs.permits_add hkeyed.1 (hout.1 hk))
        rw [hr]
        rw [hcall] at hc
        exact ih (n := n.unadded handle u cause) (hc.of_eq rfl rfl rfl) hs hkeyed.2 hnodup.2 hout.2

end Users

end Attuned

/-- Whom the removals concern is gone or kept, and with anyone else nothing happened. -/
theorem get?_removeAll (n : Node) (handle : Engine.Handle) (ids : List Int) (j : Int) :
    (n.removeAll handle ids).2.roster.applied.get? j = none
    ∨ (n.removeAll handle ids).2.roster.applied.get? j = n.roster.applied.get? j
      ∧ (j ∈ ids → j ∈ (n.removeAll handle ids).1) := by
  induction ids generalizing n with
  | nil => exact .inr ⟨rfl, nofun⟩
  | cons id rest ih =>
      rcases removeAll_cons n handle id rest with ⟨e, -, rfl, hr⟩ | ⟨cause, -, hr⟩
      · rw [hr]
        rcases ih (n.removed handle id _) with hnone | ⟨hsame, hkept⟩
        · exact .inl hnone
        · have herase := hsame.trans (OrderedMap.get?_erase n.roster.applied id j)
          split at herase
          · exact .inl herase
          · next hne =>
            exact .inr ⟨herase, fun hj => hkept ((List.mem_cons.mp hj).resolve_left hne)⟩
      · rw [hr]
        rcases ih (n.unremoved handle id cause) with hnone | ⟨hsame, hkept⟩
        · exact .inl hnone
        · refine .inr ⟨hsame, fun hj => ?_⟩
          rcases List.mem_cons.mp hj with rfl | hj
          · exact List.mem_cons_self
          · exact List.mem_cons_of_mem id (hkept hj)

namespace Attuned

variable {e₀ : Engine} {r : Nat → Engine.Call → Bool} {n : Node}

/-- A change to keyed users.  Whoever is added in the place of another is removed first, and not
added if that was refused. -/
theorem apply (h : n.Attuned e₀ r) {handle : Engine.Handle} {i : Engine.Instance}
    {config : NodeConfig} (hs : n.roster.Serves n.engine handle i config)
    {wanted : OrderedMap Int User} (hw : IsKeyed config.cipher.keyLength wanted) :
    (n.apply handle (Diff.between n.roster.applied wanted.values)).2.Attuned e₀ r := by
  generalize hd : Diff.between n.roster.applied wanted.values = d
  have hin : ∀ id ∈ d.remove, ∃ u, n.roster.applied.get? id = some u := by
    intro id hid
    obtain ⟨old, ho, -⟩ := Diff.mem_remove_iff.mp (hd ▸ hid)
    exact ⟨old, ho⟩
  have hr := h.removeAll hs (hd ▸ Diff.nodup_remove _ _) hin
  obtain ⟨hs', -⟩ := serves_removeAll hs d.remove
  have hout : ∀ u ∈ d.add, (n.removeAll handle d.remove).1.contains u.id = false →
      (n.removeAll handle d.remove).2.roster.applied.get? u.id = none := by
    intro u hu hk
    rcases get?_removeAll n handle d.remove u.id with hnone | ⟨hsame, hkept⟩
    · exact hnone
    · rw [hsame]
      cases ho : n.roster.applied.get? u.id with
      | none => rfl
      | some old =>
          have hmem := hkept (hd ▸ Diff.mem_remove_of_mem_add (hd ▸ hu) ho)
          rw [List.contains_iff_mem.mpr hmem] at hk
          cases hk
  have ha := hr.addAll hs' (fun u hu => Diff.isKeyed_of_mem_add hw (hd ▸ hu))
    (hd ▸ Diff.nodup_add _ _) hout
  exact ha.of_eq rfl rfl rfl

theorem settle (h : n.Attuned e₀ r) (ht : n.Tended) {config : NodeConfig}
    (hc : n.roster.config = some config) {keyed : OrderedMap Int User}
    (hk : IsKeyed config.cipher.keyLength keyed) : (n.settle config keyed).2.Attuned e₀ r := by
  rcases settle_cases n config keyed with ⟨hh, message, hr⟩ | ⟨k, hh, ⟨-, hr⟩ | ⟨-, message, hr⟩⟩
  · rw [hr]
    exact (h.startEngine (ht.inStep.none hh).2 config keyed).of_eq rfl rfl rfl
  · rw [hr]
    exact h.of_eq rfl rfl rfl
  · obtain ⟨i, config', hs⟩ := ht.inStep.serves hh
    obtain rfl : config = config' := Option.some.inj (hc.symm.trans hs.configured)
    rw [hr]
    exact (h.apply hs hk).of_eq rfl rfl rfl

theorem reconcile (h : n.Attuned e₀ r) (ht : n.Tended) {config : NodeConfig}
    (hc : n.roster.config = some config) (users : List User) :
    (n.reconcile config users).2.Attuned e₀ r := by
  obtain ⟨m, hl, ⟨fault, -, hr⟩ | ⟨keyed, hkeyed, hr⟩⟩ := reconcile_cases n config users
  · rw [hr]
    exact h.idles hl.keeps.idles
  · rw [hr]
    exact (h.idles hl.keeps.idles).settle (ht.keeps hl.keeps)
      ((congrArg Roster.config hl.keeps.roster).trans hc)
      (isKeyed_of_result config.cipher.keyLength_pos hkeyed)

/-! ### A run -/

theorem cycles (e₀ : Engine) (r : Nat → Engine.Call → Bool) :
    Cycles fun n => n.Tended ∧ n.Attuned e₀ r where
  config h := ⟨Tended.cycles.config h.1,
    h.2.idles (listens_retrying listens_fetchConfig _ _ _).keeps.idles⟩
  users h := ⟨Tended.cycles.users h.1,
    h.2.idles (listens_retrying listens_fetchUsers _ _ _).keeps.idles⟩
  note notice hn h := ⟨Tended.cycles.note notice hn h.1, h.2.of_eq rfl rfl rfl⟩
  roster x hh hc ha hb h := ⟨Tended.cycles.roster x hh hc ha hb h.1, h.2.of_eq rfl rfl rfl⟩
  adopt config h := ⟨h.1.adopt config, h.2.adopt h.1 config⟩
  reconcile users hc h := ⟨h.1.reconcile hc users, h.2.reconcile h.1 hc users⟩

theorem rounds (e₀ : Engine) (r : Nat → Engine.Call → Bool) :
    Rounds Idles fun n => n.Tended ∧ n.Attuned e₀ r where
  between := between_idles
  keeps h hi := ⟨h.1.same hi.same, h.2.idles hi⟩
  sync h := (cycles e₀ r).sync h
  report timeout policy h := ⟨h.1.keeps (keepsRoster_report _ timeout policy),
    h.2.idles (keepsRoster_report _ timeout policy).idles⟩

theorem launch (h : n.Attuned e₀ r) (hrun : n.engine.anyRunning = false) (config : NodeConfig)
    (users : List User) : (n.launch config users).2.Attuned e₀ r := by
  obtain ⟨m, hm, ⟨fault, -, hl⟩ | ⟨keyed, -, hk⟩⟩ := launch_cases n config users
  · rw [hl]
    exact h.idles (hm.keeps.idles.trans (idles_startFault m fault))
  · have hma := h.idles hm.keeps.idles
    have hrun' : m.engine.anyRunning = false := hm.keeps.engine ▸ hrun
    -- Whoever listens to an engine is no matter to it.
    have hattach : m.attach.Attuned e₀ r ∧ m.attach.engine.anyRunning = false := by
      unfold attach
      split
      · exact ⟨hma, hrun'⟩
      · exact ⟨⟨hma.refuses, ⟨hma.alike.instances, hma.alike.users⟩, hma.sound⟩, hrun'⟩
    have hc := hattach.1.call (c := .start config keyed.values) hattach.2
    rcases hk with ⟨cause, k, hcall, hl⟩ | ⟨k, notice, hcall, -, hl⟩
    · rw [hcall] at hc
      rw [hl]
      exact hc.idles (idles_fail k _)
    · rw [hcall] at hc
      rw [hl]
      exact hc.of_eq rfl rfl rfl

/-- A start makes a permitted call if the engine does not run. -/
theorem start (h : n.Attuned e₀ r) (hrun : n.engine.anyRunning = false) :
    n.start.2.Attuned e₀ r := by
  have hp : Idles n { n with phase := .starting } := ⟨sameUsers_phase n .starting, rfl⟩
  have hi := hp.trans (keepsRoster_resume { n with phase := .starting }).idles
  rcases start_cases n with ⟨fault, -, hs⟩ | ⟨-, m, hm, ⟨fault, hs⟩ | hs | ⟨config, users, hs⟩⟩
  · rw [hs]
    exact h.idles hi
  · rw [hs]
    exact h.idles ((hi.trans hm.keeps.idles).trans (idles_startFault m fault))
  · rw [hs]
    exact h.idles (hi.trans hm.keeps.idles)
  · rw [hs]
    have hm' := hi.trans hm.keeps.idles
    exact (h.idles hm').launch (hm'.same.engine ▸ hrun) config users

theorem shutdown (h : n.Attuned e₀ r) (ht : n.Tended) (inFlight : List Cycle) :
    (n.shutdown inFlight).2.Attuned e₀ r := by
  have hp : Idles n { n with phase := .stopping } := ⟨sameUsers_phase n .stopping, rfl⟩
  obtain ⟨htc, hc⟩ := (rounds e₀ r).closing ⟨ht.same hp.same, h.idles hp⟩ inFlight
  have hf := (hc.stopEngine htc).idles (keepsRoster_finalFlush _).idles
  exact shutdown_induction h hf fun _ hm => hm.of_eq rfl rfl rfl

/-- Whatever is done with a node but to start it makes permitted calls. -/
theorem after (h : n.Attuned e₀ r) (ht : n.Tended) {steps : List Step}
    (hsteps : ∀ s ∈ steps, s.isStart = false) : (n.after steps).Attuned e₀ r := by
  induction steps generalizing n with
  | nil => exact h
  | cons s rest ih =>
      rw [List.forall_mem_cons] at hsteps
      refine ih ?_ (Tended.attends.step ht s) hsteps.2
      cases s with
      | start => cases hsteps.1
      | act a => exact ((rounds e₀ r).act ⟨ht, h⟩ a).2
      | shutdown inFlight => exact h.shutdown ht inFlight

end Attuned

theorem IsNew.attuned {n : Node} (h : n.IsNew) : n.Attuned n.engine n.refuses := by
  have hc : n.called = [] := by rw [called, h.journal]; rfl
  exact ⟨rfl, by rw [hc]; exact .refl _, by rw [hc]; exact Engine.sound_nil _ _⟩

/-- Let a new node be started, and then go through any cycles and be shut down, whatever the panel
answers and whatever the engine refuses from outside, except to stop.  Then the engine permits every
call at the moment at which it is made: it has no objection of its own to any.  So if nothing is
refused from outside, nothing is refused. -/
theorem calls_permitted {n₀ n : Node} (h : n₀.IsNew)
    (hstops : ∀ k handle, n₀.refuses k (.stop handle) = false) {steps : List Step}
    (hsteps : ∀ s ∈ steps, s.isStart = false) (hn : n = n₀.after (.start :: steps)) :
    (∀ c refusal past, (c, refusal) :: past <:+ n.called →
      (n₀.engine.replay past).Permits c
      ∧ (refusal = none ∨ refusal = some c.refusal ∧ ∃ k, n₀.refuses k c = true))
    ∧ Engine.Alike n.engine (n₀.engine.replay n.called)
    ∧ ((∀ k c, n₀.refuses k c = false) → ∀ c refusal, (c, refusal) ∈ n.called → refusal = none) := by
  have hstart : n₀.start.2.Attuned n₀.engine n₀.refuses := h.attuned.start h.engine
  have ha := hstart.after (Tended.attends.start (h.tended hstops)) hsteps
  obtain rfl : n = n₀.start.2.after steps := hn
  refine ⟨ha.sound, ha.alike, fun hfree c refusal hmem => ?_⟩
  obtain ⟨later, past, hsplit⟩ := List.append_of_mem hmem
  obtain ⟨-, hr | ⟨-, k, hk⟩⟩ := ha.sound c refusal past ⟨later, hsplit.symm⟩
  · exact hr
  · rw [hfree] at hk
    cases hk

/-- The sample, whose panel gives its user another secret and lists one more user after the start.
The engine refuses to remove the first. -/
def sampleRefusing : Node :=
  { sample with
    panel := { sample.panel with
      users := sample.panel.users ++ [{ answer := .response { text := "\x7b\"users\":["
        ++ "\x7b\"id\":1,\"uuid\":\"fedcba9876543210\"\x7d,"
        ++ "\x7b\"id\":2,\"uuid\":\"0123456789abcdef\"\x7d]\x7d" } }] }
    refuses := fun _ c => match c with
      | .remove _ id => id == 1
      | _ => false }

theorem isNew_sampleRefusing : sampleRefusing.IsNew :=
  ⟨rfl, rfl, ⟨16, by decide, rfl⟩, rfl, rfl, rfl, rfl⟩

/-- The second user is added and the first is not, since it could not be removed. -/
theorem calls_permitted_sample :
    (sampleRefusing.after [.start, .act .sync, .shutdown []]).called.map Prod.snd
      = [none, none, some (.removeRefused 1), none]
    ∧ ∀ c refusal past,
      (c, refusal) :: past <:+ (sampleRefusing.after [.start, .act .sync, .shutdown []]).called →
      (sampleRefusing.engine.replay past).Permits c
      ∧ (refusal = none ∨ refusal = some c.refusal ∧ ∃ k, sampleRefusing.refuses k c = true) := by
  have hsteps : ∀ s ∈ [Step.act .sync, .shutdown []], s.isStart = false := by decide
  exact ⟨by decide +kernel,
    (calls_permitted isNew_sampleRefusing (fun _ _ => rfl) hsteps rfl).1⟩

end Node

end ProxyNode
