import ProxyNode.Proofs.Node.Adrift

/-!
# Node — Restart, the engine with another configuration

A node that holds a handle stops its engine just if it gets a configuration that differs in what
matters to the engine.  It starts it again with the users it has, as far as they can have a key
under that configuration, and goes on with the listed users after that.  If the start is refused,
the node has no users until it gets some whose secrets all have bytes, and starts the engine with all
of these.

* `Differs`: what matters to an engine.
* `makes_restart`: a restart that is accepted and one that is not.
* `RunsOn`: cycles that go on with the engine that runs.
* `Restarts`: cycles that restart it.
* `sync_restarts`: which cycles do what, after anything that happened to the node.
* `sync_strands`: a secret without bytes keeps the engine from starting after a refused start.
-/

namespace ProxyNode

/-- Whether two configurations differ in what matters to an engine. -/
def NodeConfig.Differs (new old : NodeConfig) : Prop :=
  new.port ≠ old.port ∨ new.cipher ≠ old.cipher ∨ new.serverKey ≠ old.serverKey
    ∨ new.transport ≠ old.transport

theorem NodeConfig.differs_iff {new old : NodeConfig} :
    new.Differs old ↔ new.requiresRestart old = true := by
  rw [← Bool.not_eq_false, requiresRestart_eq_false_iff, Differs]
  tauto

/-- Every call that makes some users others concerns a single user. -/
theorem Disturbs.concerns {h : Engine.Handle} {current next : OrderedMap Int User}
    {calls : List (Engine.Call × Option EngineCause)} (hd : Disturbs h current next calls) :
    ∀ e ∈ calls, e.1.user?.isSome = true := by
  obtain ⟨gone, -, -, hcalls⟩ := hd.asks
  intro e he
  have hmem : e.1 ∈ calls.map Prod.fst := List.mem_map_of_mem he
  rw [hcalls, List.mem_append, List.mem_append] at hmem
  rcases hmem with (hmem | hmem) | hmem
  · obtain ⟨i, -, hi⟩ := List.mem_map.mp hmem
    rw [← hi]
    rfl
  · obtain ⟨u, -, hu⟩ := List.mem_map.mp hmem
    rw [← hu]
    rfl
  · obtain ⟨u, -, hu⟩ := List.mem_map.mp hmem
    rw [← hu]
    rfl

namespace Node

variable {n : Node} {k : Engine.Handle} {users : List User} {config new : NodeConfig}

/-- The users of a node that can have a key under a configuration, with that key. -/
def rekeyed (n : Node) (new : NodeConfig) : List User :=
  (n.roster.applied.values.filter (User.keyable new.cipher.keyLength)).map
    (User.withOwnKey new.cipher.keyLength)

/-- What a node has are its users once more, keyed for another configuration. -/
theorem values_rekeyed (hb : n.Backed) (hk : n.roster.handle = some k) (new : NodeConfig) :
    (wanted new.cipher.keyLength n.roster.applied.values).values = n.rekeyed new := by
  obtain ⟨i, config, hs⟩ := Roster.Backed.serves hb hk
  exact values_wanted hs.keyed.nodup_ids

/-! ### The restart -/

theorem makes_stopEngine (hk : n.roster.handle = some k) :
    ∃ o, n.Makes [(.stop k, o)] n.stopEngine := by
  have hmakes := makes_call n (.stop k)
  refine ⟨(n.call (.stop k)).1, ?_⟩
  unfold stopEngine
  split
  · next hnone => cases hk.symm.trans hnone
  · next h hh =>
    obtain rfl : k = h := Option.some.inj (hk.symm.trans hh)
    split
    · next cause m hm =>
      rw [hm] at hmakes ⊢
      exact hmakes
    · next m hm =>
      rw [hm] at hmakes ⊢
      exact hmakes

/-- A restart stops the engine and starts it with the users that the node has.  If the start is
accepted, these are its users from then on, and otherwise it has none. -/
theorem makes_restart (hb : n.Backed) (hk : n.roster.handle = some k) (new : NodeConfig) :
    ∃ stopped started, n.Makes [(.stop k, stopped), (.start new (n.rekeyed new), started)]
        (n.restart new).2
      ∧ (n.restart new).2.roster.config = some new
      ∧ (started = none ∧ (∃ k', (n.restart new).2.roster.handle = some k')
          ∧ (n.restart new).2.roster.applied.values = n.rekeyed new
        ∨ started.isSome = true ∧ (n.restart new).2.roster.handle = none
          ∧ (n.restart new).2.roster.applied = .empty) := by
  have hconfig := (restart_learns n new).config
  have hvalues := values_rekeyed hb hk new
  obtain ⟨stopped, hstopped⟩ : ∃ o, n.Makes [(.stop k, o)]
      (n.note (.configChanged new.port new.cipher)).stopEngine := makes_stopEngine hk
  -- All users have keys, so their secrets have bytes, and the restart is not broken off.
  obtain ⟨m, hm, hr⟩ := restart_of_legible hb.legible new
  have hready : n.Makes [(.stop k, stopped)] m := hstopped.trans hm.keeps.called
  rw [hr] at hconfig ⊢
  rcases startEngine_cases m new (wanted new.cipher.keyLength n.roster.applied.values) with
    ⟨k', hstart, hk', ha⟩ | ⟨cause, hstart, hnone, hempty⟩
  · rw [hvalues] at hstart
    refine ⟨stopped, none, hready.trans hstart, hconfig, .inl ⟨rfl, ⟨k', hk'⟩, ?_⟩⟩
    rw [ha, hvalues]
  · rw [hvalues] at hstart
    exact ⟨stopped, some cause, hready.trans hstart, hconfig, .inr ⟨rfl, hnone, hempty⟩⟩

/-- A cycle that gets a configuration that needs a restart begins with it. -/
theorem refresh_of_differs (hc : n.roster.config = some config) (hnew : n.configFetch.1 = .ok new)
    (hd : new.Differs config) : n.refresh.2 = (n.configFetch.2.restart new).2 := by
  have hroster := (listens_configFetch n).keeps.roster
  have hr := NodeConfig.differs_iff.mp hd
  unfold refresh
  rw [configFetch] at hroster hnew ⊢
  split
  · next got m hm =>
    rw [hm] at hroster hnew ⊢
    obtain rfl : got = new := Except.ok.inj hnew
    have hmc : m.roster.config = some config := (congrArg Roster.config hroster).trans hc
    show (m.adopt got).2 = (m.restart got).2
    rw [adopt, hmc]
    dsimp only
    rw [if_pos hr]
  · next what m hm =>
    rw [hm] at hnew
    cases hnew
  · next fault m _ hm =>
    rw [hm] at hnew
    cases hnew

/-- After it has refreshed the configuration a cycle leaves it as it is. -/
theorem config_sync (hidle : n.roster.busy = false) :
    n.sync.2.roster.config = n.refresh.2.roster.config := by
  rcases sync_halves hidle with ⟨h, -⟩ | ⟨h, -⟩
  · exact h.config
  · exact h.config.trans (syncUsers_learns n.refresh.2).config

/-! ### The two kinds of cycles -/

/-- The cycle that begins with `n` goes on with the engine that runs: it neither stops nor starts
one. Of a new configuration it takes note, and of nothing else before it goes on with the users. -/
structure RunsOn (n : Node) : Prop where
  calls : ∀ e ∈ n.made n.sync.2, (∀ h, e.1 ≠ .stop h) ∧ ∀ config users, e.1 ≠ .start config users
  quiet : n.made n.refresh.2 = []
  replaces : ∀ {new}, n.configFetch.1 = .ok new →
    n.refresh.2.roster = { n.roster with config := some new }
      ∧ n.sync.2.roster.config = some new

/-- The cycle that begins with `n` restarts the engine with the configuration `new`, which comes to
`stopped` and `started`, and then makes the calls `rest`. -/
structure Restarts (n : Node) (k : Engine.Handle) (new : NodeConfig)
    (stopped started : Option EngineCause) (rest : List (Engine.Call × Option EngineCause)) :
    Prop where
  first : n.made n.refresh.2 = [(.stop k, stopped), (.start new (n.rekeyed new), started)]
  calls : n.made n.sync.2
    = (.stop k, stopped) :: (.start new (n.rekeyed new), started) :: rest
  once : ∀ e ∈ rest, ∀ h, e.1 ≠ .stop h
  configured : n.refresh.2.roster.config = some new ∧ n.sync.2.roster.config = some new
  useless : (∀ users, n.Gets users → ¬ Legible users) → rest = []
  -- The change to the listed users is one from the users with which the engine started.
  accepted : started = none → n.refresh.2.roster.applied.values = n.rekeyed new
    ∧ ∃ k', n.refresh.2.roster.handle = some k' ∧ ∀ users, n.Gets users → Legible users →
      Disturbs k' n.refresh.2.roster.applied (wanted new.cipher.keyLength users) rest
  refused : started.isSome = true → n.refresh.2.Adrift new
    ∧ (∀ users, n.Gets users → Legible users →
      ∃ o, rest = [(.start new (wanted new.cipher.keyLength users).values, o)])
    ∧ ((∀ users, n.Gets users → ¬ Legible users) → ∀ actions a m users,
      n.sync.2.Fruitless actions → (n.sync.2.acts actions).opens a = some m → m.Mild →
      m.Gets users → Legible users →
      ∃ now o, m.refresh.2.roster.config = some now ∧ now.requiresRestart new = false
        ∧ n.sync.2.made (n.sync.2.acts (actions ++ [a]))
          = [(.start now (wanted new.cipher.keyLength users).values, o)])

/-- With a handle held once the configuration is refreshed, each call that follows concerns a single
user. -/
theorem concerns_sync (hb : n.Backed) (hidle : n.roster.busy = false)
    (hc : n.refresh.2.roster.config = some config) (hk : n.refresh.2.roster.handle = some k) :
    ∃ calls, n.refresh.2.Makes calls n.sync.2 ∧ (∀ e ∈ calls, e.1.user?.isSome = true)
      ∧ (∀ users, n.Gets users → Legible users → Disturbs k n.refresh.2.roster.applied
        (wanted config.cipher.keyLength users) calls)
      ∧ ((∀ users, n.Gets users → ¬ Legible users) → calls = []) := by
  by_cases hg : ∃ users, n.Gets users ∧ Legible users
  · obtain ⟨users, hg, hl⟩ := hg
    obtain ⟨calls, hcalls, hd⟩ := disturbs_sync hb hidle hg hl hc hk
    refine ⟨calls, hcalls, hd.concerns, fun users' hg' _ => ?_,
      fun hnone => absurd hl (hnone users hg)⟩
    rw [hg'.unique hg]
    exact hd
  · have hnone : ∀ users, n.Gets users → ¬ Legible users :=
      fun users hgets hl => hg ⟨users, hgets, hl⟩
    have hhears := sync_of_useless hidle hb.legible hc hnone
    exact ⟨[], hhears.called, List.forall_mem_nil _,
      fun users hgets hl => absurd hl (hnone users hgets), fun _ => rfl⟩

theorem runsOn_of_mild (hb : n.Backed) (hidle : n.roster.busy = false)
    (hk : n.roster.handle = some k) (hc : n.roster.config = some config) (hmild : n.Mild) :
    n.RunsOn := by
  obtain ⟨hrefresh, now, hnow, -, hroster⟩ := refresh_of_mild hc hmild
  have hconfig : n.refresh.2.roster.config = some now := by rw [hroster]
  have hhandle : n.refresh.2.roster.handle = some k := by rw [hroster, ← hk]
  obtain ⟨calls, hcalls, hconcerns, -⟩ := concerns_sync hb hidle hconfig hhandle
  refine ⟨?_, hrefresh.eq, ?_⟩
  · intro e he
    rw [(hrefresh.trans hcalls).eq] at he
    have huser := hconcerns e he
    constructor
    · intro h hstop
      rw [hstop] at huser
      cases huser
    · intro config users hstart
      rw [hstart] at huser
      cases huser
  · intro new hnew
    obtain hnow | ⟨-, hnone⟩ := hnow
    · obtain rfl : now = new := Except.ok.inj (hnow.symm.trans hnew)
      exact ⟨hroster, (config_sync hidle).trans hconfig⟩
    · exact absurd hnew (hnone new)

/-- What a cycle with a restart does once the engine has started. -/
theorem restarts_accepted (hb : n.Backed) (hidle : n.roster.busy = false) {stopped}
    (hfirst : n.Makes [(.stop k, stopped), (.start new (n.rekeyed new), none)] n.refresh.2)
    (hconfig : n.refresh.2.roster.config = some new) {k' : Engine.Handle}
    (hk' : n.refresh.2.roster.handle = some k')
    (hvalues : n.refresh.2.roster.applied.values = n.rekeyed new) :
    ∃ rest, n.Restarts k new stopped none rest := by
  -- The users are fetched after the restart, so the change begins with those it left.
  obtain ⟨rest, hrest, hconcerns, hd, hnone⟩ := concerns_sync hb hidle hconfig hk'
  refine ⟨rest, hfirst.eq, (hfirst.trans hrest).eq, ?_,
    ⟨hconfig, (config_sync hidle).trans hconfig⟩, hnone, fun _ => ⟨hvalues, k', hk', hd⟩, nofun⟩
  intro e he h hstop
  have huser := hconcerns e he
  rw [hstop] at huser
  cases huser

/-- What a cycle with a restart does if the engine did not start. -/
theorem restarts_refused (hb : n.Backed) (hidle : n.roster.busy = false) {stopped started}
    (hsome : started.isSome = true)
    (hfirst : n.Makes [(.stop k, stopped), (.start new (n.rekeyed new), started)] n.refresh.2)
    (hconfig : n.refresh.2.roster.config = some new)
    (hnone : n.refresh.2.roster.handle = none) (hempty : n.refresh.2.roster.applied = .empty) :
    ∃ rest, n.Restarts k new stopped started rest := by
  have hknown := (config_sync hidle).trans hconfig
  have hadrift : n.refresh.2.Adrift new :=
    ⟨hnone, hempty, ⟨new, hconfig, new.requiresRestart_self⟩,
      (syncs_refresh n).busy.trans hidle⟩
  have hfailed {P : Prop} (haccepted : started = none) : P := by
    rw [haccepted] at hsome
    cases hsome
  -- If this cycle gets users it starts the engine itself; otherwise a later one has to.
  by_cases hg : ∃ users, n.Gets users ∧ Legible users
  · obtain ⟨users, hg, hl⟩ := hg
    obtain ⟨o, ho⟩ := starts_sync hidle hb.legible hg hl hconfig hnone
    refine ⟨_, hfirst.eq, (hfirst.trans ho).eq, ?_, ⟨hconfig, hknown⟩,
      fun huseless => absurd hl (huseless users hg), hfailed, fun _ => ⟨hadrift, ?_, ?_⟩⟩
    · intro e he h hstop
      rw [List.mem_singleton.mp he] at hstop
      cases hstop
    · intro users' hg' _
      rw [hg'.unique hg]
      exact ⟨o, rfl⟩
    · exact fun huseless => absurd hl (huseless users hg)
  · have huseless : ∀ users, n.Gets users → ¬ Legible users :=
      fun users hgets hl => hg ⟨users, hgets, hl⟩
    have hhears := sync_of_useless hidle hb.legible hconfig huseless
    refine ⟨[], hfirst.eq, (hfirst.hears hhears).eq, List.forall_mem_nil _, ⟨hconfig, hknown⟩,
      fun _ => rfl, hfailed,
      fun _ => ⟨hadrift, fun users hgets hl => absurd hl (huseless users hgets), ?_⟩⟩
    intro _ actions a m users hfruitless ho hmild hgets hl
    obtain ⟨now, o, hnow, hsettled, hmakes⟩ :=
      (hadrift.hears hhears).awaits hfruitless ho hmild hgets hl
    exact ⟨now, o, hnow, hsettled, hmakes.eq⟩

/-- Whatever happened to a node that holds a handle, and whatever the engine refuses: a sync cycle
stops the engine just if it gets a configuration that differs in what matters to the engine, and
restarts it then; otherwise it goes on with the engine that runs. -/
theorem sync_restarts {n₀ : Node} (h : n₀.IsNew) (steps : List Step) (hn : n = n₀.after steps)
    (hk : n.roster.handle = some k) (hc : n.roster.config = some config) :
    ((∃ e ∈ n.made n.sync.2, ∃ h, e.1 = .stop h)
      ↔ ∃ new, n.configFetch.1 = .ok new ∧ new.Differs config)
    ∧ ((∀ new, n.configFetch.1 = .ok new → ¬ new.Differs config) → n.RunsOn)
    ∧ ∀ new, n.configFetch.1 = .ok new → new.Differs config →
      ∃ stopped started rest, n.Restarts k new stopped started rest := by
  have hb : n.Backed := hn ▸ backed_after h steps
  have hidle : n.roster.busy = false := hn ▸ idle_after h steps
  have hruns (hsame : ∀ new, n.configFetch.1 = .ok new → ¬ new.Differs config) : n.RunsOn := by
    refine runsOn_of_mild hb hidle hk hc fun old new ho hnew => ?_
    obtain rfl : config = old := Option.some.inj (hc.symm.trans ho)
    exact Bool.eq_false_iff.mpr fun hr => hsame new hnew (NodeConfig.differs_iff.mpr hr)
  have hrestarts (new : NodeConfig) (hnew : n.configFetch.1 = .ok new) (hd : new.Differs config) :
      ∃ stopped started rest, n.Restarts k new stopped started rest := by
    have hl := (listens_configFetch n).keeps
    have hbm := hb.keeps hl
    have hkm : n.configFetch.2.roster.handle = some k :=
      (congrArg Roster.handle hl.roster).trans hk
    obtain ⟨stopped, started, hmakes, hconfig, hended⟩ := makes_restart hbm hkm new
    have husers : n.configFetch.2.rekeyed new = n.rekeyed new := by
      rw [rekeyed, hl.roster, ← rekeyed]
    have hfirst := (makes_of_called hl.called).trans hmakes
    rw [husers] at hfirst hended
    rw [← refresh_of_differs hc hnew hd] at hfirst hconfig hended
    refine ⟨stopped, started, ?_⟩
    rcases hended with ⟨rfl, ⟨k', hk'⟩, hvalues⟩ | ⟨hsome, hnone, hempty⟩
    · exact restarts_accepted hb hidle hfirst hconfig hk' hvalues
    · exact restarts_refused hb hidle hsome hfirst hconfig hnone hempty
  refine ⟨⟨?_, ?_⟩, hruns, hrestarts⟩
  · rintro ⟨e, he, h, hstop⟩
    by_contra hnone
    have hsame : ∀ new, n.configFetch.1 = .ok new → ¬ new.Differs config :=
      fun new hnew hd => hnone ⟨new, hnew, hd⟩
    exact ((hruns hsame).calls e he).1 h hstop
  · rintro ⟨new, hnew, hd⟩
    obtain ⟨stopped, started, rest, hr⟩ := hrestarts new hnew hd
    refine ⟨(.stop k, stopped), ?_, k, rfl⟩
    rw [hr.calls]
    exact List.mem_cons_self

/-- The sample, whose panel lists two users, one of them with a longer secret, before the start.
After it the panel names a cipher with longer keys, lists nobody, and then the second user and
another.  The engine refuses to start again at first. -/
def sampleRekeying : Node :=
  { sample with
    panel := { sample.panel with
      config := sample.panel.config ++ [{ answer := .response { text := "\x7b\"server_port\":8388,"
        ++ "\"cipher\":\"2022-blake3-aes-256-gcm\",\"server_key\":\"k\"\x7d" } }]
      users := [{ answer := .response { text := "\x7b\"users\":["
          ++ "\x7b\"id\":1,\"uuid\":\"0123456789abcdef\"\x7d,"
          ++ "\x7b\"id\":2,\"uuid\":\"0123456789abcdef0123456789abcdef\"\x7d]\x7d" } },
        { answer := .response { text := "\x7b\"users\":[]\x7d" } },
        { answer := .response { text := "\x7b\"users\":["
          ++ "\x7b\"id\":2,\"uuid\":\"0123456789abcdef0123456789abcdef\"\x7d,"
          ++ "\x7b\"id\":3,\"uuid\":\"fedcba9876543210fedcba9876543210\"\x7d]\x7d" } }] }
    refuses := fun k _ => k == 2 }

theorem isNew_sampleRekeying : sampleRekeying.IsNew :=
  ⟨rfl, rfl, ⟨16, by decide, rfl⟩, rfl, rfl, rfl, rfl⟩

/-- Of the two users the first has too short a secret for the new cipher.  The start is refused,
and the next cycle starts the engine with all users of the last list. -/
theorem sync_restarts_sample :
    ∃ new stopped rest, new.cipher = .aes256Gcm
      ∧ ((sampleRekeying.after [.start]).rekeyed new).map User.id = [2]
      ∧ (sampleRekeying.after [.start]).Restarts 0 new stopped (some (.startRefused 8388)) rest
      ∧ ∃ now o, (sampleRekeying.after [.start]).sync.2.made
          ((sampleRekeying.after [.start]).sync.2.acts [.sync])
        = [(.start now (wanted 32 [⟨2, "0123456789abcdef0123456789abcdef", []⟩,
            ⟨3, "fedcba9876543210fedcba9876543210", []⟩]).values, o)] := by
  obtain ⟨hk, hfetch, hmade, hids, hempty, hgoes, hyields, hmild⟩ :
      (sampleRekeying.after [.start]).roster.handle = some 0
      ∧ ((sampleRekeying.after [.start]).roster.config.any fun old =>
        (sampleRekeying.after [.start]).configFetch.1.toOption.any fun new =>
          new.cipher = .aes256Gcm && new.cipher != old.cipher) = true
      ∧ ((sampleRekeying.after [.start]).made (sampleRekeying.after [.start]).sync.2).map Prod.snd
        = [none, some (.startRefused 8388)]
      ∧ ((sampleRekeying.after [.start]).roster.applied.values.filter (User.keyable 32)).map
        User.id = [2]
      ∧ (sampleRekeying.after [.start]).refresh.2.userFetch.1 = .ok []
      ∧ goesOn (sampleRekeying.after [.start]).sync.2.configFetch.1 = true
      ∧ (sampleRekeying.after [.start]).sync.2.refresh.2.userFetch.1
        = .ok [⟨2, "0123456789abcdef0123456789abcdef", []⟩,
            ⟨3, "fedcba9876543210fedcba9876543210", []⟩]
      ∧ ((sampleRekeying.after [.start]).sync.2.roster.config.all fun old =>
        (sampleRekeying.after [.start]).sync.2.configFetch.1.toOption.all fun new =>
          !new.requiresRestart old) = true := by
    decide +kernel
  obtain ⟨config, hc, hfetch⟩ := Option.any_eq_true _ _ |>.mp hfetch
  obtain ⟨new, hnew, hdiffers⟩ := Option.any_eq_true _ _ |>.mp hfetch
  obtain ⟨hcipher, hne⟩ := Bool.and_eq_true_iff.mp hdiffers
  have hcipher : new.cipher = .aes256Gcm := of_decide_eq_true hcipher
  have hd : new.Differs config := .inr (.inl (by simpa using hne))
  have hok : (sampleRekeying.after [.start]).configFetch.1 = .ok new := by
    cases hf : (sampleRekeying.after [.start]).configFetch.1 with
    | ok got =>
        rw [hf] at hnew
        exact congrArg Except.ok (Option.some.inj hnew)
    | error fault =>
        rw [hf] at hnew
        cases hnew
  obtain ⟨-, -, hrestarts⟩ := sync_restarts isNew_sampleRekeying [.start] rfl hk hc
  obtain ⟨stopped, started, rest, hr⟩ := hrestarts new hok hd
  obtain ⟨-, rfl, -⟩ : stopped = none ∧ started = some (.startRefused 8388) ∧ rest = [] := by
    simpa [hr.calls] using hmade
  have hbarren : ∀ users, ¬ (sampleRekeying.after [.start]).Gets users := by
    rintro users ⟨-, hlisted | ⟨⟨what, hw⟩, -⟩, hne⟩
    · exact hne (Except.ok.inj (hempty.symm.trans hlisted)).symm
    · cases hempty.symm.trans hw
  obtain ⟨-, -, hawaits⟩ := hr.refused rfl
  have hgets : (sampleRekeying.after [.start]).sync.2.Gets
      [⟨2, "0123456789abcdef0123456789abcdef", []⟩,
        ⟨3, "fedcba9876543210fedcba9876543210", []⟩] :=
    ⟨hgoes, .inl hyields, List.cons_ne_nil _ _⟩
  obtain ⟨now, o, -, -, ho⟩ := hawaits (fun users hg => absurd hg (hbarren users)) [] .sync
    (sampleRekeying.after [.start]).sync.2 _ trivial rfl (mild_of_all hmild) hgets (by decide)
  have hlength : new.cipher.keyLength = 32 := by rw [hcipher]; rfl
  have hrekeyed : ((sampleRekeying.after [.start]).rekeyed new).map User.id = [2] := by
    rw [rekeyed, hlength, List.map_map]
    exact hids
  rw [hlength] at ho
  exact ⟨new, stopped, rest, hcipher, hrekeyed, hr, now, o, ho⟩

/-- The sample with half of a surrogate pair in a listed secret, whose panel names another port after
the start as well.  The engine refuses to start again. -/
def sampleStranded : Node :=
  { sampleUnreadable with
    panel := { sampleUnreadable.panel with
      config := sample.panel.config ++ [{ answer := .response { text := "\x7b\"server_port\":8389,"
        ++ "\"cipher\":\"2022-blake3-aes-128-gcm\",\"server_key\":\"k\"\x7d" } }] }
    refuses := fun k _ => k == 2 }

/-- The cycle gets a list with a user that can have a key, and yet the engine is not started with it
after the start that is refused. -/
theorem sync_strands :
    sampleStranded.IsNew
    ∧ (sampleStranded.after [.start]).roster.handle = some 0
    ∧ (sampleStranded.after [.start]).Gets [⟨3, "fedcba9876543210", []⟩, sampleTorn]
    ∧ keyFor Cipher.aes128Gcm.keyLength [⟨3, "fedcba9876543210", []⟩, sampleTorn] 3 ≠ none
    ∧ ((sampleStranded.after [.start]).made (sampleStranded.after [.start]).sync.2).map Prod.snd
      = [none, some (.startRefused 8389)]
    ∧ (sampleStranded.after [.start]).sync.2.roster.handle = none := by
  obtain ⟨hk, hgoes, hyields, hmade, hnone⟩ :
      (sampleStranded.after [.start]).roster.handle = some 0
      ∧ goesOn (sampleStranded.after [.start]).configFetch.1 = true
      ∧ (sampleStranded.after [.start]).refresh.2.userFetch.1
        = .ok [⟨3, "fedcba9876543210", []⟩, sampleTorn]
      ∧ ((sampleStranded.after [.start]).made (sampleStranded.after [.start]).sync.2).map Prod.snd
        = [none, some (.startRefused 8389)]
      ∧ (sampleStranded.after [.start]).sync.2.roster.handle = none := by
    decide +kernel
  exact ⟨⟨rfl, rfl, ⟨16, by decide, rfl⟩, rfl, rfl, rfl, rfl⟩, hk,
    ⟨hgoes, .inl hyields, List.cons_ne_nil _ _⟩, by decide +kernel, hmade, hnone⟩

end Node

end ProxyNode
