import ProxyNode.Proofs.Node.Stages
import ProxyNode.Proofs.Panel.Verdicts
import ProxyNode.Proofs.Roster.Standing
import ProxyNode.Proofs.Traffic.Spool

/-!
# Node — Outset, a start that is all or nothing

A start that succeeds has called the engine once, with the configuration that was fetched and one
user for each number in the list.  One that does not leaves no engine that runs, and a node that
knows of no configuration and no users.

* `Obtained`: what the last answers have, as the client reads them.
* `Blames`: what the fault of a start is due to.
* `Course`, `start_course`: the courses that a start can take.
* `RunsWith`, `Unstarted`: the nodes that a start leaves.
* `outset_of_launch`: what comes of a launch; `start_whole`: what comes of a start.
* `start_cut_short`: a start that fails for a pause that the clock refuses, and one that fails for a
  secret without bytes.
-/

namespace ProxyNode.Node

open Panel

variable {n m k p : Node} {e : Endpoint}

/-! ### What was fetched -/

/-- The last answers that `m` got have this configuration and these users, as a client such as `n`'s
reads them. -/
structure Obtained (n m : Node) (config : NodeConfig) (users : List User) : Prop where
  config : ∃ a, m.lastAnswer .config = some a ∧ (n.client.acceptConfig a).1 = .ok config
  users : ∃ a, m.lastAnswer .users = some a ∧ (n.client.acceptUsers a).1.users = .ok users

/-- What is done without asking makes no difference to it. -/
theorem Unasked.obtained_iff {config : NodeConfig} {users : List User} (hu : Unasked m k) :
    Obtained n k config users ↔ Obtained n m config users := by
  have heq (e : Endpoint) : k.lastAnswer e = m.lastAnswer e := hu.lastAnswer e
  constructor
  · rintro ⟨hc, hus⟩
    exact ⟨heq .config ▸ hc, heq .users ▸ hus⟩
  · rintro ⟨hc, hus⟩
    exact ⟨(heq .config).symm ▸ hc, (heq .users).symm ▸ hus⟩

theorem Obtained.unique {config config' : NodeConfig} {users users' : List User}
    (h : Obtained n m config users) (h' : Obtained n m config' users') :
    config' = config ∧ users' = users := by
  obtain ⟨⟨a, ha, hc⟩, ⟨b, hb, hu⟩⟩ := h
  obtain ⟨⟨a', ha', hc'⟩, ⟨b', hb', hu'⟩⟩ := h'
  obtain rfl := Option.some.inj (ha.symm.trans ha')
  obtain rfl := Option.some.inj (hb.symm.trans hb')
  exact ⟨Except.ok.inj (hc'.symm.trans hc), Except.ok.inj (hu'.symm.trans hu)⟩

/-! ### What a start can fail for -/

/-- What the fault of a start is due to: a spool that cannot be read or holds sums that cannot be
written out, what thwarts a stage, the first secret that has no key, or the engine. -/
inductive Blames (n m : Node) : Fault → Prop
  | spool {spool : Spool} {fault : Fault} (hspool : n.ledger.spool = some spool)
      (hread : spool.peek = .error fault) : Blames n m fault
  | sums {spool : Spool} {pending : Snapshot} (hspool : n.ledger.spool = some spool)
      (hread : spool.peek = .ok pending) (hlong : pending.isWritable = false) :
      Blames n m (.unexpected .unwritable)
  | stage {e : Endpoint} {fault : Fault} (hthwarts : Thwarts n m e fault) : Blames n m fault
  | secret {config : NodeConfig} {users : List User} {u : User}
      (hfetched : Obtained n m config users)
      (hu : users.find? (fun u => !u.keyable config.cipher.keyLength) = some u) :
      Blames n m (u.keyFault config.cipher.keyLength)
  | engine {config : NodeConfig} {users : List User} {cause : EngineCause}
      (hfetched : Obtained n m config users)
      (hcalled : m.called
        = [(.start config (wanted config.cipher.keyLength users).values, some cause)]) :
      Blames n m (.engine cause)

/-- Reading the spool fails for a fault that the panel and the engine have no part in. -/
theorem resume_error {fault : Fault}
    (h : { n with phase := .starting }.resume.1 = .error fault) :
    fault.isExpected = false ∧ Blames n m fault := by
  unfold resume at h
  dsimp only at h
  cases hs : n.ledger.spool with
  | none => rw [hs] at h; cases h
  | some spool =>
      rw [hs] at h
      dsimp only at h
      cases hp : spool.peek with
      | error cause =>
          rw [hp] at h
          cases h
          obtain ⟨cause, rfl⟩ := Spool.exists_cause_of_peek hp
          exact ⟨rfl, .spool hs hp⟩
      | ok pending =>
          rw [hp] at h
          dsimp only at h
          split at h
          · cases h
          · unfold noteSums at h
            split at h
            · cases h
            · next hw =>
              cases h
              exact ⟨rfl, .sums hs hp (Bool.eq_false_iff.mpr hw)⟩

/-! ### The courses of a start -/

/-- The courses that a start can take: it does not get past the spool, or it is told to stop before
it has both answers, or a stage is thwarted, or it has what the engine needs. -/
inductive Course (n : Node) : Prop where
  | spool {m : Node} {fault : Fault} (hidle : Idles n m) (hfault : fault.isExpected = false)
      (hblames : Blames n m fault) (hunread : ∀ config users, ¬ Obtained n m config users)
      (hstart : n.start = (.error fault, m)) : Course n
  | stopped {m : Node} (hidle : Idles n m)
      (hunread : ∀ config users, ¬ Obtained n m config users)
      (hraised : n.stop.counted = true → m.stop.raised = true)
      (hstart : n.start = (.ok false, m)) : Course n
  | thwarted {m : Node} {e : Endpoint} {fault : Fault} (hidle : Idles n m)
      (hthwarts : Thwarts n m e fault) (hunread : ∀ config users, ¬ Obtained n m config users)
      (hstart : n.start = m.startFault fault) : Course n
  | fetched {m : Node} {config : NodeConfig} {users : List User} (hidle : Idles n m)
      (hfetched : Obtained n m config users) (hstart : n.start = m.launch config users) : Course n

theorem not_fetched_of_config
    (h : ∀ a, m.lastAnswer .config = some a →
      ∃ fault, n.client.outcome .config a = .error fault)
    (config : NodeConfig) (users : List User) : ¬ Obtained n m config users := by
  rintro ⟨⟨a, ha, hr⟩, -⟩
  obtain ⟨fault, hf⟩ := h a ha
  rw [Client.outcome, hr] at hf
  cases hf

theorem not_fetched_of_users
    (h : ∀ a, m.lastAnswer .users = some a → ∃ fault, n.client.outcome .users a = .error fault)
    (config : NodeConfig) (users : List User) : ¬ Obtained n m config users := by
  rintro ⟨-, ⟨a, ha, hr⟩⟩
  obtain ⟨fault, hf⟩ := h a ha
  rw [Client.outcome, hr] at hf
  cases hf

/-- The second half of a start, which has the configuration. -/
theorem course_of_config {config : NodeConfig} {a : Answer}
    (hresume : { n with phase := .starting }.resume = (.ok (), p))
    (hconfig : p.ready .config fetchConfig = (.ok (some config), m))
    (hlast : m.lastAnswer .config = some a) (ha : (n.client.acceptConfig a).1 = .ok config)
    (hc : m.client.untagged = n.client.untagged) (hfixed : Fixed n m)
    (hnone : m.lastAnswer .users = none) (hidle : Idles n m)
    (hcounted : m.stop.counted = n.stop.counted) : n.Course := by
  rcases husers : m.ready .users fetchUsers with ⟨fault | _ | users, k⟩
  all_goals
    obtain ⟨hasks, -, hends⟩ := fetches_users.stage
      (fun h => (passes_waits _).pulls.fetchUsers h)
      (fun c a => congrArg Client.Listing.users (Client.acceptUsers_untagged c a))
      outcome_users hc hfixed hnone husers
    have hlistens := hidle.trans (listens_untilReady listens_fetchUsers Endpoint.users.errand
      (m.stop.patience + 1) m).keeps.idles
    rw [← ready, husers] at hlistens
  · exact .thwarted hlistens hends (not_fetched_of_users fun _ => hends.unread)
      (by simp only [start, hresume, hconfig, husers])
  · exact .stopped hlistens (not_fetched_of_users hends.1)
      (fun h => hends.2 (hcounted.trans h)) (by simp only [start, hresume, hconfig, husers])
  · refine .fetched hlistens ⟨⟨a, ?_, ha⟩, hends⟩ (by simp only [start, hresume, hconfig, husers])
    exact (hasks.lastAnswer (by decide)).trans hlast

/-- A start with no request behind it takes one of these courses. -/
theorem start_course (hn : n.requests = []) : n.Course := by
  have hphase : Unasked n { n with phase := .starting } := ⟨rfl, rfl⟩
  have hu := hphase.trans (unasked_resume { n with phase := .starting })
  have hstop : { n with phase := .starting }.resume.2.stop = n.stop := stop_of_resume _
  have hquiet : Idles n { n with phase := .starting } := ⟨⟨rfl, rfl, rfl⟩, rfl⟩
  have hidle := hquiet.trans (keepsRoster_resume { n with phase := .starting }).idles
  have hfixed := (passes_fixed n).sends.resume (⟨rfl, rfl⟩ : Fixed n { n with phase := .starting })
  rcases hresume : { n with phase := .starting }.resume with ⟨fault | u, p⟩
  all_goals rw [hresume] at hu hstop hidle hfixed
  all_goals
    have hempty (e : Endpoint) : p.lastAnswer e = none := by
      rw [hu.lastAnswer, lastAnswer, hn]
      rfl
  · obtain ⟨hfault, hblames⟩ := resume_error (m := p) (congrArg Prod.fst hresume)
    refine .spool hidle hfault hblames (not_fetched_of_config fun a ha => ?_)
      (by simp only [start, hresume])
    cases (hempty .config).symm.trans ha
  rcases hconfig : p.ready .config fetchConfig with ⟨fault | _ | config, m⟩
  all_goals
    obtain ⟨hasks, hc, hends⟩ := fetches_config.stage
      (fun h => (passes_waits _).pulls.fetchConfig h) Client.acceptConfig_untagged outcome_config
      (congrArg Client.untagged hu.client) hfixed (hempty .config) hconfig
    have hlistens := hidle.trans (listens_untilReady listens_fetchConfig Endpoint.config.errand
      (p.stop.patience + 1) p).keeps.idles
    rw [← ready, hconfig] at hlistens
  · exact .thwarted hlistens hends (not_fetched_of_config fun _ => hends.unread)
      (by simp only [start, hresume, hconfig])
  · exact .stopped hlistens (not_fetched_of_config hends.1)
      (fun h => hends.2 ((congrArg StopSignal.counted hstop).trans h))
      (by simp only [start, hresume, hconfig])
  · obtain ⟨a, hlast, ha⟩ := hends
    have hwaits := (passes_waits p).untilReady (fun h => (passes_waits p).pulls.fetchConfig h)
      Endpoint.config.errand (p.stop.patience + 1) (.of_eq rfl)
    have hsame := (passes_fixed p).untilReady (fun h => (passes_fixed p).pulls.fetchConfig h)
      Endpoint.config.errand (p.stop.patience + 1) (.refl p)
    rw [← ready, hconfig] at hwaits hsame
    exact course_of_config hresume hconfig hlast ha hc (hfixed.trans hsame)
      ((hasks.lastAnswer (by decide)).trans (hempty .users)) hlistens
      (hwaits.counted.trans (congrArg StopSignal.counted hstop))

/-- What is made of an answer is no fault of the engine or of a secret. -/
theorem verdict_of_outcome {c : Client} {a : Answer} {fault : Fault}
    (h : c.outcome e a = .error fault) :
    fault.isVerdict = true ∨ ∃ cause, fault = .unexpected cause := by
  have hall {β : Type} {sound : β → Prop} {b : Bool} {r : Except Fault β}
      (hr : Classified sound b r) (hf : r.map (fun _ => ()) = .error fault) :
      fault.isVerdict = true ∨ ∃ cause, fault = .unexpected cause := by
    cases hr with
    | used _ => cases hf
    | verdict hv => cases hf; exact .inl hv
    | escaped cause => cases hf; exact .inr ⟨cause, rfl⟩
  cases e with
  | config => exact hall (c.acceptConfig_classified a) h
  | users => exact hall (c.acceptUsers_classified a) h
  | push =>
      refine hall (c.acceptPush_classified a) ?_
      rw [show c.acceptPush a = .error fault from h]
      rfl

/-- A fault of the panel or of a configuration is fatal to a start. -/
theorem failed_startFault {fault : Fault}
    (h : fault.isRejected = true ∨ fault.isConfig = true) :
    (n.startFault fault : Except Fault α × Node).2.phase = .failed
      ∧ (n.startFault fault : Except Fault α × Node).2.fatal = some fault := by
  have hf : (fault.isRejected || fault.isConfig) = true := Bool.or_eq_true_iff.mpr h
  have hs : (n.startFault fault : Except Fault α × Node).2 = n.fail fault := if_pos hf
  rw [hs]
  exact ⟨phase_of_fail n fault, fatal_of_fail n fault⟩

/-! ### What comes of a start -/

/-- The node runs with what `m` fetched: the engine was called once, and accepted the start. -/
structure RunsWith (n m : Node) (config : NodeConfig) (users : List User) : Prop where
  fetched : Obtained n m config users
  enough : ∀ u ∈ users, u.keyable config.cipher.keyLength = true
  called : m.called = [(.start config (wanted config.cipher.keyLength users).values, none)]
  /-- The engine got one user of each number. -/
  once : ((wanted config.cipher.keyLength users).values.map User.id).Nodup
  /-- It is that of the last entry, with the key of its secret. -/
  last : ∀ v, v ∈ (wanted config.cipher.keyLength users).values
    ↔ ∃ u, lastOf users u.id = some u ∧ v = u.withOwnKey config.cipher.keyLength
  configured : m.roster.config = some config
  applied : m.roster.applied = wanted config.cipher.keyLength users
  listed : m.roster.fetched = some users
  /-- The handle is that of an instance that runs with the configuration. -/
  handle : ∃ h, m.roster.handle = some h ∧ m.engine.check h = .ok ⟨config, true⟩
  inStep : m.roster.InStep m.engine
  phase : m.phase = .running

/-- From `n` to `m` no engine was started, and the node knows of no configuration and no users. -/
structure Unstarted (n m : Node) : Prop where
  config : m.roster.config = none
  applied : m.roster.applied = .empty
  fetched : m.roster.fetched = none
  handle : m.roster.handle = none
  instances : m.engine.instances = n.engine.instances
  users : m.engine.users = n.engine.users
  refused : ∀ c, (c, none) ∉ m.called

/-- What comes of the start of `n`, which ends with `r` and leaves `m`. -/
structure Outset (n : Node) (r : Except Fault Bool) (m : Node) : Prop where
  /-- A node that says that it runs does so with all that it fetched. -/
  runs : r = .ok true → ∃ config users, RunsWith n m config users
  /-- Otherwise nothing is left of the start. -/
  unstarted : r ≠ .ok true → Unstarted n m
  /-- If any secret that was fetched is too short, the engine is not called, and the first that is
  says so, unless one without bytes comes before it. -/
  short : ∀ config users, Obtained n m config users →
    (∃ u ∈ users, u.keyable config.cipher.keyLength = false) →
    m.called = [] ∧ ∃ u, users.find? (fun u => !u.keyable config.cipher.keyLength) = some u
      ∧ (u.secret.isWhole = true →
        r = .error (.shortSecret u.secret.bytes.length config.cipher.keyLength))
  /-- What the panel refuses, what is wrong with a configuration or a secret, and what the engine
  refuses is fatal. -/
  fatal : ∀ fault, r = .error fault →
    (fault.isRejected = true ∨ fault.isConfig = true ∨ ∃ cause, fault = .engine cause) →
    m.phase = .failed ∧ m.fatal = some fault
  /-- A start fails only for something that another try does not mend.  Faults that another try may
  mend are to blame only together with a pause that the clock refuses. -/
  lasting : ∀ fault, r = .error fault → fault.isTransient = false ∧ Blames n m fault
  /-- It gives up only when the node is told to stop. -/
  told : r = .ok false → n.stop.counted = true → m.stop.raised = true

theorem IsNew.called_of_idles (hn : n.IsNew) (h : Idles n m) : m.called = [] := by
  rw [h.called, called, hn.journal]
  rfl

theorem unstarted_of_eq (hn : n.IsNew) (hroster : m.roster = n.roster)
    (hinstances : m.engine.instances = n.engine.instances)
    (husers : m.engine.users = n.engine.users) (hrefused : ∀ c, (c, none) ∉ m.called) :
    Unstarted n m := by
  have hr := hroster.trans hn.roster
  exact ⟨by rw [hr], by rw [hr], by rw [hr], by rw [hr], hinstances, husers, hrefused⟩

theorem unstarted_of_idles (hn : n.IsNew) (h : Idles n m) : Unstarted n m :=
  unstarted_of_eq hn h.same.roster (congrArg Engine.instances h.same.engine)
    (congrArg Engine.users h.same.engine) fun c => by
      rw [hn.called_of_idles h]
      exact List.not_mem_nil

/-- Where nothing was fetched a start that does not run comes to this. -/
theorem outset_of_idles {r : Except Fault Bool} (hn : n.IsNew) (h : Idles n m)
    (hr : r ≠ .ok true) (hunread : ∀ config users, ¬ Obtained n m config users)
    (hfatal : ∀ fault, r = .error fault →
      (fault.isRejected = true ∨ fault.isConfig = true ∨ ∃ cause, fault = .engine cause) →
      m.phase = .failed ∧ m.fatal = some fault)
    (hlasting : ∀ fault, r = .error fault → fault.isTransient = false ∧ Blames n m fault)
    (htold : r = .ok false → n.stop.counted = true → m.stop.raised = true) : Outset n r m :=
  ⟨fun h => absurd h hr, fun _ => unstarted_of_idles hn h,
    fun config users hf => absurd hf (hunread config users), hfatal, hlasting, htold⟩

/-- Whoever listens to it, the engine and the calls to it are the same. -/
theorem attach_same (n : Node) : n.attach.roster = n.roster
    ∧ n.attach.engine.instances = n.engine.instances ∧ n.attach.engine.users = n.engine.users
    ∧ n.attach.called = n.called := by
  unfold attach
  split <;> exact ⟨rfl, rfl, rfl, rfl⟩

section Launch

variable {config : NodeConfig} {users : List User}

theorem keyable_of_find? {length : Nat}
    (h : (users.find? fun u => !u.keyable length) = none) : ∀ u ∈ users, u.keyable length = true :=
  fun u hu => by simpa using List.find?_eq_none.mp h u hu

/-- Some secret has no key; the fault is fatal if that is because it is too short. -/
theorem outset_of_keyless {u : User} {fault : Fault} (hn : n.IsNew) (hidle : Idles n m)
    (hf : Obtained n m config users)
    (hu : (users.find? fun u => !u.keyable config.cipher.keyLength) = some u)
    (hfault : fault = u.keyFault config.cipher.keyLength)
    (hfailed : fault.isConfig = true → m.phase = .failed ∧ m.fatal = some fault) :
    Outset n (.error fault) m := by
  have hkind : fault.isTransient = false ∧ fault.isRejected = false
      ∧ ∀ cause, fault ≠ .engine cause := by
    rw [hfault, User.keyFault]
    cases u.secret.encode with
    | error why => exact ⟨rfl, rfl, fun cause h => by cases h⟩
    | ok bytes => exact ⟨rfl, rfl, fun cause h => by cases h⟩
  refine ⟨fun hr => ?_, fun _ => unstarted_of_idles hn hidle, fun config' users' hf' _ => ?_,
    fun fault' hr hfatal => ?_, fun fault' hr => ?_, fun hr => ?_⟩
  · cases hr
  · obtain ⟨rfl, rfl⟩ := hf.unique hf'
    refine ⟨hn.called_of_idles hidle, u, hu, fun hwhole => ?_⟩
    rw [hfault, User.keyFault_of_isWhole hwhole]
  · cases hr
    rcases hfatal with hrejected | hconfig | ⟨cause, hengine⟩
    · cases hkind.2.1.symm.trans hrejected
    · exact hfailed hconfig
    · exact absurd hengine (hkind.2.2 cause)
  · cases hr
    exact ⟨hkind.1, hfault ▸ .secret hf hu⟩
  · cases hr

theorem outset_of_refusal {cause : EngineCause} (hu : Unstarted n m)
    (hf : Obtained n m config users)
    (hall : ∀ u ∈ users, u.keyable config.cipher.keyLength = true)
    (hcalled : m.called
      = [(.start config (wanted config.cipher.keyLength users).values, some cause)])
    (hfailed : m.phase = .failed ∧ m.fatal = some (.engine cause)) :
    Outset n (.error (.engine cause)) m := by
  refine ⟨nofun, fun _ => hu, fun config' users' hf' hshort => ?_, fun fault hr _ => ?_,
    fun fault hr => ?_, nofun⟩
  · obtain ⟨rfl, rfl⟩ := hf.unique hf'
    obtain ⟨u, hu, hk⟩ := hshort
    cases (hall u hu).symm.trans hk
  · cases hr
    exact hfailed
  · cases hr
    exact ⟨rfl, .engine hf hcalled⟩

theorem outset_of_runs (h : RunsWith n m config users) : Outset n (.ok true) m := by
  refine ⟨fun _ => ⟨config, users, h⟩, fun hr => absurd rfl hr,
    fun config' users' hf' hshort => ?_, nofun, nofun, nofun⟩
  obtain ⟨rfl, rfl⟩ := h.fetched.unique hf'
  obtain ⟨u, hu, hk⟩ := hshort
  cases (h.enough u hu).symm.trans hk

/-- The launch is refused by the engine. -/
theorem outset_of_declined {cause : EngineCause} (hn : n.IsNew) (hidle : Idles n k)
    (hall : ∀ u ∈ users, u.keyable config.cipher.keyLength = true)
    (hm : m = (k.attach.refused (.start config (wanted config.cipher.keyLength users).values)
      cause).fail (.engine cause))
    (hf : Obtained n m config users) : Outset n (.error (.engine cause)) m := by
  obtain ⟨hroster, hinstances, husers, hcalled⟩ := attach_same k
  have hi := hm ▸ idles_fail (k.attach.refused
    (.start config (wanted config.cipher.keyLength users).values) cause) (.engine cause)
  have honce : m.called
      = [(.start config (wanted config.cipher.keyLength users).values, some cause)] := by
    refine hi.called.trans (congrArg (List.cons _) ?_)
    exact hcalled.trans (hn.called_of_idles hidle)
  refine outset_of_refusal (unstarted_of_eq hn ?_ ?_ ?_ fun c hmem => ?_) hf hall honce
    (hm ▸ ⟨phase_of_fail _ _, fatal_of_fail _ _⟩)
  · exact hi.same.roster.trans (hroster.trans hidle.same.roster)
  · exact (congrArg Engine.instances hi.same.engine).trans
      (hinstances.trans (congrArg Engine.instances hidle.same.engine))
  · exact (congrArg Engine.users hi.same.engine).trans
      (husers.trans (congrArg Engine.users hidle.same.engine))
  · rw [honce, List.mem_singleton] at hmem
    cases hmem

/-- The launch is done. -/
theorem outset_of_launched {e : Engine} {notice : Notice} (hn : n.IsNew) (hidle : Idles n k)
    (hall : ∀ u ∈ users, u.keyable config.cipher.keyLength = true)
    (he : k.attach.engine.perform
      (.start config (wanted config.cipher.keyLength users).values) = .ok e)
    (hm : m = ((k.attach.accepted (.start config (wanted config.cipher.keyLength users).values)
      e).launched config users (wanted config.cipher.keyLength users)).note notice)
    (hf : Obtained n m config users) : Outset n (.ok true) m := by
  subst hm
  have hkeyed := isKeyed_wanted config.cipher.keyLength users
  have hnone : k.attach.called = [] :=
    (attach_same k).2.2.2.trans (hn.called_of_idles hidle)
  exact outset_of_runs {
    fetched := hf
    enough := hall
    called := congrArg (List.cons _) hnone
    once := hkeyed.nodup_ids
    last := fun v => mem_values_wanted hall
    configured := rfl
    applied := rfl
    listed := rfl
    handle := ⟨_, Engine.check_of_start he⟩
    inStep := Roster.inStep_of_start he hkeyed rfl rfl rfl
    phase := rfl }

/-- A launch with what was fetched: some secret has no key, or the engine is called. -/
theorem outset_of_launch (hn : n.IsNew) (hidle : Idles n m) (hf : Obtained n m config users) :
    Outset n (m.launch config users).1 (m.launch config users).2 := by
  have hfetched := (launch_ends m config users).1.obtained_iff.mpr hf
  obtain ⟨k, hk, hlaunch⟩ := launch_cases m config users
  have hi := hidle.trans hk.keeps.idles
  rw [keyAll_eq config.cipher.keyLength_pos] at hlaunch
  cases hshort : users.find? fun u => !u.keyable config.cipher.keyLength with
  | some u =>
      rw [hshort] at hlaunch
      rcases hlaunch with ⟨fault, hkey, hl⟩ | ⟨keyed, hkey, -⟩
      · cases hkey
        rw [hl] at hfetched ⊢
        exact outset_of_keyless hn (hi.trans (idles_startFault k _)) hfetched hshort rfl
          fun hconfig => failed_startFault (.inr hconfig)
      · cases hkey
  | none =>
      have hall := keyable_of_find? hshort
      rw [hshort] at hlaunch
      rcases hlaunch with ⟨fault, hkey, -⟩ | ⟨keyed, hkey, ⟨cause, after, hcall, hl⟩ |
        ⟨after, notice, hcall, -, hl⟩⟩
      · cases hkey
      · cases hkey
        rw [hl] at hfetched ⊢
        rcases call_cases k.attach _ with ⟨e, -, hc⟩ | ⟨cause', -, hc⟩
        · cases hcall.symm.trans hc
        · cases hcall.symm.trans hc
          exact outset_of_declined hn hi hall rfl hfetched
      · cases hkey
        rw [hl] at hfetched ⊢
        rcases call_cases k.attach _ with ⟨e, he, hc⟩ | ⟨cause', -, hc⟩
        · cases hcall.symm.trans hc
          exact outset_of_launched hn hi hall he rfl hfetched
        · cases hcall.symm.trans hc

end Launch

/-- The spool cannot be read. -/
theorem outset_of_spool {fault : Fault} (hn : n.IsNew) (hidle : Idles n m)
    (hfault : fault.isExpected = false) (hblames : Blames n m fault)
    (hunread : ∀ config users, ¬ Obtained n m config users) : Outset n (.error fault) m := by
  refine outset_of_idles hn hidle nofun hunread (fun fault' hr hfatal => ?_)
    (fun fault' hr => ?_) nofun
  · -- Such a fault is of none of the three kinds.
    cases hr
    cases fault with
    | spool cause => simp [Fault.isRejected, Fault.isConfig] at hfatal
    | unexpected cause => simp [Fault.isRejected, Fault.isConfig] at hfatal
    | _ => cases hfault
  · cases hr
    refine ⟨?_, hblames⟩
    cases fault <;> first | rfl | cases hfault

/-- What thwarts a stage is no fault of the engine. -/
theorem Thwarts.ne_engine {fault : Fault} (h : Thwarts n m e fault) (cause : EngineCause) :
    fault ≠ .engine cause := by
  rintro rfl
  cases h with
  | answer _ hout _ =>
      rcases verdict_of_outcome hout with hv | ⟨cause', hv⟩
      · cases hv
      · cases hv

/-- A stage is thwarted. -/
theorem outset_of_thwarted {fault : Fault} (hn : n.IsNew) (hidle : Idles n m)
    (hthwarts : Thwarts n m e fault) (hunread : ∀ config users, ¬ Obtained n m config users) :
    Outset n (m.startFault fault : Except Fault Bool × Node).1
      (m.startFault fault : Except Fault Bool × Node).2 := by
  have hu : Unasked m (m.startFault fault : Except Fault Bool × Node).2 :=
    unasked_startFault m fault
  refine outset_of_idles hn (hidle.trans (idles_startFault m fault)) nofun
    (fun config users hf => hunread config users (hu.obtained_iff.mp hf))
    (fun fault' hr hfatal => ?_) (fun fault' hr => ?_) nofun
  · cases hr
    refine failed_startFault (hfatal.imp_right fun h => h.resolve_right ?_)
    rintro ⟨cause, hengine⟩
    exact hthwarts.ne_engine cause hengine
  · cases hr
    exact ⟨hthwarts.lasting, .stage (hthwarts.unasked hu)⟩

/-- The sample, whose panel lists its user with too short a secret first. -/
def sampleAmended : Node :=
  { sample with panel := { sample.panel with
      users := [{ answer := .response { text := "\x7b\"users\":["
        ++ "\x7b\"id\":1,\"uuid\":\"short\"\x7d,"
        ++ "\x7b\"id\":1,\"uuid\":\"0123456789abcdef\"\x7d]\x7d" } }] } }

theorem isNew_sampleAmended : sampleAmended.IsNew :=
  ⟨rfl, rfl, ⟨16, by decide, rfl⟩, rfl, rfl, rfl, rfl⟩

/-- The sample, whose panel cannot be reached at first.  There is one try for each answer, and the
clock refuses a pause as long as the one that follows. -/
def sampleRestless : Node :=
  { sample with
    plan := { retry := { attempts := 1, ceiling := 1e10 } }
    clock := ⟨fun _ => none, fun _ => some .timeRange⟩
    panel := { sample.panel with
      config := { answer := .failed "refused" } :: sample.panel.config } }

/-- The sample, whose panel lists a user with half of a surrogate pair in the secret before one with
too short a secret. -/
def sampleGarbled : Node :=
  { sample with panel := { sample.panel with
      users := [{ answer := .response { text := "\x7b\"users\":["
        ++ "\x7b\"id\":2,\"uuid\":\"\\ud8000123456789abcdef\"\x7d,"
        ++ "\x7b\"id\":1,\"uuid\":\"short\"\x7d]\x7d" } }] } }

end ProxyNode.Node
