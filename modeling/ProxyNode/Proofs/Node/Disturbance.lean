import ProxyNode.Proofs.Node.Fetches
import ProxyNode.Proofs.Node.Isolation
import ProxyNode.Proofs.Roster.Standing

/-!
# Node — Disturbance, whom a sync cycle concerns

A sync cycle that needs no restart asks the engine for what the listed users make necessary and for
nothing else; one that gets no users asks for nothing.

* `Gets`, `Mild`: what a cycle gets of the panel.
* `Disturbs`: the calls that make some users others.
* `disturbs_calls`: so does the change between them, whatever is refused.
* `makes_settle`, `makes_reconcile`: the calls of a node that reconciles its users with a list.
* `sync_of_barren`: a cycle that gets no users.
* `sync_disturbs`: the calls of a cycle, after anything that happened to the node.
* `sync_strays`: they have an order of their own, and one secret without bytes prevents them all.
-/

namespace ProxyNode

/-- Whether a call is among those that were refused. -/
def Engine.refusedIn (calls : List (Engine.Call × Option EngineCause)) (c : Engine.Call) : Bool :=
  calls.any fun e => decide (e.1 = c) && e.2.isSome

/-- The calls by which an engine with the users `current` gets the users `next`.  First those are
removed who are in `current` alone, in ascending order, then those whose secret changed, in the
order of `next`.  After that those are added who are new or whose secret changed, in the order of
`next`, unless their removal was refused.  A user with an unchanged secret is not concerned. -/
structure Disturbs (h : Engine.Handle) (current next : OrderedMap Int User)
    (calls : List (Engine.Call × Option EngineCause)) : Prop where
  asks : ∃ gone : List Int, gone.Pairwise (· < ·)
    ∧ (∀ i, i ∈ gone ↔ i ∈ current.keys ∧ i ∉ next.keys)
    ∧ calls.map Prod.fst = gone.map (.remove h)
      ++ (next.values.filter (Diff.isChanged current)).map (fun u => .remove h u.id)
      ++ (next.values.filter fun u => Diff.isWanted current u
          && !Engine.refusedIn calls (.remove h u.id)).map fun u => .add h u.id u.key
  spares : ∀ {i old u}, current.get? i = some old → next.get? i = some u →
    old.secret = u.secret → ∀ e ∈ calls, e.1.user? ≠ some i

namespace Diff

variable {h : Engine.Handle} {current next : OrderedMap Int User} {length : Nat}

theorem keeps_eq_refusedIn (d : Diff) (h : Engine.Handle) (v : Engine.Verdicts) (i : Int) :
    d.keeps v i = Engine.refusedIn (d.calls h v) (.remove h i) := by
  rw [Bool.eq_iff_iff, keeps_iff, Engine.refusedIn, List.any_eq_true]
  constructor
  · rintro ⟨cause, hc⟩
    exact ⟨_, hc, by simp⟩
  · rintro ⟨⟨c, o⟩, hc, ho⟩
    obtain ⟨hcall, hsome⟩ := Bool.and_eq_true_iff.mp ho
    obtain ⟨cause, rfl⟩ := Option.isSome_iff_exists.mp hsome
    exact ⟨cause, of_decide_eq_true hcall ▸ hc⟩

/-- The change between two maps of users, whatever the engine says to it. -/
theorem disturbs_calls (h : Engine.Handle) (current : OrderedMap Int User)
    (hn : IsKeyed length next) (v : Engine.Verdicts) :
    Disturbs h current next ((between current next.values).calls h v) := by
  -- Everyone is named once, so the change has the order of the map.
  have hlatest : latest next.values = next := OrderedMap.ofList_values hn.id_eq
  have hremove : (between current next.values).remove
      = sortBy id (current.keys.filter fun i => !next.contains i)
        ++ (next.values.filter (isChanged current)).map User.id := by
    rw [between, hlatest]
  have hadd : (between current next.values).add = next.values.filter (isWanted current) := by
    rw [between, hlatest]
  constructor
  case asks =>
    refine ⟨sortBy id (current.keys.filter fun i => !next.contains i), ?_, ?_, ?_⟩
    · have hnodup := (sortBy_perm id _).nodup_iff.mpr
        (current.nodup_keys.filter fun i => !next.contains i)
      refine ((sortBy_pairwise id _).and hnodup).imp fun hab => ?_
      exact Int.lt_iff_le_and_ne.mpr hab
    · intro i
      rw [(sortBy_perm id _).mem_iff, List.mem_filter, OrderedMap.contains,
        ← OrderedMap.get?_eq_none_iff]
      simp
    · have hcalls : ((between current next.values).calls h v).map Prod.fst
          = (between current next.values).remove.map (.remove h)
            ++ ((between current next.values).add.filter fun u =>
              !(between current next.values).keeps v u.id).map fun u => .add h u.id u.key := by
        rw [calls, List.map_append, List.map_map, List.map_map]
        rfl
      rw [hcalls, hadd, List.filter_filter, hremove, List.map_append, List.map_map]
      refine congrArg (_ ++ List.map _ ·) (List.filter_congr fun u _ => ?_)
      rw [keeps_eq_refusedIn _ h, Bool.and_comm]
  case spares =>
    intro i old u ho hu hs e he
    have hl := (lastOf_values hn i).trans hu
    obtain ⟨hnr, hna⟩ := not_mem_between ho hl hs
    obtain ⟨c, o⟩ := e
    rcases mem_calls_iff.mp he with ⟨j, hj, rfl, -⟩ | ⟨w, hw, -, rfl, -⟩
    · rintro ⟨rfl⟩
      exact hnr hj
    · rintro ⟨rfl⟩
      exact hna (List.mem_map.mpr ⟨w, hw, rfl⟩)

end Diff

theorem NodeConfig.requiresRestart_self (config : NodeConfig) :
    config.requiresRestart config = false :=
  requiresRestart_eq_false_iff.mpr ⟨rfl, rfl, rfl, rfl⟩

namespace Node

variable {n n' : Node} {users : List User} {config : NodeConfig}

/-- Whether the sync cycle that begins with this node gets these users, of which there are some. -/
def Gets (n : Node) (users : List User) : Prop :=
  goesOn n.configFetch.1 = true ∧ n.refresh.2.Yields users ∧ users ≠ []

/-- What a cycle gets is settled. -/
theorem Gets.unique {users' : List User} (h : n.Gets users) (h' : n.Gets users') :
    users = users' := by
  obtain ⟨-, hok | ⟨⟨what, hw⟩, hf⟩, -⟩ := h
  · obtain ⟨-, hok' | ⟨⟨what, hw⟩, -⟩, -⟩ := h'
    · exact Except.ok.inj (hok.symm.trans hok')
    · cases hok.symm.trans hw
  · obtain ⟨-, hok' | ⟨-, hf'⟩, -⟩ := h'
    · cases hw.symm.trans hok'
    · exact Option.some.inj (hf.symm.trans hf')

/-- Whether the sync cycle that begins with this node gets no configuration that needs a restart. -/
def Mild (n : Node) : Prop :=
  ∀ old new, n.roster.config = some old → n.configFetch.1 = .ok new →
    new.requiresRestart old = false

/-- A node that holds a handle makes the calls of a change, which are none if there is nothing to
change. -/
theorem makes_settle {k : Engine.Handle} {i : Engine.Instance} (hk : n.roster.handle = some k)
    (hm : n.roster.Mirrors n.engine k i) (config : NodeConfig) (keyed : OrderedMap Int User) :
    ∃ v, n.Makes ((Diff.between n.roster.applied keyed.values).calls k v)
      (n.settle config keyed).2 := by
  obtain ⟨v, hv⟩ := exists_applies hm keyed.values
  refine ⟨v, ?_⟩
  rcases settle_cases n config keyed with ⟨hnone, -⟩ | ⟨k', hk', ⟨he, hr⟩ | ⟨-, message, hr⟩⟩
  · cases hk.symm.trans hnone
  · obtain ⟨hremove, hadd⟩ := Diff.isEmpty_iff.mp he
    rw [hr, Diff.calls, hremove, hadd]
    exact ((listens_note n _).marks.trans (marks_synced _ _ _)).makes
  · obtain rfl : k = k' := Option.some.inj (hk.symm.trans hk')
    rw [hr]
    exact hv.makes.marks (marks_synced _ _ _)

/-- So it does with a list of users, if all their secrets have bytes. -/
theorem makes_reconcile {k : Engine.Handle} {i : Engine.Instance} (hk : n.roster.handle = some k)
    (hm : n.roster.Mirrors n.engine k i) (config : NodeConfig) (hl : Legible users) :
    ∃ v, n.Makes ((Diff.between n.roster.applied
      (wanted config.cipher.keyLength users).values).calls k v) (n.reconcile config users).2 := by
  obtain ⟨m, hlisten, hr⟩ := reconcile_of_legible n config hl
  have hroster := hlisten.keeps.roster
  have hm' : m.roster.Mirrors m.engine k i := by
    rw [hroster, hlisten.keeps.engine]
    exact hm
  obtain ⟨v, hv⟩ := makes_settle (hroster ▸ hk) hm' config (wanted config.cipher.keyLength users)
  rw [hroster] at hv
  rw [hr]
  exact ⟨v, hlisten.keeps.idles.makes hv⟩

/-! ### Cycles that get no users -/

/-- Without users the second half of a cycle does nothing but note that. -/
theorem syncUsers_of_barren (h : ∀ users, n.Yields users → users = []) :
    Marks n n.syncUsers.2 := by
  have hl := listens_userFetch n
  have hf := congrArg Roster.fetched hl.keeps.roster
  have hempty (m : Node) : Marks m (m.useUsers []).2 :=
    (listens_note m .emptyList).marks.trans (marks_synced _ _ _)
  unfold syncUsers
  rw [userFetch] at hl hf
  split
  · next users m hm =>
    rw [hm] at hl
    obtain rfl := h users (.inl (congrArg Prod.fst hm))
    exact hl.marks.trans (hempty m)
  · next what m hm =>
    rw [hm] at hl hf
    split
    · exact hl.marks
    · next users hknown =>
      obtain rfl := h users (.inr ⟨⟨what, congrArg Prod.fst hm⟩, hf.symm.trans hknown⟩)
      exact hl.marks.trans (hempty m)
  · next fault m _ hm =>
    rw [hm] at hl
    split
    · exact (hl.marks.trans (listens_note m _).marks).trans (marks_synced _ _ _)
    · exact hl.marks

/-- A cycle that gets no users does nothing after it has refreshed the configuration. -/
theorem sync_of_barren (hidle : n.roster.busy = false) (h : ∀ users, ¬ n.Gets users) :
    Marks n.refresh.2 n.sync.2 := by
  have hgoes := goesOn_of_refresh (n := n)
  have hbarren (hok : n.refresh.1 = .ok ()) (users : List User) (hy : n.refresh.2.Yields users) :
      users = [] := by
    by_contra hne
    exact h users ⟨hgoes hok, hy, hne⟩
  unfold sync
  rw [if_neg (Bool.eq_false_iff.mp hidle)]
  split
  · next fault m hm =>
    rw [hm]
    exact marks_syncFailed m fault
  · next m hm =>
    rw [hm] at hbarren ⊢
    have hu := syncUsers_of_barren (hbarren rfl)
    split
    · next fault k hk =>
      rw [hk] at hu
      exact hu.trans (marks_syncFailed k fault)
    · next ok k hk =>
      rw [hk] at hu
      exact hu

/-! ### Cycles that need no restart -/

/-- Such a cycle begins with no call, and with no more than another configuration with which the
engine need not be restarted. -/
theorem refresh_of_mild (hc : n.roster.config = some config) (hmild : n.Mild) :
    n.Makes [] n.refresh.2 ∧ ∃ now,
      (n.configFetch.1 = .ok now ∨ now = config ∧ ∀ new, n.configFetch.1 ≠ .ok new)
      ∧ now.requiresRestart config = false
      ∧ n.refresh.2.roster = { n.roster with config := some now } := by
  obtain ⟨hcalled, now, -, hroster⟩ := refresh_mild hc fun new hnew => hmild config new hc hnew
  -- Known afterwards is what was fetched, or else what was known before.
  have hnow : Panel.configReader.next n.roster.config n.configFetch.1 = some now :=
    (refresh_learns n).config.symm.trans (congrArg Roster.config hroster)
  refine ⟨hcalled, now, ?_⟩
  cases hf : n.configFetch.1 with
  | ok new =>
      rw [hf] at hnow
      obtain rfl : new = now := Option.some.inj hnow
      exact ⟨.inl rfl, hmild config new hc hf, hroster⟩
  | error fault =>
      rw [hf, Panel.Reader.next, hc] at hnow
      obtain rfl : config = now := Option.some.inj hnow
      refine ⟨.inr ⟨rfl, fun new hnew => ?_⟩, config.requiresRestart_self, hroster⟩
      cases hnew

/-- The refresh of a cycle that gets users goes well. -/
theorem Gets.refresh_fst (hg : n.Gets users) (hl : Legible n.roster.applied.values) :
    n.refresh.1 = .ok () :=
  (Node.refresh_fst hl).trans (if_pos hg.1)

/-- A cycle that gets users, all with secrets that have bytes, with a handle held once the
configuration is refreshed, disturbs the users as far as these make it necessary. -/
theorem disturbs_sync (hb : n.Backed) (hidle : n.roster.busy = false) (hg : n.Gets users)
    (hl : Legible users) (hc : n.refresh.2.roster.config = some config) {k : Engine.Handle}
    (hk : n.refresh.2.roster.handle = some k) :
    ∃ calls, n.refresh.2.Makes calls n.sync.2
      ∧ Disturbs k n.refresh.2.roster.applied (wanted config.cipher.keyLength users) calls := by
  obtain ⟨m, hm, hsync⟩ := sync_of_yields hidle (hg.refresh_fst hb.legible) hg.2.1 hg.2.2 hc
  have hroster := hm.keeps.roster
  have hm' : (m.knowing users).Backed :=
    ((Backed.cycles.refresh hb).keeps hm.keeps).of_eq rfl rfl rfl rfl
  have hmk : (m.knowing users).roster.handle = some k := (congrArg Roster.handle hroster).trans hk
  have hma : (m.knowing users).roster.applied = n.refresh.2.roster.applied := by
    show m.roster.applied = n.refresh.2.roster.applied
    rw [hroster]
  obtain ⟨i, config', hs⟩ := Roster.Backed.serves hm' hmk
  obtain ⟨v, hv⟩ := makes_reconcile hmk hs.mirrors config hl
  rw [hma] at hv
  refine ⟨_, ?_, Diff.disturbs_calls k n.refresh.2.roster.applied
    (isKeyed_wanted config.cipher.keyLength users) v⟩
  rw [hsync]
  have hknown : n.refresh.2.Makes [] (m.knowing users) := hm.keeps.called
  exact hknown.trans hv

/-- A list with a secret without bytes is no more than noted. -/
theorem BreaksOff.hears (h : n.BreaksOff users) : Hears n.refresh.2 n.sync.2 :=
  ⟨⟨n.refresh.2.roster.lastSync, some users, h.roster⟩, h.called⟩

/-- A cycle that gets no users, or such a list, does nothing else after it has refreshed the
configuration. -/
theorem sync_of_useless (hidle : n.roster.busy = false) (hl : Legible n.roster.applied.values)
    (hc : n.refresh.2.roster.config = some config)
    (h : ∀ users, n.Gets users → ¬ Legible users) : Hears n.refresh.2 n.sync.2 := by
  by_cases hg : ∃ users, n.Gets users
  · obtain ⟨users, hg⟩ := hg
    exact (breaksOff_of_sync hidle (hg.refresh_fst hl) hg.2.1 hc (h users hg)).hears
  · exact (sync_of_barren hidle (not_exists.mp hg)).hears

/-- Whatever happened to a node that holds a handle, and whatever the engine refuses: a sync cycle
that gets no configuration that needs a restart, and a list of users whose secrets all have bytes,
makes just the calls that the change to the listed users makes necessary, which are those with a
secret that is long enough in their last entry, in the order of their first standing entries.  If it
gets no users, it makes no call and leaves the users and the last list as they are. -/
theorem sync_disturbs {n₀ : Node} (h : n₀.IsNew) (steps : List Step) (hn : n = n₀.after steps)
    {k : Engine.Handle} (hk : n.roster.handle = some k) (hc : n.roster.config = some config)
    (hmild : n.Mild) :
    (∀ users, n.Gets users → Legible users →
      (∀ id, (wanted config.cipher.keyLength users).get? id
        = ((lastOf users id).filter (User.keyable config.cipher.keyLength)).map
          (User.withOwnKey config.cipher.keyLength))
      ∧ Disturbs k n.roster.applied (wanted config.cipher.keyLength users) (n.made n.sync.2))
    ∧ ((∀ users, ¬ n.Gets users) → n.made n.sync.2 = []
      ∧ n.sync.2.roster.applied = n.roster.applied
      ∧ n.sync.2.roster.fetched = n.roster.fetched) := by
  have hb : n.Backed := hn ▸ backed_after h steps
  have hidle : n.roster.busy = false := hn ▸ idle_after h steps
  obtain ⟨hrefresh, new, -, hnew, hroster⟩ := refresh_of_mild hc hmild
  constructor
  · intro users hg hl
    refine ⟨get?_wanted config.cipher.keyLength users, ?_⟩
    have hcipher := (NodeConfig.requiresRestart_eq_false_iff.mp hnew).2.1
    have hknown : n.refresh.2.roster.config = some new := by rw [hroster]
    have hkept : n.refresh.2.roster.handle = some k := by rw [hroster, ← hk]
    have happlied : n.refresh.2.roster.applied = n.roster.applied := by rw [hroster]
    obtain ⟨calls, hcalls, hdisturbs⟩ := disturbs_sync hb hidle hg hl hknown hkept
    rw [(hrefresh.trans hcalls).eq]
    rwa [happlied, hcipher] at hdisturbs
  · intro hbarren
    have hmarks := sync_of_barren hidle hbarren
    obtain ⟨outcome, ho⟩ := hmarks.roster
    refine ⟨(hrefresh.trans hmarks.makes).eq, ?_, ?_⟩
    · rw [ho, hroster]
    · rw [ho, hroster]

theorem mild_of_all (h : (n.roster.config.all fun old =>
    n.configFetch.1.toOption.all fun new => !new.requiresRestart old) = true) : n.Mild := by
  intro old new ho hnew
  rw [ho, hnew] at h
  exact Bool.not_eq_true' _ |>.mp h

/-- Of the sample's users the first is to be exchanged and the second is new.  The first cannot be
removed and so is not added. -/
theorem sync_disturbs_sample :
    (sampleRefusing.after [.start]).made (sampleRefusing.after [.start]).sync.2
      = [(.remove 0 1, some (.removeRefused 1)),
        (.add 0 2 (keyOf 16 "0123456789abcdef"), none)]
    ∧ ∃ config, (sampleRefusing.after [.start]).roster.config = some config
      ∧ Disturbs 0 (sampleRefusing.after [.start]).roster.applied
        (wanted config.cipher.keyLength
          [⟨1, "fedcba9876543210", []⟩, ⟨2, "0123456789abcdef", []⟩])
        ((sampleRefusing.after [.start]).made (sampleRefusing.after [.start]).sync.2) := by
  obtain ⟨hmade, hk, hc, hgoes, hyields, hmild⟩ :
      (sampleRefusing.after [.start]).made (sampleRefusing.after [.start]).sync.2
        = [(.remove 0 1, some (.removeRefused 1)),
          (.add 0 2 (keyOf 16 "0123456789abcdef"), none)]
      ∧ (sampleRefusing.after [.start]).roster.handle = some 0
      ∧ (sampleRefusing.after [.start]).roster.config.isSome = true
      ∧ goesOn (sampleRefusing.after [.start]).configFetch.1 = true
      ∧ (sampleRefusing.after [.start]).refresh.2.userFetch.1
        = .ok [⟨1, "fedcba9876543210", []⟩, ⟨2, "0123456789abcdef", []⟩]
      ∧ ((sampleRefusing.after [.start]).roster.config.all fun old =>
        (sampleRefusing.after [.start]).configFetch.1.toOption.all fun new =>
          !new.requiresRestart old) = true := by
    decide +kernel
  obtain ⟨config, hc⟩ := Option.isSome_iff_exists.mp hc
  obtain ⟨hdisturbs, -⟩ :=
    sync_disturbs isNew_sampleRefusing [.start] rfl hk hc (mild_of_all hmild)
  have hgets : (sampleRefusing.after [.start]).Gets
      [⟨1, "fedcba9876543210", []⟩, ⟨2, "0123456789abcdef", []⟩] :=
    ⟨hgoes, .inl hyields, by decide⟩
  obtain ⟨-, hdisturbs⟩ := hdisturbs _ hgets (by decide)
  exact ⟨hmade, config, hc, hdisturbs⟩

/-- The users with a secret that is long enough in their last entry, in the order of their first
entries. -/
def latestKeyed (length : Nat) (users : List User) : OrderedMap Int User :=
  .ofList (((latest users).values.filter (User.keyable length)).map
    fun u => (u.id, u.withOwnKey length))

/-- The sample, whose panel lists a third user before the start and the first two after it, both
again, and the first of them in between with too short a secret. -/
def sampleReordering : Node :=
  { sample with
    panel := { sample.panel with
      users := [{ answer := .response { text := "\x7b\"users\":["
          ++ "\x7b\"id\":3,\"uuid\":\"0123456789abcdef\"\x7d]\x7d" } },
        { answer := .response { text := "\x7b\"users\":["
          ++ "\x7b\"id\":1,\"uuid\":\"0123456789abcdef\"\x7d,"
          ++ "\x7b\"id\":2,\"uuid\":\"0123456789abcdef\"\x7d,"
          ++ "\x7b\"id\":1,\"uuid\":\"short\"\x7d,"
          ++ "\x7b\"id\":1,\"uuid\":\"0123456789abcdef\"\x7d,"
          ++ "\x7b\"id\":2,\"uuid\":\"0123456789abcdef\"\x7d]\x7d" } }] } }

theorem isNew_sampleReordering : sampleReordering.IsNew :=
  ⟨rfl, rfl, ⟨16, by decide, rfl⟩, rfl, rfl, rfl, rfl⟩

/-- What a sync cycle of this sample lists. -/
def sampleRelisted : List User :=
  [⟨1, "0123456789abcdef", []⟩, ⟨2, "0123456789abcdef", []⟩, ⟨1, "short", []⟩,
    ⟨1, "0123456789abcdef", []⟩, ⟨2, "0123456789abcdef", []⟩]

/-- The cycle that begins with `n`, which holds its first handle and gets these users and no
configuration that needs a restart, makes other calls than their last entries make necessary. -/
def Strays (n : Node) (users : List User) : Prop :=
  n.roster.handle = some 0 ∧ n.Mild ∧ n.Gets users
    ∧ ¬ Disturbs 0 n.roster.applied (latestKeyed 16 users) (n.made n.sync.2)

/-- The order is neither that of the first entries nor that of the last: a secret that is too short
costs a user its place, even if a later one is long enough. -/
theorem strays_of_reordering :
    (sampleReordering.after [.start]).Strays sampleRelisted
    ∧ (latestKeyed 16 sampleRelisted).keys = [1, 2]
    ∧ (latest sampleRelisted.reverse).keys.reverse = [1, 2]
    ∧ (wanted 16 sampleRelisted).keys = [2, 1]
    ∧ (sampleReordering.after [.start]).made (sampleReordering.after [.start]).sync.2
      = [(.remove 0 3, none), (.add 0 2 (keyOf 16 "0123456789abcdef"), none),
        (.add 0 1 (keyOf 16 "0123456789abcdef"), none)] := by
  obtain ⟨hmade, happlied, hk, hgoes, hyields, hmild⟩ :
      (sampleReordering.after [.start]).made (sampleReordering.after [.start]).sync.2
        = [(.remove 0 3, none), (.add 0 2 (keyOf 16 "0123456789abcdef"), none),
          (.add 0 1 (keyOf 16 "0123456789abcdef"), none)]
      ∧ (sampleReordering.after [.start]).roster.applied
        = .ofList [(3, ⟨3, "0123456789abcdef", keyOf 16 "0123456789abcdef"⟩)]
      ∧ (sampleReordering.after [.start]).roster.handle = some 0
      ∧ goesOn (sampleReordering.after [.start]).configFetch.1 = true
      ∧ (sampleReordering.after [.start]).refresh.2.userFetch.1 = .ok sampleRelisted
      ∧ ((sampleReordering.after [.start]).roster.config.all fun old =>
        (sampleReordering.after [.start]).configFetch.1.toOption.all fun new =>
          !new.requiresRestart old) = true := by
    decide +kernel
  refine ⟨⟨hk, mild_of_all hmild, ⟨hgoes, .inl hyields, by decide⟩, ?_⟩, by decide +kernel,
    by decide +kernel, by decide +kernel, hmade⟩
  rw [hmade, happlied]
  rintro ⟨⟨gone, -, -, hcalls⟩, -⟩
  -- The last of the calls would be for the second user, and is for the first.
  have hadds : (((latestKeyed 16 sampleRelisted).values.filter fun u =>
      Diff.isWanted (.ofList [(3, ⟨3, "0123456789abcdef", keyOf 16 "0123456789abcdef"⟩)]) u
        && !Engine.refusedIn [(.remove 0 3, none), (.add 0 2 (keyOf 16 "0123456789abcdef"), none),
          (.add 0 1 (keyOf 16 "0123456789abcdef"), none)] (.remove 0 u.id)).map
      fun u => Engine.Call.add 0 u.id u.key)
      = [.add 0 1 (keyOf 16 "0123456789abcdef"), .add 0 2 (keyOf 16 "0123456789abcdef")] := by
    decide +kernel
  rw [hadds] at hcalls
  generalize keyOf 16 "0123456789abcdef" = key at hcalls
  have hlast := congrArg List.getLast? hcalls
  rw [List.getLast?_append] at hlast
  simp at hlast

/-- One secret without bytes, and there is no call at all, neither for the other user, who is new,
nor for the one who is not listed any more. -/
theorem strays_of_unreadable :
    (sampleUnreadable.after [.start]).Strays [⟨3, "fedcba9876543210", []⟩, sampleTorn]
    ∧ (sampleUnreadable.after [.start]).made (sampleUnreadable.after [.start]).sync.2 = [] := by
  obtain ⟨hmade, hkeys, hk, hgoes, hyields, hmild⟩ :
      (sampleUnreadable.after [.start]).made (sampleUnreadable.after [.start]).sync.2 = []
      ∧ (sampleUnreadable.after [.start]).roster.applied.keys = [1]
      ∧ (sampleUnreadable.after [.start]).roster.handle = some 0
      ∧ goesOn (sampleUnreadable.after [.start]).configFetch.1 = true
      ∧ (sampleUnreadable.after [.start]).refresh.2.userFetch.1
        = .ok [⟨3, "fedcba9876543210", []⟩, sampleTorn]
      ∧ ((sampleUnreadable.after [.start]).roster.config.all fun old =>
        (sampleUnreadable.after [.start]).configFetch.1.toOption.all fun new =>
          !new.requiresRestart old) = true := by
    decide +kernel
  refine ⟨⟨hk, mild_of_all hmild, ⟨hgoes, .inl hyields, by decide⟩, ?_⟩, hmade⟩
  rintro ⟨⟨gone, -, hgone, hcalls⟩, -⟩
  have hone : (1 : Int) ∈ gone := (hgone 1).mpr ⟨by rw [hkeys]; decide, by decide +kernel⟩
  rw [hmade] at hcalls
  have hempty := (List.append_eq_nil_iff.mp (List.append_eq_nil_iff.mp hcalls.symm).1).1
  rw [List.map_eq_nil_iff.mp hempty] at hone
  cases hone

/-- Two ways to stray, each after the start of a node that has just been made. -/
theorem sync_strays :
    sampleReordering.IsNew ∧ (sampleReordering.after [.start]).Strays sampleRelisted
    ∧ sampleUnreadable.IsNew
    ∧ (sampleUnreadable.after [.start]).Strays [⟨3, "fedcba9876543210", []⟩, sampleTorn] :=
  ⟨isNew_sampleReordering, strays_of_reordering.1,
    ⟨rfl, rfl, ⟨16, by decide, rfl⟩, rfl, rfl, rfl, rfl⟩, strays_of_unreadable.1⟩

end Node

end ProxyNode
