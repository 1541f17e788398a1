import Mathlib.Data.List.Infix
import ProxyNode.Proofs.Node.Fetches
import ProxyNode.Proofs.Node.Trades

/-!
# Node — Coherence of tags and values

The client remembers tags and the node what was read of the bodies that they belong to, and the two
are set at different moments.  With an honest panel they never drift apart, so that "not modified"
always speaks of what the node has.

* `Coherent`: the tags are those of the bodies of which the configuration and the list were read.
* `coherent_start`, `coherent_refresh`, `coherent_syncUsers`, `coherent_act`: what is done keeps them
  so.
* `coherent_acts`: so does any sequence of actions.
* `sync_coherent`: what a sync cycle knows after an answer is what the panel had when it answered.
-/

namespace ProxyNode.Node

open Panel

variable {α : Type} {R : Reader α} {tag : Endpoint → String → String}
  {body : Nat → Endpoint → String} {manner : Transport} {n n' m : Node} {r : Except Fault α}

/-- The tags that the client remembers are those of the bodies of which the configuration and the
last list of users were read. -/
structure Coherent (tag : Endpoint → String → String) (manner : Transport) (n : Node) : Prop where
  transport : n.client.transport = manner
  config : Known (tag .config) (configIn manner) n.client.configTag n.roster.config
  users : Known (tag .users) usersIn n.client.usersTag n.roster.fetched

namespace Coherent

theorem congr (h : n.Coherent tag manner) (hclient : n'.client = n.client)
    (hconfig : n'.roster.config = n.roster.config)
    (hfetched : n'.roster.fetched = n.roster.fetched) : n'.Coherent tag manner := by
  refine ⟨hclient ▸ h.transport, ?_, ?_⟩
  · rw [hclient, hconfig]
    exact h.config
  · rw [hclient, hfetched]
    exact h.users

theorem oblivious (h : n.Coherent tag manner) (ho : Oblivious n n') :
    n'.Coherent tag manner :=
  h.congr ho.unasked.client ho.config ho.fetched

end Coherent

/-! ### One fetch -/

/-- The last answer of an honest panel keeps a tag and its value together; if it tells what the body
says, the value is that of the body at that time. -/
theorem Answered.known (h : Answered R n r m) (hh : Honest tag body m.requests) {old : Option α}
    (hk : Known (tag R.endpoint) (R.read n.client.transport) (n.client.tagFor R.endpoint) old) :
    Known (tag R.endpoint) (R.read n.client.transport) (m.client.tagFor R.endpoint) (R.next old r)
    ∧ ∀ request turn earlier, m.requests = (request, turn) :: earlier →
      turn.answer.tells (R.read n.client.transport) = true →
      R.next old r = R.read n.client.transport (body earlier.length R.endpoint) := by
  obtain ⟨turn, earlier, hm, -, ha⟩ := h
  obtain ⟨rfl, hclient⟩ := Prod.mk.inj ha
  rw [hm] at hh
  have hf (a : Response) (hr : turn.answer = .response a) :
      Fits (tag R.endpoint) (body earlier.length R.endpoint) (n.client.tagFor R.endpoint) a :=
    hh.last R.fetches hr
  refine ⟨?_, fun request turn' earlier' hm' ht => ?_⟩
  · rw [← hclient]
    exact R.known_next (hh.nonempty R.endpoint) hf hk
  · obtain ⟨hx, rfl⟩ := List.cons.inj (hm.symm.trans hm')
    obtain ⟨-, rfl⟩ := Prod.mk.inj hx
    exact R.next_of_tells (hh.injective R.endpoint) hf hk ht

theorem Answered.transport (h : Answered R n r m) : m.client.transport = n.client.transport := by
  obtain ⟨turn, earlier, -, -, ha⟩ := h
  have hc : (R.accept n.client turn.answer).2 = m.client := congrArg Prod.snd ha
  rw [← hc, R.transport_accept]

theorem Answered.tagFor_of_ne (h : Answered R n r m) {e : Endpoint} (he : e ≠ R.endpoint) :
    m.client.tagFor e = n.client.tagFor e := by
  obtain ⟨turn, earlier, -, -, ha⟩ := h
  have hc : (R.accept n.client turn.answer).2 = m.client := congrArg Prod.snd ha
  rw [← hc, R.tagFor_accept_of_ne _ _ he]

/-- For want of a pause a fetch may end in another fault than that of its last answer, which teaches
as little. -/
theorem configFetch_answered (n : Node) : ∃ r, Answered configReader n r n.configFetch.2
    ∧ ∀ old, configReader.next old n.configFetch.1 = configReader.next old r :=
  (fetches_config.retrying n n.plan.retry Endpoint.config.errand).exists_answered

theorem userFetch_answered (n : Node) : ∃ r, Answered userReader n r n.userFetch.2
    ∧ ∀ old, userReader.next old n.userFetch.1 = userReader.next old r :=
  (fetches_users.retrying n n.plan.retry Endpoint.users.errand).exists_answered

/-! ### A sync cycle -/

/-- The first half of a sync cycle: the configuration is that of the panel's body if the answer tells
what it says. -/
theorem coherent_refresh (h : n.Coherent tag manner) (hh : Honest tag body n.refresh.2.requests) :
    n.refresh.2.Coherent tag manner
    ∧ ∀ request turn earlier, n.configFetch.2.requests = (request, turn) :: earlier →
      turn.answer.tells (configIn manner) = true →
      n.refresh.2.roster.config = configIn manner (body earlier.length .config) := by
  obtain ⟨rfl, hconfig, husers⟩ := h
  have hl := refresh_learns n
  obtain ⟨r, ha, hnext⟩ := configFetch_answered n
  rw [hnext] at hl
  have hf : Honest tag body n.configFetch.2.requests := hl.unasked.requests ▸ hh
  have hother : n.configFetch.2.client.usersTag = n.client.usersTag :=
    ha.tagFor_of_ne (e := .users) nofun
  obtain ⟨hknown, htold⟩ := ha.known hf hconfig
  refine ⟨⟨?_, ?_, ?_⟩, ?_⟩
  · rw [hl.unasked.client, ha.transport]
  · rw [hl.unasked.client, hl.config]
    exact hknown
  · rw [hl.unasked.client, hl.fetched, hother]
    exact husers
  · rw [hl.config]
    exact htold

/-- The second half of a sync cycle: the last list is that of the panel's body if the answer tells
what it says. -/
theorem coherent_syncUsers (h : n.Coherent tag manner)
    (hh : Honest tag body n.syncUsers.2.requests) :
    n.syncUsers.2.Coherent tag manner
    ∧ ∀ request turn earlier, n.userFetch.2.requests = (request, turn) :: earlier →
      turn.answer.tells usersIn = true →
      n.syncUsers.2.roster.fetched = usersIn (body earlier.length .users) := by
  obtain ⟨rfl, hconfig, husers⟩ := h
  have hl := syncUsers_learns n
  obtain ⟨r, ha, hnext⟩ := userFetch_answered n
  rw [hnext] at hl
  have hf : Honest tag body n.userFetch.2.requests := hl.unasked.requests ▸ hh
  have hother : n.userFetch.2.client.configTag = n.client.configTag :=
    ha.tagFor_of_ne (e := .config) nofun
  obtain ⟨hknown, htold⟩ := ha.known hf husers
  refine ⟨⟨?_, ?_, ?_⟩, ?_⟩
  · rw [hl.unasked.client, ha.transport]
  · rw [hl.unasked.client, hl.config, hother]
    exact hconfig
  · rw [hl.unasked.client, hl.fetched]
    exact hknown
  · rw [hl.fetched]
    exact htold

theorem requests_syncUsers (n : Node) : n.requests <:+ n.syncUsers.2.requests := by
  rw [(syncUsers_learns n).unasked.requests]
  obtain ⟨r, ha, -⟩ := userFetch_answered n
  exact ha.grows

theorem coherent_sync (h : n.Coherent tag manner) (hh : Honest tag body n.sync.2.requests) :
    n.sync.2.Coherent tag manner := by
  by_cases hbusy : n.roster.busy = true
  · rw [sync_of_busy hbusy]
    exact h.oblivious (oblivious_note n _)
  · rcases sync_halves (Bool.eq_false_iff.mpr hbusy) with ⟨ho, -⟩ | ⟨ho, -⟩
    · rw [ho.unasked.requests] at hh
      exact (coherent_refresh h hh).1.oblivious ho
    · rw [ho.unasked.requests] at hh
      have hr := (coherent_refresh h (hh.mono (requests_syncUsers _))).1
      exact (coherent_syncUsers hr hh).1.oblivious ho

/-! ### A run -/

theorem coherent_report (h : n.Coherent tag manner) (timeout : Option Float) (policy : Retry) :
    (n.report timeout policy).2.Coherent tag manner := by
  obtain ⟨k, hk⟩ := pushes_report n timeout policy
  have hroster := (keepsRoster_report n timeout policy).roster
  exact h.congr hk.client (congrArg Roster.config hroster) (congrArg Roster.fetched hroster)

/-- What does no more than count, and asks nothing, concerns nothing that is known. -/
theorem Listens.oblivious (h : Listens n n') (hu : Unasked n n') : Oblivious n n' :=
  ⟨hu, congrArg Roster.config h.keeps.roster, congrArg Roster.fetched h.keeps.roster⟩

theorem oblivious_fail (n : Node) (fault : Fault) : Oblivious n (n.fail fault) := by
  have hf : Oblivious n { n with phase := .failed, fatal := some fault } := ⟨⟨rfl, rfl⟩, rfl, rfl⟩
  exact (hf.trans (oblivious_note _ (.fatal fault))).trans
    ((listens_raise _).oblivious (unasked_raise _))

theorem coherent_tick (h : n.Coherent tag manner) (c : Cycle)
    (hh : Honest tag body (n.tick c).2.requests) : (n.tick c).2.Coherent tag manner := by
  have hl : (n.log (.began c)).Coherent tag manner := h.congr rfl rfl rfl
  have hdone (hh : Honest tag body ((n.log (.began c)).perform c).2.requests) :
      ((n.log (.began c)).perform c).2.Coherent tag manner := by
    cases c with
    | sync => exact coherent_sync hl hh
    | report => exact coherent_report hl none _
  unfold tick at hh ⊢
  split at hh
  · next ok m hm =>
    rw [hm] at hdone
    exact hdone hh
  · next fault m hm =>
    rw [hm] at hdone
    split at hh
    · next hr =>
      have ho := oblivious_fail m fault
      rw [if_pos hr]
      exact (hdone (ho.unasked.requests ▸ hh)).oblivious ho
    · next hr =>
      have ho := oblivious_note m (.cycleFailed c fault)
      rw [if_neg hr]
      exact (hdone (ho.unasked.requests ▸ hh)).oblivious ho

/-- Whatever a running node does, and whatever happens to it, keeps tags and values together. -/
theorem coherent_act (h : n.Coherent tag manner) (a : Action)
    (hh : Honest tag body (n.act a).requests) : (n.act a).Coherent tag manner := by
  cases a with
  | count d => exact h.congr rfl rfl rfl
  | emit d => exact h.oblivious ((listens_emit n d).oblivious (unasked_emit n d))
  | sync => exact coherent_sync h hh
  | report timeout policy => exact coherent_report h timeout policy
  | tick c => exact coherent_tick h c hh
  | wait seconds => exact h.oblivious ((listens_wait n seconds).oblivious (unasked_wait n seconds))
  | stop => exact h.oblivious ((listens_raise n).oblivious (unasked_raise n))
  | signal s => exact h.congr rfl rfl rfl

theorem requests_acts (n : Node) (actions : List Action) :
    n.requests <:+ (n.acts actions).requests :=
  requests_of_grows ((trades_accounts n).kept.acts (.refl n) actions).grows

/-- Any number of actions keep tags and values together. -/
theorem coherent_acts (h : n.Coherent tag manner) (actions : List Action)
    (hh : Honest tag body (n.acts actions).requests) : (n.acts actions).Coherent tag manner := by
  induction actions generalizing n with
  | nil => exact h
  | cons a rest ih =>
      -- What was asked by then is among all that was asked, so the panel was honest by then.
      have hact : Honest tag body (n.act a).requests := hh.mono (requests_acts (n.act a) rest)
      exact ih (coherent_act h a hact) hh

/-! ### A start -/

theorem oblivious_attach (n : Node) : Oblivious n n.attach := by
  have hu : Unasked n n.attach := by
    unfold attach
    split
    · exact .refl n
    · exact ⟨rfl, rfl⟩
  exact ⟨hu, (manages_attach n).config, (manages_attach n).fetched⟩

/-- A launch that succeeds makes known what it was launched with. -/
theorem launch_learns {config : NodeConfig} {users : List User}
    (h : (n.launch config users).1 = .ok true) :
    Learns (some config) (some users) n (n.launch config users).2 := by
  have hnote : Oblivious n (if users.isEmpty then n.note .noUsers else n) := by
    split
    · exact oblivious_note n _
    · exact .refl n
  unfold launch at h ⊢
  dsimp only at h ⊢
  generalize (if users.isEmpty then n.note .noUsers else n) = m at hnote h ⊢
  cases hk : keyAll config.cipher.keyLength users with
  | error fault =>
      rw [hk] at h
      cases h
  | ok keyed =>
      rw [hk] at h
      dsimp only at h ⊢
      have hc := (operates_oblivious m).call (.start config keyed.values) (oblivious_attach m)
      rcases hcall : m.attach.call (.start config keyed.values) with ⟨_ | cause, k⟩
      · rw [hcall] at hc
        have hl : Learns (some config) (some users) k (k.launched config users keyed) :=
          ⟨⟨rfl, rfl⟩, rfl, rfl⟩
        exact ((hnote.trans hc).learns hl).then (oblivious_note _ _)
      · rw [hcall] at h
        cases h

/-- A start that succeeds launches the engine with what it has just fetched. -/
theorem start_launches (h : n.start.1 = .ok true) :
    ∃ config users p m k, p.client = n.client ∧ Answered configReader p (.ok config) m
      ∧ Answered userReader m (.ok users) k ∧ n.start = k.launch config users := by
  have hclient : { n with phase := .starting }.resume.2.client = n.client :=
    (unasked_resume _).client
  unfold start at h ⊢
  split at h
  · cases h
  · next p hp =>
    rw [hp] at hclient
    split at h
    · cases h
    · cases h
    · next config m hm =>
      split at h
      · cases h
      · cases h
      · next users k hk =>
        exact ⟨config, users, p, m, k, hclient, fetches_config.untilReady _ _ hm,
          fetches_users.untilReady _ _ hk, rfl⟩

/-- After a start that succeeds the tags are those of what was fetched. -/
theorem coherent_start (htags : ∀ e, n.client.tagFor e = none) (h : n.start.1 = .ok true)
    (hh : Honest tag body n.start.2.requests) : n.start.2.Coherent tag n.client.transport := by
  obtain ⟨config, users, p, m, k, hclient, hm, hk, hs⟩ := start_launches h
  have hl := launch_learns (hs ▸ h)
  rw [← hs] at hl
  have hhk : Honest tag body k.requests := hl.unasked.requests ▸ hh
  have hmanner : m.client.transport = n.client.transport := hm.transport.trans (by rw [hclient])
  -- Nothing is remembered before, so nothing is asked of what was known then.
  have hnoConfig : Known (tag .config) (configIn p.client.transport) (p.client.tagFor .config)
      (some config) := by
    rw [hclient, htags]
    exact known_none _ _ _
  have hnoUsers : Known (tag .users) usersIn (m.client.tagFor .users) (some users) := by
    rw [hm.tagFor_of_ne (e := .users) nofun, hclient, htags]
    exact known_none _ _ _
  obtain ⟨hconfig, -⟩ := hm.known (hhk.mono hk.grows) hnoConfig
  obtain ⟨husers, -⟩ := hk.known hhk hnoUsers
  refine ⟨?_, ?_, ?_⟩
  · rw [hl.unasked.client, hk.transport, hmanner]
  · rw [hl.unasked.client, hl.config, ← hclient]
    have hother : k.client.configTag = m.client.configTag :=
      hk.tagFor_of_ne (e := .config) nofun
    rw [hother]
    exact hconfig
  · rw [hl.unasked.client, hl.fetched]
    have hnext : userReader.next (some users) (.ok users) = some users := ite_self _
    exact hnext ▸ husers

/-- What a sync cycle knows after an answer is what the panel had when it answered, whatever went
wrong or changed before.  Let the panel be honest, with any bodies under its endpoints at any of its
answers.  Then, in every cycle after a start that succeeded: if the last request for the
configuration is answered "not modified", or shows a body of which a configuration can be read, the
node's configuration is the one read of the panel's body at that answer, and likewise the last list of
users. -/
theorem sync_coherent {n₀ n : Node} (h : n₀.IsNew) (htags : ∀ e, n₀.client.tagFor e = none)
    (hs : n₀.start.1 = .ok true) {actions : List Action} (hn : n = n₀.start.2.acts actions)
    (hh : Honest tag body n.sync.2.requests) :
    (∀ request turn earlier, n.configFetch.2.requests = (request, turn) :: earlier →
      turn.answer.tells (configIn n₀.client.transport) = true →
      n.sync.2.roster.config = configIn n₀.client.transport (body earlier.length .config))
    ∧ (n.refresh.1 = .ok () → ∀ request turn earlier,
      n.refresh.2.userFetch.2.requests = (request, turn) :: earlier →
      turn.answer.tells usersIn = true →
      n.sync.2.roster.fetched = usersIn (body earlier.length .users)) := by
  have hbusy : n.roster.busy = false := by
    have hb := ((lasts_start n₀).trans
      ((attends_lasts n₀.start.2).kept.acts ⟨rfl, rfl, fun hc => hc⟩ actions)).busy
    rw [← hn, h.roster] at hb
    exact hb
  have hsuffix : n.requests <:+ n.sync.2.requests :=
    requests_of_grows (syncs_sync n).counts.grows
  subst hn
  have hstart := coherent_start htags hs
    ((hh.mono hsuffix).mono (requests_acts n₀.start.2 actions))
  have hacts := coherent_acts hstart actions (hh.mono hsuffix)
  rcases sync_halves hbusy with ⟨ho, hno⟩ | ⟨ho, hok⟩
  · rw [ho.unasked.requests] at hh
    rw [ho.config]
    exact ⟨(coherent_refresh hacts hh).2, fun hok => absurd hok hno⟩
  · rw [ho.unasked.requests] at hh
    obtain ⟨hr, hconfig⟩ := coherent_refresh hacts (hh.mono (requests_syncUsers _))
    rw [ho.config, ho.fetched, (syncUsers_learns _).config]
    exact ⟨hconfig, fun _ => (coherent_syncUsers hr hh).2⟩

/-- The tags of the sample: a body with a mark before it. -/
def sampleTag (_ : Endpoint) (text : String) : String := "#" ++ text

/-- The configuration that the sample's panel has. -/
def sampleConfig : String :=
  "\x7b\"server_port\":8388,\"cipher\":\"2022-blake3-aes-128-gcm\",\"server_key\":\"k\"\x7d"

/-- A list with one user of this secret. -/
def sampleList (secret : String) : String :=
  "\x7b\"users\":[\x7b\"id\":1,\"uuid\":\"" ++ secret ++ "\"\x7d]\x7d"

/-- The bodies that the sample's panel has: its user gets another secret before the sixth request. -/
def sampleBody (k : Nat) : Endpoint → String
  | .users => if k < 5 then sampleList "0123456789abcdef" else sampleList "fedcba9876543210"
  | _ => sampleConfig

/-- An answer that shows a body under its tag. -/
def showing (text : String) : Turn :=
  { answer := .response { headers := [("ETag", sampleTag .config text)], text := text } }

/-- The sample with a panel that tells of changes only. -/
def sampleTagged : Node :=
  { sample with panel := {
      config := [showing sampleConfig, { answer := .response { status := 304 } }]
      users := [showing (sampleList "0123456789abcdef"),
        { answer := .response { status := 304 } }, showing (sampleList "fedcba9876543210")] } }

/-- In the second sync cycle after the start the configuration did not change and the list did. -/
theorem sync_coherent_sample :
    (sampleTagged.start.2.acts [.sync]).sync.2.roster.config = configIn {} sampleConfig
    ∧ (sampleTagged.start.2.acts [.sync]).sync.2.roster.fetched
      = usersIn (sampleList "fedcba9876543210") := by
  obtain ⟨hfits, hshown, hlisted, hlength⟩ :
      (∀ past ∈ (sampleTagged.start.2.acts [.sync]).sync.2.requests.tails,
        LastFits sampleTag sampleBody past)
      ∧ ((sampleTagged.start.2.acts [.sync]).configFetch.2.requests.head?.map fun x =>
          x.2.answer.tells (configIn {})) = some true
      ∧ ((sampleTagged.start.2.acts [.sync]).refresh.2.userFetch.2.requests.head?.map fun x =>
          x.2.answer.tells usersIn) = some true
      ∧ (sampleTagged.start.2.acts [.sync]).refresh.2.userFetch.2.requests.length = 6 := by
    decide +kernel
  have hhonest : Honest sampleTag sampleBody
      (sampleTagged.start.2.acts [.sync]).sync.2.requests := by
    refine ⟨fun e text h => ?_, fun e a b h => ?_, fun past hp => ?_⟩
    · simp [sampleTag] at h
    · simpa [sampleTag] using h
    · exact hfits past ((List.mem_tails _ _).mpr hp)
  have hnew : sampleTagged.IsNew := ⟨rfl, rfl, ⟨16, by decide, rfl⟩, rfl, rfl, rfl, rfl⟩
  obtain ⟨hconfig, husers⟩ := sync_coherent hnew (fun e => by cases e <;> rfl) (by decide +kernel)
    rfl hhonest
  constructor
  · rcases hr : (sampleTagged.start.2.acts [.sync]).configFetch.2.requests with
      _ | ⟨⟨request, turn⟩, earlier⟩
    · rw [hr] at hshown
      cases hshown
    · rw [hr] at hshown
      exact hconfig request turn earlier hr (Option.some.inj hshown)
  · rcases hr : (sampleTagged.start.2.acts [.sync]).refresh.2.userFetch.2.requests with
      _ | ⟨⟨request, turn⟩, earlier⟩
    · rw [hr] at hlength
      cases hlength
    · rw [hr] at hlisted hlength
      have hfive : earlier.length = 5 := Nat.succ.inj hlength
      have hlast := husers (by decide +kernel) request turn earlier hr (Option.some.inj hlisted)
      rw [hfive] at hlast
      exact hlast

end ProxyNode.Node
