import ProxyNode.Proofs.Node.Convergence
import ProxyNode.Proofs.Node.Passes
import ProxyNode.Proofs.Node.Requests
import ProxyNode.Proofs.Panel.Tags

/-!
# Node — Fetches, by their last answer

A fetch may ask more than once.  What it returns, and what the client remembers after it, is what the
client makes of the last answer, unless a pause before another attempt cannot be made.

* `Answered`: a result and a node, as the last answer left them.
* `Fetched`: what comes of a fetch, with the way out for want of a pause.
* `Fetches.retrying`, `Fetches.untilReady`: fetches that are tried again.
* `adopt_learns`, `useUsers_learns`: what a node does with what it fetched asks nothing.
* `refresh_learns`, `syncUsers_learns`: what each half of a sync cycle leaves known.
-/

namespace ProxyNode.Node

open Panel

variable {α : Type} {R : Reader α} {n n' m m' : Node} {r : Except Fault α}

theorem requests_of_grows (h : Grows n n') : n.requests <:+ n'.requests := h.filterMap _

/-- The result `r` and the node `m` are as the last answer to a request of `n` left them. -/
def Answered (R : Reader α) (n : Node) (r : Except Fault α) (m : Node) : Prop :=
  ∃ turn earlier, m.requests = (n.client.request R.endpoint none none, turn) :: earlier
    ∧ n.requests <:+ earlier ∧ R.accept n.client turn.answer = (r, m.client)

/-- What comes of a fetch that begins with `n`: what the last answer left, or, if that was a fault
that another attempt might have mended, the refusal of the clock to pause for as long as it takes. -/
inductive Fetched (R : Reader α) (n : Node) (policy : Retry) : Except Fault α → Node → Prop
  | answered {r : Except Fault α} {m : Node} : Answered R n r m → Fetched R n policy r m
  | unpaused {fault : Fault} {cause : Unexpected} {seconds : Float} {m : Node} :
      fault.isTransient = true → Answered R n (.error fault) m → seconds ∈ policy.delays →
      n.clock.refuses seconds = some cause → m.stop.raised = false →
      Fetched R n policy (.error (.unexpected cause)) m

/-- A single request, of which the result is what the client makes of the answer. -/
structure Fetches (R : Reader α) (fetch : Node → Except Fault α × Node) : Prop where
  asks : ∀ n, (fetch n).2.requests
    = (n.client.request R.endpoint none none, (n.panel.next R.endpoint).1) :: n.requests
  accepts : ∀ n, R.accept n.client (n.panel.next R.endpoint).1.answer
    = ((fetch n).1, (fetch n).2.client)
  fixed : ∀ n, Fixed n (fetch n).2

namespace Answered

theorem unasked (h : Answered R n r m) (hu : Unasked m m') : Answered R n r m' := by
  obtain ⟨turn, earlier, hm, hs, ha⟩ := h
  exact ⟨turn, earlier, hu.requests.trans hm, hs, hu.client ▸ ha⟩

/-- What was asked before does not matter while the client remembers the same. -/
theorem of_client (h : Answered R n' r m) (hc : n'.client = n.client)
    (hs : n.requests <:+ n'.requests) : Answered R n r m := by
  obtain ⟨turn, earlier, hm, hs', ha⟩ := h
  exact ⟨turn, earlier, hc ▸ hm, hs.trans hs', hc ▸ ha⟩

theorem grows (h : Answered R n r m) : n.requests <:+ m.requests := by
  obtain ⟨turn, earlier, hm, hs, -⟩ := h
  exact hm ▸ hs.trans (List.suffix_cons _ _)

/-- A fault leaves the client as it was. -/
theorem client {fault : Fault} (h : Answered R n (.error fault) m) : m.client = n.client := by
  obtain ⟨turn, earlier, -, -, ha⟩ := h
  have hk := R.keeps (congrArg Prod.fst ha)
  exact (congrArg Prod.snd ha).symm.trans hk

end Answered

theorem Fetched.answered_of_ok {policy : Retry} {a : α} (h : Fetched R n policy (.ok a) m) :
    Answered R n (.ok a) m := by
  cases h with
  | answered ha => exact ha

theorem Fetched.answered_of_transient {policy : Retry} {fault : Fault}
    (h : Fetched R n policy (.error fault) m) (ht : fault.isTransient = true) :
    Answered R n (.error fault) m := by
  cases h with
  | answered ha => exact ha
  | unpaused => cases ht

/-- Whatever comes of a fetch, there was a last answer; if it is not what comes of the fetch, neither
of the two is a value. -/
theorem Fetched.exists_answered {policy : Retry} (h : Fetched R n policy r m) :
    ∃ r', Answered R n r' m ∧ ∀ old, R.next old r = R.next old r' := by
  cases h with
  | answered ha => exact ⟨r, ha, fun _ => rfl⟩
  | unpaused _ ha => exact ⟨_, ha, fun _ => rfl⟩

namespace Fetches

variable {fetch : Node → Except Fault α × Node}

theorem fixed_retrying (hf : Fetches R fetch) (n : Node) (policy : Retry) (errand : String) :
    Fixed n (n.retrying policy errand fetch).2 :=
  (passes_fixed n).retrying (fun {m} h => h.trans (hf.fixed m)) (.refl n) policy errand

theorem retrying (hf : Fetches R fetch) (n : Node) (policy : Retry) (errand : String) :
    Fetched R n policy (n.retrying policy errand fetch).1 (n.retrying policy errand fetch).2 := by
  have hspec : Fetched R n policy (n.retrying policy errand fetch).1
        (n.retrying policy errand fetch).2
      ∧ Fixed n (n.retrying policy errand fetch).2 := by
    refine Retry.run_spec
      (P := fun m => (m.client = n.client ∧ n.requests <:+ m.requests) ∧ Fixed n m)
      (Q := fun r m => Fetched R n policy r m ∧ Fixed n m) ?_ ?_ ?_
      ⟨⟨rfl, List.suffix_refl _⟩, .refl n⟩
    · rintro m ⟨⟨hc, hs⟩, hm⟩
      have ha : Answered R m (fetch m).1 (fetch m).2 :=
        ⟨_, m.requests, hf.asks m, List.suffix_refl _, hf.accepts m⟩
      exact ⟨.answered (ha.of_client hc hs), hm.trans (hf.fixed m)⟩
    · -- A fault left the client as it was, so the next attempt sends the same request.
      rintro fault delay m he ⟨⟨ha⟩ | _, hm⟩
      · have hn := ha.unasked (unasked_note m (.retrying errand fault delay))
        have hp : Answered R n (.error fault) _ :=
          waitFor_keeps hn (hn.unasked (unasked_wait _ delay))
        have hsame : Fixed n (m.note (.retrying errand fault delay)) := hm.trans ⟨rfl, rfl⟩
        have hfixed : Fixed n _ := waitFor_keeps hsame (hsame.trans (fixed_wait _ delay))
        exact ⟨⟨⟨hp.client, hp.grows⟩, hfixed⟩, .answered hp, hfixed⟩
      · cases he
    · rintro fault delay hd m refused k he ⟨⟨ha⟩ | _, hm⟩ hk
      · obtain ⟨rfl, hs, cause, hc, rfl⟩ := eq_of_waitUnless_error hk
        have hclock : (m.note (.retrying errand fault delay)).clock = n.clock := hm.clock
        exact ⟨.unpaused he (ha.unasked (unasked_note m _)) hd (hclock ▸ hc) hs,
          hm.trans ⟨rfl, rfl⟩⟩
      · cases he
  exact hspec.1

/-- A start asks again and again until there is something to use. -/
theorem untilReady (hf : Fetches R fetch) (errand : String) (rounds : Nat) {a : α}
    (h : Node.untilReady errand fetch rounds n = (.ok (some a), m)) :
    Answered R n (.ok a) m := by
  induction rounds generalizing n with
  | zero => cases h
  | succ rounds ih =>
      have hr := hf.retrying n n.plan.retry errand
      unfold Node.untilReady at h
      split at h
      · cases h
      · split at h
        · next b k hk =>
          rw [hk] at hr
          cases h
          exact hr.answered_of_ok
        · next fault k hk =>
          rw [hk] at hr
          split at h
          · next ht =>
            have hn := (hr.answered_of_transient ht).unasked (unasked_note k (.notReady errand fault))
            have hw : Answered R n (.error fault) _ := waitFor_keeps hn
              (hn.unasked (unasked_wait _ (startPause k.plan.retry)))
            split at h
            · cases h
            · next stopped l hl =>
              rw [hl] at hw
              exact (ih h).of_client hw.client hw.grows
          · cases h

end Fetches

theorem fetches_config : Fetches configReader fetchConfig where
  fixed n := (passes_fixed n).pulls.fetchConfig (.refl n)
  asks n := requests_ask n .config none none
  accepts n := by
    have hc := client_ask n .config none none
    show n.client.acceptConfig (n.panel.next .config).1.answer
      = (((n.ask .config none none).2.client.acceptConfig (n.ask .config none none).1).1,
        ((n.ask .config none none).2.client.acceptConfig (n.ask .config none none).1).2)
    rw [hc]
    rfl

/-- Once there is an answer with users, no more is done than to note what is passed over. -/
theorem unasked_fetchUsers (n : Node) :
    Unasked { (n.ask .users none none).2 with
        client := ((n.ask .users none none).2.client.acceptUsers (n.ask .users none none).1).2 }
      n.fetchUsers.2 :=
  Unasked.foldl (fun n item => unasked_note n (.malformedUser item)) _ _

theorem fetches_users : Fetches userReader fetchUsers where
  fixed n := (passes_fixed n).pulls.fetchUsers (.refl n)
  asks n := (unasked_fetchUsers n).requests.trans (requests_ask n .users none none)
  accepts n := by
    have hc := client_ask n .users none none
    refine Prod.ext ?_ (Eq.trans ?_ (unasked_fetchUsers n).client.symm)
    · show (n.client.acceptUsers (n.panel.next .users).1.answer).1.users
        = ((n.ask .users none none).2.client.acceptUsers (n.ask .users none none).1).1.users
      rw [hc]
      rfl
    · show (n.client.acceptUsers (n.panel.next .users).1.answer).2
        = ((n.ask .users none none).2.client.acceptUsers (n.ask .users none none).1).2
      rw [hc]
      rfl

/-! ### What is made of what was fetched -/

/-- From `n` to `n'` nothing was asked, and what is known did not change. -/
structure Oblivious (n n' : Node) : Prop where
  unasked : Unasked n n'
  config : n'.roster.config = n.roster.config
  fetched : n'.roster.fetched = n.roster.fetched

theorem Oblivious.refl (n : Node) : Oblivious n n := ⟨.refl n, rfl, rfl⟩

theorem Oblivious.trans {n₁ n₂ n₃ : Node} (h : Oblivious n₁ n₂) (h' : Oblivious n₂ n₃) :
    Oblivious n₁ n₃ :=
  ⟨h.unasked.trans h'.unasked, h'.config.trans h.config, h'.fetched.trans h.fetched⟩

theorem oblivious_note (n : Node) (notice : Notice) : Oblivious n (n.note notice) :=
  ⟨unasked_note n notice, rfl, rfl⟩

theorem operates_oblivious (n : Node) : Operates (Oblivious n) where
  note notice _ h := h.trans (oblivious_note _ notice)
  call {m} c h := h.trans ⟨unasked_call m c, (manages_call m c).config, (manages_call m c).fetched⟩
  roster _ hc hf _ h := h.trans ⟨⟨rfl, rfl⟩, hc, hf⟩

/-- From `n` to `n'` nothing was asked, and what is known became this. -/
structure Learns (config : Option NodeConfig) (fetched : Option (List User)) (n n' : Node) :
    Prop where
  unasked : Unasked n n'
  config : n'.roster.config = config
  fetched : n'.roster.fetched = fetched

section Learning

variable {config : Option NodeConfig} {fetched : Option (List User)} {n₁ n₂ n₃ : Node}

theorem Learns.then (h : Learns config fetched n₁ n₂) (h' : Oblivious n₂ n₃) :
    Learns config fetched n₁ n₃ :=
  ⟨h.unasked.trans h'.unasked, h'.config.trans h.config, h'.fetched.trans h.fetched⟩

theorem Oblivious.learns (h : Oblivious n₁ n₂) (h' : Learns config fetched n₂ n₃) :
    Learns config fetched n₁ n₃ :=
  ⟨h.unasked.trans h'.unasked, h'.config, h'.fetched⟩

end Learning

theorem configured_learns (n : Node) (config : NodeConfig) :
    Learns (some config) n.roster.fetched n (n.configured config) :=
  ⟨⟨rfl, rfl⟩, rfl, rfl⟩

theorem restart_learns (n : Node) (config : NodeConfig) :
    Learns (some config) n.roster.fetched n (n.restart config).2 := by
  have hn := oblivious_note n (.configChanged config.port config.cipher)
  have hs := (operates_oblivious n).stopEngine hn
  have hc := hs.learns (configured_learns _ config)
  rw [hs.fetched] at hc
  have hk := hc.then ((operates_oblivious _).keyUsers (.refl _) config n.roster.applied.values)
  unfold restart
  dsimp only
  split
  · next fault m hm => rw [hm] at hk; exact hk
  · next keyed m hm =>
    rw [hm] at hk
    exact hk.then ((operates_oblivious m).startEngine (.refl m) config keyed)

/-- A configuration that is taken on is the one that is known. -/
theorem adopt_learns (n : Node) (config : NodeConfig) :
    Learns (some config) n.roster.fetched n (n.adopt config).2 := by
  unfold adopt
  split
  · exact restart_learns n config
  · split
    · exact restart_learns n config
    · exact configured_learns n config

/-- A list that is gone on with is the one that is known, if it lists anyone. -/
theorem useUsers_learns (n : Node) (users : List User) :
    Learns n.roster.config (userReader.next n.roster.fetched (.ok users)) n
      (n.useUsers users).2 := by
  unfold useUsers
  cases users with
  | nil => exact ⟨⟨rfl, rfl⟩, rfl, rfl⟩
  | cons u us =>
      have hk : Learns n.roster.config (some (u :: us)) n (n.knowing (u :: us)) :=
        ⟨⟨rfl, rfl⟩, rfl, rfl⟩
      dsimp only
      rw [if_neg (by simp)]
      split
      · exact hk
      · exact hk.then ((operates_oblivious _).reconcile (.refl _) _ (u :: us))

theorem refresh_learns (n : Node) :
    Learns (configReader.next n.roster.config n.configFetch.1) n.roster.fetched n.configFetch.2
      n.refresh.2 := by
  have hroster := (listens_configFetch n).keeps.roster
  unfold refresh
  rw [configFetch] at hroster ⊢
  split
  · next config m hm =>
    rw [hm] at hroster ⊢
    have ha := adopt_learns m config
    rw [hroster] at ha
    exact ha
  · next what m hm =>
    rw [hm] at hroster ⊢
    exact ⟨unasked_note m _, congrArg Roster.config hroster, congrArg Roster.fetched hroster⟩
  · next fault m _ hm =>
    rw [hm] at hroster ⊢
    have hstill : Learns n.roster.config n.roster.fetched m m :=
      ⟨.refl m, congrArg Roster.config hroster, congrArg Roster.fetched hroster⟩
    split
    · exact hstill.then (oblivious_note m _)
    · split
      · exact hstill.then (oblivious_note m _)
      · exact hstill

theorem syncUsers_learns (n : Node) :
    Learns n.roster.config (userReader.next n.roster.fetched n.userFetch.1) n.userFetch.2
      n.syncUsers.2 := by
  have hroster := (listens_userFetch n).keeps.roster
  unfold syncUsers
  rw [userFetch] at hroster ⊢
  split
  · next users m hm =>
    rw [hm] at hroster ⊢
    have hu := useUsers_learns m users
    rw [hroster] at hu
    exact hu
  · next what m hm =>
    rw [hm] at hroster ⊢
    split
    · exact ⟨.refl m, congrArg Roster.config hroster, congrArg Roster.fetched hroster⟩
    · next users hf =>
      -- The list that is known is gone on with, so it is known afterwards.
      have hu := useUsers_learns m users
      have hsame : userReader.next m.roster.fetched (.ok users) = n.roster.fetched := by
        rw [← hroster, hf, Reader.next, ite_self]
      rw [hsame, hroster] at hu
      exact hu
  · next fault m _ hm =>
    rw [hm] at hroster ⊢
    have hstill : Learns n.roster.config n.roster.fetched m m :=
      ⟨.refl m, congrArg Roster.config hroster, congrArg Roster.fetched hroster⟩
    split
    · exact (hstill.then (oblivious_note m _)).then ((operates_oblivious _).synced (.refl _) _ _)
    · exact hstill

theorem oblivious_syncFailed (n : Node) (fault : Fault) : Oblivious n (n.syncFailed fault) := by
  unfold syncFailed
  split
  · exact (operates_oblivious n).synced (.refl n) _ _
  · exact .refl n

/-- A sync cycle refreshes the configuration, and goes on with the users if nothing prevents it. -/
theorem sync_halves {n : Node} (hidle : n.roster.busy = false) :
    Oblivious n.refresh.2 n.sync.2 ∧ n.refresh.1 ≠ .ok ()
    ∨ Oblivious n.refresh.2.syncUsers.2 n.sync.2 ∧ n.refresh.1 = .ok () := by
  unfold sync
  rw [if_neg (Bool.eq_false_iff.mp hidle)]
  split
  · next fault m hm =>
    rw [hm]
    exact .inl ⟨oblivious_syncFailed m fault, nofun⟩
  · next m hm =>
    rw [hm]
    refine .inr ⟨?_, rfl⟩
    split
    · next fault k hk =>
      rw [hk]
      exact oblivious_syncFailed k fault
    · next ok k hk =>
      rw [hk]
      exact .refl k

end ProxyNode.Node
