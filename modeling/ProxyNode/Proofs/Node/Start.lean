import ProxyNode.Node.Life
import ProxyNode.Proofs.Node.Report

/-!
# Node — Start, by its outcome

What a start can do.  It takes in what the spool holds, asks until it has a configuration and users
or is to stop, which does no more than count, and launches the engine.

* `resume_cases`: a start takes in what the spool holds, or finds nothing there.
* `listens_untilReady`: asking for what a start needs does no more than count.
* `launch_cases`: the launch is off for a user without a key, refused by the engine, or done.
* `start_cases`: the outcomes of a start, with the node that each leaves.
-/

namespace ProxyNode.Node

/-- The node that has taken in what its spool holds. -/
def owing (n : Node) (pending : Snapshot) : Node :=
  Node.log { n.restore pending with ledger := { (n.restore pending).ledger with owed := true } }
    (.resumed pending)

/-- A start takes in what the spool holds, or finds nothing there. -/
theorem resume_cases (n : Node) :
    (n.resume.2 = n ∧ ∀ spool pending, n.ledger.spool = some spool → spool.peek = .ok pending →
      pending.isEmpty = true)
    ∨ ∃ spool pending, n.ledger.spool = some spool ∧ spool.peek = .ok pending
      ∧ pending.isEmpty = false
      ∧ n.resume = (n.owing pending).noteSums pending
        (.spoolRestored pending.size pending.up pending.down) := by
  unfold resume
  cases hs : n.ledger.spool with
  | none => exact .inl ⟨rfl, nofun⟩
  | some spool =>
      dsimp only
      cases hp : spool.peek with
      | error fault =>
          refine .inl ⟨rfl, fun spool' pending hs' hp' => ?_⟩
          cases hs'
          rw [hp] at hp'
          cases hp'
      | ok pending =>
          dsimp only
          by_cases he : pending.isEmpty = true
          · refine .inl ⟨by rw [if_pos he], fun spool' pending' hs' hp' => ?_⟩
            cases hs'
            rw [hp] at hp'
            cases hp'
            exact he
          · exact .inr ⟨spool, pending, rfl, hp, Bool.eq_false_iff.mpr he, if_neg he⟩

/-- What a start takes in from the spool does nothing to the users and the engine. -/
theorem keepsRoster_resume (n : Node) : KeepsRoster n n.resume.2 := by
  rcases resume_cases n with ⟨hr, -⟩ | ⟨spool, pending, -, -, -, hr⟩
  · rw [hr]
    exact .refl n
  · rw [hr]
    have ho : KeepsRoster n (n.owing pending) := ⟨rfl, rfl, rfl, rfl, rfl, rfl⟩
    exact ho.trans (keepsRoster_noteSums _ _ _)

/-- Asking for what a start needs does no more than count. -/
theorem listens_untilReady {α : Type} {fetch : Node → Except Fault α × Node}
    (hf : ∀ n, Listens n (fetch n).2) (errand : String) (rounds : Nat) (n : Node) :
    Listens n (untilReady errand fetch rounds n).2 := by
  induction rounds generalizing n with
  | zero => exact .refl n
  | succ rounds ih =>
      have hr := listens_retrying hf n n.plan.retry errand
      unfold untilReady
      split
      · exact .refl n
      · split
        · next a m hm =>
          rw [hm] at hr
          exact hr
        · next fault m hm =>
          rw [hm] at hr
          split
          · have hn := hr.trans (listens_note m (.notReady errand fault))
            have hw := waitFor_keeps hn (hn.trans (listens_wait _ (startPause m.plan.retry)))
            split
            · next refused k hk => rw [hk] at hw; exact hw
            · next stopped k hk => rw [hk] at hw; exact hw.trans (ih k)
          · exact hr

/-- The node that has been started. -/
def launched (n : Node) (config : NodeConfig) (users : List User) (keyed : OrderedMap Int User) :
    Node :=
  { n with
    roster := { n.roster with
      config := some config
      applied := keyed
      fetched := some users
      handle := n.engine.latest }
    phase := .running }

/-- The launch is off for a user without a key, refused by the engine, or done. -/
theorem launch_cases (n : Node) (config : NodeConfig) (users : List User) :
    ∃ m, Listens n m ∧
      ((∃ fault, keyAll config.cipher.keyLength users = .error fault
          ∧ n.launch config users = m.startFault fault)
        ∨ ∃ keyed, keyAll config.cipher.keyLength users = .ok keyed
          ∧ ((∃ cause after, m.attach.call (.start config keyed.values) = (some cause, after)
              ∧ n.launch config users = (.error (.engine cause), after.fail (.engine cause)))
            ∨ ∃ after notice, m.attach.call (.start config keyed.values) = (none, after)
              ∧ notice.isSpoolFault = false
              ∧ n.launch config users
                = (.ok true, (after.launched config users keyed).note notice))) := by
  refine ⟨if users.isEmpty then n.note .noUsers else n, ?_, ?_⟩
  · split
    · exact listens_note n .noUsers
    · exact .refl n
  · unfold launch
    dsimp only
    generalize (if users.isEmpty = true then n.note .noUsers else n) = m
    cases hk : keyAll config.cipher.keyLength users with
    | error fault => exact .inl ⟨fault, rfl, rfl⟩
    | ok keyed =>
        refine .inr ⟨keyed, rfl, ?_⟩
        dsimp only
        rcases hc : m.attach.call (.start config keyed.values) with ⟨_ | cause, k⟩
        · exact .inr ⟨k, _, rfl, rfl, rfl⟩
        · exact .inl ⟨cause, k, rfl, rfl⟩

/-- The outcomes of a start, with the node that each leaves. -/
theorem start_cases (n : Node) :
    (∃ fault, { n with phase := .starting }.resume.1 = .error fault
      ∧ n.start = (.error fault, { n with phase := .starting }.resume.2))
    ∨ ({ n with phase := .starting }.resume.1 = .ok ()
      ∧ ∃ m, Listens { n with phase := .starting }.resume.2 m
        ∧ ((∃ fault, n.start = m.startFault fault) ∨ n.start = (.ok false, m)
          ∨ ∃ config users, n.start = m.launch config users)) := by
  unfold start
  split
  · next fault m hm => exact .inl ⟨fault, by rw [hm], by rw [hm]⟩
  · next m hm =>
    refine .inr ⟨by rw [hm], ?_⟩
    rw [hm]
    have hc := listens_untilReady listens_fetchConfig Panel.Endpoint.config.errand
      (m.stop.patience + 1) m
    split
    · next fault k hk =>
      rw [ready] at hk
      rw [hk] at hc
      exact ⟨k, hc, .inl ⟨fault, rfl⟩⟩
    · next k hk =>
      rw [ready] at hk
      rw [hk] at hc
      exact ⟨k, hc, .inr (.inl rfl)⟩
    · next config k hk =>
      rw [ready] at hk
      rw [hk] at hc
      have hu := hc.trans (listens_untilReady listens_fetchUsers Panel.Endpoint.users.errand
        (k.stop.patience + 1) k)
      split
      · next fault l hl =>
        rw [ready] at hl
        rw [hl] at hu
        exact ⟨l, hu, .inl ⟨fault, rfl⟩⟩
      · next l hl =>
        rw [ready] at hl
        rw [hl] at hu
        exact ⟨l, hu, .inr (.inl rfl)⟩
      · next users l hl =>
        rw [ready] at hl
        rw [hl] at hu
        exact ⟨l, hu, .inr (.inr ⟨config, users, rfl⟩)⟩

end ProxyNode.Node
