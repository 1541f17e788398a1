import ProxyNode.Proofs.Node.Report
import ProxyNode.Proofs.Node.Steps

/-!
# Node — Shutdown, by its outcome

What a shutdown can do.  The cycles under way come to their end, the engine is stopped, and one last
report is made; what it leaves in the counters is drained for the spool.

* `retire_cases`: what is drained is spooled or dropped.
* `exists_acts_of_closing`: the cycles under way are a sequence of actions.
* `finalFlush_cases`: a last report that breaks off leaves the rest to no one.
* `shutdown_cases`: a shutdown comes to its last report, unless there was one before.
* `finalFlush_induction`, `shutdown_induction`: what the parts of each keep, the whole keeps.
-/

namespace ProxyNode.Node

/-- What is drained is spooled or dropped. -/
theorem retire_cases (n : Node) (s : Snapshot) :
    (n.ledger.spool = none
      ∧ n.retire s = (n.log (.retired s)).noteSums s (.dropped s.size s.up s.down false))
    ∨ ∃ spool, n.ledger.spool = some spool
      ∧ ((spool.save s).1 = .ok ()
          ∧ n.retire s = (.ok (), (n.log (.retired s)).spooled (spool.save s).2)
        ∨ ∃ fault, (spool.save s).1 = .error fault
          ∧ n.retire s = (((n.log (.retired s)).spooled (spool.save s).2).note
            (.spoolFailed fault)).noteSums s (.dropped s.size s.up s.down true)) := by
  cases hs : n.ledger.spool with
  | none =>
      refine .inl ⟨rfl, ?_⟩
      have hl : (n.log (.retired s)).ledger.spool = none := hs
      rw [retire, hl]
  | some spool =>
      refine .inr ⟨spool, rfl, ?_⟩
      have hl : (n.log (.retired s)).ledger.spool = some spool := hs
      rw [retire, hl]
      rcases hc : spool.save s with ⟨fault | u, k⟩
      · exact .inr ⟨fault, rfl, by dsimp only; rw [hc]⟩
      · exact .inl ⟨rfl, by dsimp only; rw [hc]⟩

/-- A last report that breaks off leaves the rest to no one; otherwise what is left in the counters
is drained. -/
theorem finalFlush_cases (n : Node) :
    (∃ fault, (n.report (some n.plan.finalReportTimeout) .once).1 = .error fault
      ∧ n.finalFlush = (.error fault, (n.report (some n.plan.finalReportTimeout) .once).2))
    ∨ ∃ ok m, n.report (some n.plan.finalReportTimeout) .once = (.ok ok, m)
      ∧ ∃ k, (k = m ∨ k = m.note .finalReportFailed)
        ∧ (k.drain.1.isEmpty = true ∧ n.finalFlush = (.ok (), k.drain.2)
          ∨ k.drain.1.isEmpty = false ∧ n.finalFlush = k.drain.2.retire k.drain.1) := by
  unfold finalFlush
  split
  · next fault m hm => exact .inl ⟨fault, by rw [hm], by rw [hm]⟩
  · next ok m hm =>
    refine .inr ⟨ok, m, hm, if ok then m else m.note .finalReportFailed, ?_, ?_⟩
    · cases ok
      · exact .inr rfl
      · exact .inl rfl
    · dsimp only
      generalize (if ok = true then m else m.note .finalReportFailed) = k
      split
      · next he => exact .inl ⟨he, rfl⟩
      · next he => exact .inr ⟨Bool.eq_false_iff.mpr he, rfl⟩

/-- What holds after a last report, however it ends: `P` is kept up to the moment at which the
counters are drained, and `Q` holds from then on. -/
theorem finalFlush_induction {P Q : Node → Prop} {n : Node}
    (hreport : P (n.report (some n.plan.finalReportTimeout) .once).2)
    (hnote : ∀ {m}, P m → P (m.note .finalReportFailed))
    (hbroken : ∀ {m}, P m → Q m)
    (hnothing : ∀ {k}, P k → k.drain.1.isEmpty = true → Q k.drain.2)
    (hretire : ∀ {k}, P k → Q (k.drain.2.retire k.drain.1).2) : Q n.finalFlush.2 := by
  rcases finalFlush_cases n with ⟨fault, -, hf⟩ | ⟨ok, m, hm, k, hk, hd⟩
  · rw [hf]
    exact hbroken hreport
  · rw [hm] at hreport
    have hkept : P k := by
      rcases hk with rfl | rfl
      · exact hreport
      · exact hnote hreport
    rcases hd with ⟨he, hf⟩ | ⟨-, hf⟩
    · rw [hf]
      exact hnothing hkept he
    · rw [hf]
      exact hretire hkept

theorem keepsRoster_retire (n : Node) (s : Snapshot) : KeepsRoster n (n.retire s).2 := by
  have hl : KeepsRoster n (n.log (.retired s)) := ⟨rfl, rfl, rfl, rfl, rfl, rfl⟩
  rcases retire_cases n s with ⟨-, h⟩ | ⟨spool, -, ⟨-, h⟩ | ⟨fault, -, h⟩⟩
  · rw [h]
    exact hl.trans (keepsRoster_noteSums _ _ _)
  · rw [h]
    exact ⟨rfl, rfl, rfl, rfl, rfl, rfl⟩
  · rw [h]
    have hn : KeepsRoster n (((n.log (.retired s)).spooled (spool.save s).2).note
        (.spoolFailed fault)) := ⟨rfl, rfl, rfl, rfl, rfl, rfl⟩
    exact hn.trans (keepsRoster_noteSums _ _ _)

/-- A last report does nothing to the users and the engine. -/
theorem keepsRoster_finalFlush (n : Node) : KeepsRoster n n.finalFlush.2 := by
  have hdrain {k : Node} (hk : KeepsRoster n k) : KeepsRoster n k.drain.2 :=
    hk.trans (keepsRoster_ledger k _)
  refine finalFlush_induction (P := KeepsRoster n) (keepsRoster_report n _ .once) ?_ id ?_ ?_
  · exact fun hm => hm.trans ⟨rfl, rfl, rfl, rfl, rfl, rfl⟩
  · exact fun hk _ => hdrain hk
  · exact fun hk => (hdrain hk).trans (keepsRoster_retire _ _)

/-- The node when all cycles under way have come to their end. -/
def closing (n : Node) (inFlight : List Cycle) : Node :=
  (({ n with phase := .stopping }.raise).note .shuttingDown).beside
    fun n => inFlight.foldl (fun n c => (n.tick c).2) n

/-- The cycles under way are a sequence of actions. -/
theorem exists_acts_of_closing (n : Node) (inFlight : List Cycle) :
    ∃ l, n.closing inFlight
      = (({ n with phase := .stopping }.raise).note .shuttingDown).acts l := by
  have hticks (m : Node) : inFlight.foldl (fun n c => (n.tick c).2) m
      = m.acts (inFlight.map Action.tick) := by
    rw [acts, List.foldl_map]
    rfl
  generalize hm : ({ n with phase := .stopping }.raise).note .shuttingDown = m
  have hs (k : Node) (stop : StopSignal) : { k with stop := stop } = k.acts [.signal stop] := rfl
  rw [closing, hm, beside, hticks, hs, hs, ← acts_append, ← acts_append]
  exact ⟨_, rfl⟩

/-- A shutdown comes to its last report, unless there was one before. -/
theorem shutdown_cases (n : Node) (inFlight : List Cycle) :
    ((n.phase = .stopping ∨ n.phase = .stopped) ∧ n.shutdown inFlight = (.ok (), n))
    ∨ ¬ (n.phase = .stopping ∨ n.phase = .stopped)
      ∧ ((∃ fault m, (n.closing inFlight).stopEngine.finalFlush = (.error fault, m)
          ∧ n.shutdown inFlight = (.error fault, m))
        ∨ ∃ m, (n.closing inFlight).stopEngine.finalFlush = (.ok (), m)
          ∧ n.shutdown inFlight
            = (.ok (), Node.note { m with
              phase := if n.phase = .failed then .failed else .stopped } .shutDown)) := by
  by_cases hp : n.phase = .stopping ∨ n.phase = .stopped
  · exact .inl ⟨hp, by rw [shutdown, if_pos hp]⟩
  · refine .inr ⟨hp, ?_⟩
    rw [shutdown, if_neg hp]
    dsimp only
    rw [← closing]
    rcases (n.closing inFlight).stopEngine.finalFlush with ⟨fault | u, m⟩
    · exact .inl ⟨fault, m, rfl, rfl⟩
    · exact .inr ⟨m, rfl, rfl⟩

/-- What holds after a last report holds after a shutdown, if its end keeps it. -/
theorem shutdown_induction {P : Node → Prop} {n : Node} {inFlight : List Cycle} (h : P n)
    (hflush : P (n.closing inFlight).stopEngine.finalFlush.2)
    (hend : ∀ {m} phase, P m → P (Node.note { m with phase := phase } .shutDown)) :
    P (n.shutdown inFlight).2 := by
  rcases shutdown_cases n inFlight with ⟨-, hs⟩ | ⟨-, ⟨fault, m, hm, hs⟩ | ⟨m, hm, hs⟩⟩
  · rw [hs]
    exact h
  · rw [hm] at hflush
    rw [hs]
    exact hflush
  · rw [hm] at hflush
    rw [hs]
    exact hend _ hflush

end ProxyNode.Node
