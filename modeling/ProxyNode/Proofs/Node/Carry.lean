import ProxyNode.Proofs.Node.Conservation
import ProxyNode.Proofs.Traffic.Spool

/-!
# Node — Carry, from one start to the next shutdown

As long as no write to its spool fails, a node that took rows in from the spool either owes them
still, and then nothing has been acknowledged, or the spool is empty (`Carries`).

* `SpoolFailed`: whether a write failed, which is never forgotten (`SpoolFailed.grows`).
* `Carries.counts`, `Carries.report`, `Carries.accounts`: what a running node does keeps it so.
* `Carries.start`: a start on a spool that can be read makes it so, however the start ends.
-/

namespace ProxyNode.Node

/-- Whether a write to the spool has failed. -/
def SpoolFailed (n : Node) : Prop := ∃ e ∈ n.journal, e.isSpoolFault = true

instance (n : Node) : Decidable n.SpoolFailed :=
  inferInstanceAs (Decidable (∃ e ∈ n.journal, e.isSpoolFault = true))

theorem Delivers.grows {s : Snapshot} {n n' : Node} (h : Delivers s n n') : Grows n n' := by
  obtain ⟨before, request, turn, panel, hb, -, -, ha⟩ := h
  have hs : Grows before { before.log (.asked request turn) with panel := panel } :=
    .of_log (e := .asked request turn) rfl
  exact (hb.counts.grows.trans hs).trans ha.counts.grows

theorem SpoolFailed.grows {n n' : Node} (h : n.SpoolFailed) (hg : Grows n n') :
    n'.SpoolFailed := by
  obtain ⟨e, hm, hf⟩ := h
  exact ⟨e, hg.mem hm, hf⟩

/-- The spool's rows `rows` are owed and, unless `paid`, nothing has been acknowledged, or the spool
is empty.  No count is negative, and nothing has been drained for the spool. -/
structure Holds (rows : Snapshot) (paid : Bool) (n : Node) : Prop where
  placed : n.ledger.accumulator.Placed
  nonneg : ∀ id, 0 ≤ n.ledger.accumulator.amountOf id
  retired : ∀ id, n.retired id = 0
  spool : ∃ spool, n.ledger.spool = some spool
    ∧ ((n.ledger.owed = true ∧ spool.peek = .ok rows
        ∧ (paid = false → ∀ id, n.acknowledged id = 0))
      ∨ (n.ledger.owed = false
        ∧ ∃ left, spool.peek = .ok left ∧ left.isEmpty = true))

variable {rows : Snapshot} {paid : Bool} {n n' : Node}

namespace Holds

/-- Counting keeps the rows. -/
theorem counts (h : n.Holds rows paid) (hc : Counts n n') : n'.Holds rows paid := by
  obtain ⟨l, ha, hb⟩ := hc.counted
  refine ⟨ha ▸ h.placed.foldl_record l, fun id => ?_, fun id => ?_, ?_⟩
  · rw [ha, Accumulator.amountOf_foldl_record h.placed]
    refine add_nonneg (h.nonneg id) (List.sum_nonneg fun a ha => ?_)
    obtain ⟨d, -, rfl⟩ := List.mem_map.mp ha
    exact d.of_nonneg id
  · rw [retired_of_booked hb, sum_of_kind fun _ => rfl, h.retired, zero_add]
  · obtain ⟨spool, hs, hcase⟩ := h.spool
    refine ⟨spool, hc.spool.trans hs, ?_⟩
    rcases hcase with ⟨ho, hp, hack⟩ | ⟨ho, hleft⟩
    · refine .inl ⟨hc.owed.trans ho, hp, fun hpaid id => ?_⟩
      rw [acknowledged_of_booked hb, sum_of_kind fun _ => rfl, hack hpaid, zero_add]
    · exact .inr ⟨hc.owed.trans ho, hleft⟩

theorem drain (h : n.Holds rows paid) : n.drain.2.Holds rows paid where
  placed := h.placed.drain
  nonneg id := by
    have hd : n.drain.2.ledger.accumulator.amountOf id = 0 :=
      Accumulator.amountOf_drain n.ledger.accumulator id
    rw [hd]
  retired := h.retired
  spool := h.spool

/-- No count that is drained is negative. -/
theorem nonneg_drain (h : n.Holds rows paid) : n.drain.1.Nonneg := by
  rw [drain_fst]
  intro e he
  rw [← Snapshot.amountOf_of_mem (Accumulator.distinct_peek _) he,
    Accumulator.amountOf_peek h.placed]
  exact h.nonneg e.id

theorem restore (h : n.Holds rows paid) {s : Snapshot} (hs : s.Nonneg) :
    (n.restore s).Holds rows paid where
  placed := h.placed.restore s
  nonneg id := by
    have hr := Accumulator.amountOf_restore h.placed s id
    exact hr ▸ add_nonneg (h.nonneg id) (hs.amountOf id)
  retired := h.retired
  spool := h.spool

/-- After a report was acknowledged the rows are paid. -/
theorem delivers {s : Snapshot} (h : n.Holds rows paid) (hd : Delivers s n n') :
    n'.Holds rows true := by
  obtain ⟨before, request, turn, panel, hb, hack, -, ha⟩ := hd
  have hk := h.counts hb.counts
  have hbooked : ({ before.log (.asked request turn) with panel := panel } : Node).booked
      = [.asked request turn] ++ before.booked :=
    List.filter_cons_of_pos hack
  refine counts ?_ ha.counts
  refine ⟨hk.placed, hk.nonneg, fun id => ?_, ?_⟩
  · rw [retired_of_booked hbooked, hk.retired]
    rfl
  · obtain ⟨spool, hs, hcase⟩ := hk.spool
    refine ⟨spool, hs, ?_⟩
    rcases hcase with ⟨ho, hp, -⟩ | hleft
    · exact .inl ⟨ho, hp, nofun⟩
    · exact .inr hleft

end Holds

/-- As `Holds`, unless a write to the spool has failed. -/
def Carries (rows : Snapshot) (n : Node) : Prop := n.SpoolFailed ∨ n.Holds rows false

namespace Carries

theorem counts (h : n.Carries rows) (hc : Counts n n') : n'.Carries rows := by
  rcases h with hf | hh
  · exact .inl (hf.grows hc.grows)
  · exact .inr (hh.counts hc)

/-- Rows that are paid are cleared. -/
theorem clearSpool (h : n.SpoolFailed ∨ n.Holds rows true) : n.clearSpool.Carries rows := by
  rcases h with hf | hh
  · exact .inl (hf.grows (quiet_clearSpool n).grows)
  · obtain ⟨spool, hs, hcase⟩ := hh.spool
    -- If there is nothing to clear, no rows are owed, and if the clearing fails, that is noted.
    rcases clearSpool_cases n with
      ⟨hno, hc⟩ | ⟨spool', fault, -, -, -, hc⟩ | ⟨spool', -, -, hok, hc⟩
    · rw [hc]
      refine .inr ⟨hh.placed, hh.nonneg, hh.retired, spool, hs, ?_⟩
      rcases hcase with ⟨ho, -, -⟩ | hleft
      · rcases hno with hno | hno
        · rw [ho] at hno
          cases hno
        · rw [hs] at hno
          cases hno
      · exact .inr hleft
    · rw [hc]
      exact .inl ⟨.noted (.spoolNotCleared fault), List.mem_cons_self, rfl⟩
    · rw [hc]
      have hb : (n.spooled spool'.clear.2).booked
          = [.spoolWritten spool'.clear.2.table] ++ n.booked := rfl
      refine .inr ⟨hh.placed, hh.nonneg, fun id => ?_, spool'.clear.2, rfl, .inr ⟨rfl, ?_⟩⟩
      · have hr : (n.spooled spool'.clear.2).retired id = 0 + n.retired id :=
          retired_of_booked hb id
        exact hr.trans (by rw [hh.retired]; rfl)
      · exact Spool.isEmpty_of_clear (Prod.ext hok rfl)

theorem delivered (h : n.SpoolFailed ∨ n.Holds rows true) (s : Snapshot) :
    (n.delivered s).2.Carries rows := by
  have hl : Counts n (n.log (.delivered s)) := (rests_log rfl n).counts
  have hc : (n.log (.delivered s)).clearSpool.Carries rows := by
    refine clearSpool ?_
    rcases h with hf | hh
    · exact .inl (hf.grows hl.grows)
    · exact .inr (hh.counts hl)
  have hb : ((n.log (.delivered s)).clearSpool.billed s).Carries rows := by
    rcases hc with hf | hh
    · exact .inl hf
    · exact .inr ⟨hh.placed, hh.nonneg, hh.retired, hh.spool⟩
  exact hb.counts (counts_delivered n s)

/-- A report cycle keeps the rows until it has paid them. -/
theorem report (h : n.Carries rows) (timeout : Option Float) (policy : Retry) :
    (n.report timeout policy).2.Carries rows := by
  have hd : n.drain.2.Carries rows := by
    rcases h with hf | hh
    · exact .inl (hf.grows (.refl n))
    · exact .inr hh.drain
  rcases report_cases n timeout policy with ⟨-, -, hr⟩ | ⟨m, hm, -, hr⟩ | ⟨m, fault, hm, -, hr⟩
  · rw [hr]
    exact hd.counts (counts_noted _ _ _ _)
  · rw [hr]
    refine delivered ?_ _
    rcases hd with hf | hh
    · exact .inl (hf.grows hm.grows)
    · exact .inr (hh.delivers hm)
  · rw [hr]
    have hs := hm.counts.trans (counts_undelivered m n.drain.1 fault)
    rcases h with hf | hh
    · have hd : n.drain.2.SpoolFailed := hf.grows (.refl n)
      exact .inl (hd.grows hs.grows)
    · exact .inr ((hh.drain.counts hs).restore hh.nonneg_drain)

/-- What a running node does keeps the rows until they are paid. -/
theorem accounts (rows : Snapshot) : Accounts (Carries rows) :=
  ⟨counts, fun timeout policy h => h.report timeout policy⟩

/-- A start owes the rows that it finds. -/
theorem resume {spool : Spool} (h : n.IsNew) (hs : n.ledger.spool = some spool)
    (hp : spool.peek = .ok rows) (hn : rows.Nonneg) :
    { n with phase := .starting }.resume.2.Carries rows := by
  have hretired (id : Int) : n.retired id = 0 := by simp [Node.retired, h.journal]
  have hack (id : Int) : n.acknowledged id = 0 := by simp [Node.acknowledged, h.journal]
  refine .inr ?_
  rcases resume_cases { n with phase := .starting } with
    ⟨hr, he⟩ | ⟨spool', pending, hs', hp', -, hr⟩
  · rw [hr]
    refine ⟨h.accumulator.placed, fun id => ?_, hretired, spool, hs,
      .inr ⟨h.owed, rows, hp, he spool rows hs hp⟩⟩
    show 0 ≤ n.ledger.accumulator.amountOf id
    rw [h.accumulator.amountOf]
  · obtain rfl : spool = spool' := Option.some.inj (hs.symm.trans hs')
    obtain rfl : rows = pending := Except.ok.inj (hp.symm.trans hp')
    rw [hr]
    have ho : Holds rows false { Node.restore { n with phase := .starting } rows with
        ledger := { (Node.restore { n with phase := .starting } rows).ledger with
          owed := true } } := by
      refine ⟨h.accumulator.placed.restore rows, fun id => ?_, hretired, spool, hs,
        .inl ⟨rfl, hp, fun _ => hack⟩⟩
      show 0 ≤ (n.ledger.accumulator.restore rows).amountOf id
      rw [Accumulator.amountOf_restore h.accumulator.placed, h.accumulator.amountOf, zero_add]
      exact hn.amountOf id
    have hl : Holds rows false (Node.owing { n with phase := .starting } rows) :=
      ho.counts (rests_log rfl _).counts
    exact hl.counts (counts_noteSums _ rows (.spoolRestored rows.size rows.up rows.down))

/-- However a start ends, it owes the rows that it found. -/
theorem start {spool : Spool} (h : n.IsNew) (hs : n.ledger.spool = some spool)
    (hp : spool.peek = .ok rows) (hn : rows.Nonneg) : n.start.2.Carries rows :=
  (accounts rows).kept.start (resume h hs hp hn)

end Carries

end ProxyNode.Node
