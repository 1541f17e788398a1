import ProxyNode.Proofs.Node.Positive

/-!
# Node — Moments of a run

A process may be killed at any moment, and then only what it wrote into the spool and what it told
the panel remains.  The journal has both in their order, so that a moment of a run is what had
happened by then: an end of the journal.

* `Survives`: at one moment, what the spool held at the beginning is acknowledged or in the spool.
* `Outlasts`: it is so at every moment up to now.
* `Safe`: the same by the books alone, which is kept by what neither acknowledges a report nor
  writes to the spool (`Safe.mute`), and by the right writes (`Safe.write`).
-/

namespace ProxyNode

namespace Event

/-- The table that a write to the spool leaves. -/
def written? : Event → Option (Option (List Row))
  | .spoolWritten table => some table
  | _ => none

/-- What the panel acknowledged of a user's traffic. -/
def acknowledgedIn (past : List Event) (id : Int) : Amount := (past.map (acknowledgedOf id)).sum

/-- The table in the spool, `table` being the one at the beginning. -/
def tableAfter (table : Option (List Row)) (past : List Event) : Option (List Row) :=
  (past.findSome? written?).getD table

/-- Whether an event neither acknowledges a report nor writes to the spool. -/
def isMute (e : Event) : Bool := !e.isAcknowledged && e.written?.isNone

theorem isMute_iff {e : Event} : e.isMute = true ↔ e.isAcknowledged = false ∧ e.written? = none := by
  simp [isMute]

theorem isMute_of_not_booked {e : Event} (h : e.isBooked = false) : e.isMute = true := by
  rw [isMute_iff]
  cases e with
  | asked r t => exact ⟨h, rfl⟩
  | spoolWritten table => cases h
  | _ => exact ⟨rfl, rfl⟩

theorem acknowledgedOf_of_not_acknowledged {e : Event} (h : e.isAcknowledged = false) (id : Int) :
    e.acknowledgedOf id = 0 := by
  cases e with
  | asked r t => exact if_neg (Bool.eq_false_iff.mp h)
  | _ => rfl

@[simp] theorem acknowledgedIn_cons (e : Event) (past : List Event) (id : Int) :
    acknowledgedIn (e :: past) id = e.acknowledgedOf id + acknowledgedIn past id := rfl

theorem tableAfter_cons_of_not_written {e : Event} (h : e.written? = none)
    (table : Option (List Row)) (past : List Event) :
    tableAfter table (e :: past) = tableAfter table past := by
  rw [tableAfter, List.findSome?_cons, h]
  rfl

@[simp] theorem tableAfter_write (table now : Option (List Row)) (past : List Event) :
    tableAfter table (.spoolWritten now :: past) = now := rfl

theorem tableAfter_append_of_mute {l : List Event} (hl : ∀ e ∈ l, e.isMute = true)
    (table : Option (List Row)) (past : List Event) :
    tableAfter table (l ++ past) = tableAfter table past := by
  induction l with
  | nil => rfl
  | cons e rest ih =>
      rw [List.forall_mem_cons] at hl
      rw [List.cons_append, tableAfter_cons_of_not_written (isMute_iff.mp hl.1).2, ih hl.2]

/-- What does not matter to the books does not matter to the table. -/
theorem tableAfter_filter_booked (table : Option (List Row)) (past : List Event) :
    tableAfter table (past.filter isBooked) = tableAfter table past := by
  induction past with
  | nil => rfl
  | cons e rest ih =>
      by_cases he : e.isBooked = true
      · rw [List.filter_cons_of_pos he, tableAfter, tableAfter, List.findSome?_cons,
          List.findSome?_cons]
        cases hw : e.written? with
        | none => exact ih
        | some now => rfl
      · have hm := isMute_of_not_booked (Bool.eq_false_iff.mpr he)
        rw [List.filter_cons_of_neg he, tableAfter_cons_of_not_written (isMute_iff.mp hm).2, ih]

end Event

/-- What a table has of a user's traffic, nothing if it cannot be read. -/
def Spool.heldOf (table : Option (List Row)) (id : Int) : Amount :=
  match ({ table := table } : Spool).peek with
  | .ok s => s.amountOf id
  | .error _ => 0

theorem Spool.heldOf_of_peek {s : Spool} (h : s.place = .file) {held : Snapshot}
    (hp : s.peek = .ok held) (id : Int) : heldOf s.table id = held.amountOf id := by
  rw [heldOf, peek_of_file h, hp]

namespace Node

open Event

/-- What remains if the process is killed when no more than `past` has happened: of every user the
panel has acknowledged or the spool has at least what the spool held at the beginning.  Before the
panel has acknowledged anything, the spool is as it was, unless a shutdown saved into it what was
left, which then has at least the same. -/
structure Survives (table : Option (List Row)) (rows : Snapshot) (past : List Event) : Prop where
  covered : ∀ id,
    rows.amountOf id ≤ acknowledgedIn past id + Spool.heldOf (tableAfter table past) id
  kept : (∀ e ∈ past, e.isAcknowledged = false) →
    tableAfter table past = table
    ∨ ∃ s, .retired s ∈ past ∧ ({ table := tableAfter table past } : Spool).peek = .ok s
      ∧ ∀ id, rows.amountOf id ≤ s.amountOf id

/-- The spool is a file, and it survives at every moment what it held at the beginning. -/
structure Outlasts (table : Option (List Row)) (rows : Snapshot) (n : Node) : Prop where
  spool : ∃ spool, n.ledger.spool = some spool ∧ spool.place = .file
    ∧ spool.table = tableAfter table n.journal
  survives : ∀ past, past <:+ n.journal → Survives table rows past

/-- The same by the books alone. -/
structure Safe (table : Option (List Row)) (rows : Snapshot) (n : Node) : Prop where
  spool : ∃ spool, n.ledger.spool = some spool ∧ spool.place = .file
    ∧ spool.table = tableAfter table n.booked
  survives : ∀ past, past <:+ n.booked → Survives table rows past

/-- At every moment before the panel acknowledged anything, the spool was as it had been. -/
def Unchanged (table : Option (List Row)) (past : List Event) : Prop :=
  ∀ p, p <:+ past → (∀ e ∈ p, e.isAcknowledged = false) → tableAfter table p = table

variable {table : Option (List Row)} {rows : Snapshot} {n n' : Node} {past l : List Event}
  {e : Event}

namespace Survives

theorem mute (h : Survives table rows past) (he : e.isMute = true) :
    Survives table rows (e :: past) := by
  obtain ⟨hack, hwritten⟩ := isMute_iff.mp he
  have ht := tableAfter_cons_of_not_written hwritten table past
  refine ⟨fun id => ?_, fun hno => ?_⟩
  · rw [acknowledgedIn_cons, acknowledgedOf_of_not_acknowledged hack, zero_add, ht]
    exact h.covered id
  · rw [ht]
    rcases h.kept fun e' he' => hno e' (List.mem_cons_of_mem e he') with hk | ⟨s, hs, hp⟩
    · exact .inl hk
    · exact .inr ⟨s, List.mem_cons_of_mem e hs, hp⟩

/-- What is added to the books and is mute leaves every moment as safe as it was. -/
theorem append (h : ∀ p, p <:+ past → Survives table rows p) (hl : ∀ e ∈ l, e.isMute = true) :
    ∀ p, p <:+ l ++ past → Survives table rows p := by
  induction l with
  | nil => exact h
  | cons e rest ih =>
      intro p hp
      rw [List.forall_mem_cons] at hl
      rcases List.suffix_cons_iff.mp hp with rfl | hp
      · exact (ih hl.2 _ (List.suffix_refl _)).mute hl.1
      · exact ih hl.2 p hp

/-- A moment is safe if it was so by the books. -/
theorem of_booked (h : Survives table rows (past.filter isBooked)) : Survives table rows past := by
  have ht := tableAfter_filter_booked table past
  have ha (id : Int) : acknowledgedIn (past.filter isBooked) id = acknowledgedIn past id :=
    sum_filter_booked (fun _ he => (eq_zero_of_not_booked id he).2.1) past
  refine ⟨fun id => ?_, fun hno => ?_⟩
  · rw [← ha, ← ht]
    exact h.covered id
  · rw [← ht]
    rcases h.kept fun e he => hno e (List.mem_of_mem_filter he) with hk | ⟨s, hs, hp⟩
    · exact .inl hk
    · exact .inr ⟨s, List.mem_of_mem_filter hs, hp⟩

end Survives

theorem Unchanged.append (h : Unchanged table past) (hl : ∀ e ∈ l, e.isMute = true) :
    Unchanged table (l ++ past) := by
  induction l with
  | nil => exact h
  | cons e rest ih =>
      intro p hp hno
      rw [List.forall_mem_cons] at hl
      rcases List.suffix_cons_iff.mp hp with rfl | hp
      · rw [tableAfter_cons_of_not_written (isMute_iff.mp hl.1).2]
        exact ih hl.2 _ (List.suffix_refl _) fun e' he' => hno e' (List.mem_cons_of_mem e he')
      · exact ih hl.2 p hp hno

theorem Unchanged.of_booked (h : Unchanged table (past.filter isBooked)) :
    Unchanged table past := by
  intro p hp hno
  rw [← tableAfter_filter_booked]
  exact h _ (hp.filter isBooked) fun e he => hno e (List.mem_of_mem_filter he)

/-- Once the panel has acknowledged something, the spool may change. -/
theorem Unchanged.cons (h : Unchanged table past)
    (hack : ∃ e' ∈ e :: past, e'.isAcknowledged = true) : Unchanged table (e :: past) := by
  obtain ⟨e', he', hack⟩ := hack
  intro p hp hno
  rcases List.suffix_cons_iff.mp hp with rfl | hp
  · exact absurd hack (Bool.eq_false_iff.mp (hno e' he'))
  · exact h p hp hno

theorem acknowledgedIn_booked (n : Node) (id : Int) :
    acknowledgedIn n.booked id = n.acknowledged id :=
  sum_filter_booked (fun _ he => (eq_zero_of_not_booked id he).2.1) n.journal

theorem acknowledged_eq_zero (h : ∀ e ∈ n.booked, e.isAcknowledged = false) (id : Int) :
    n.acknowledged id = 0 := by
  rw [← acknowledgedIn_booked]
  refine List.sum_eq_zero fun a ha => ?_
  obtain ⟨e, he, rfl⟩ := List.mem_map.mp ha
  exact acknowledgedOf_of_not_acknowledged (h e he) id

theorem not_unacknowledged_of_mem (he : e ∈ l) (hack : e.isAcknowledged = true) :
    ¬ ∀ e ∈ l, e.isAcknowledged = false :=
  fun hno => absurd hack (Bool.eq_false_iff.mp (hno e he))

/-- A notice is mute. -/
theorem mute_note (n : Node) (notice : Notice) :
    ∃ l, (n.note notice).booked = l ++ n.booked ∧ ∀ e ∈ l, e.isMute = true := by
  by_cases hb : (Event.noted notice).isBooked = true
  · exact ⟨[.noted notice], List.filter_cons_of_pos hb, List.forall_mem_singleton.mpr rfl⟩
  · exact ⟨[], List.filter_cons_of_neg hb, List.forall_mem_nil _⟩

/-- Counting is mute. -/
theorem mute_counts (hc : Counts n n') :
    ∃ l, n'.booked = l ++ n.booked ∧ ∀ e ∈ l, e.isMute = true := by
  obtain ⟨deltas, -, hb⟩ := hc.counted
  refine ⟨_, hb, fun e he => ?_⟩
  obtain ⟨d, -, rfl⟩ := List.mem_map.mp he
  rfl

namespace Safe

theorem outlasts (h : n.Safe table rows) : n.Outlasts table rows where
  spool := by
    rw [← tableAfter_filter_booked]
    exact h.spool
  survives past hp := .of_booked (h.survives _ (hp.filter isBooked))

/-- What is mute leaves the spool as it is. -/
theorem mute (h : n.Safe table rows) (hspool : n'.ledger.spool = n.ledger.spool)
    (hb : n'.booked = l ++ n.booked) (hl : ∀ e ∈ l, e.isMute = true) : n'.Safe table rows := by
  refine ⟨?_, ?_⟩
  · rw [hb, tableAfter_append_of_mute hl, hspool]
    exact h.spool
  · rw [hb]
    exact .append h.survives hl

theorem note (h : n.Safe table rows) (notice : Notice) : (n.note notice).Safe table rows := by
  obtain ⟨l, hb, hl⟩ := mute_note n notice
  exact h.mute rfl hb hl

theorem counts (h : n.Safe table rows) (hc : Counts n n') : n'.Safe table rows := by
  obtain ⟨l, hb, hl⟩ := mute_counts hc
  exact h.mute hc.spool hb hl

/-- A table may be put in the place of another one if it has what is not acknowledged. -/
theorem write (h : n.Safe table rows) {after : Spool} (hplace : after.place = .file)
    (hcovered : ∀ id, rows.amountOf id ≤ n.acknowledged id + Spool.heldOf after.table id)
    (hkept : (∀ e ∈ n.booked, e.isAcknowledged = false) →
      after.table = table ∨ ∃ s, .retired s ∈ n.booked
        ∧ ({ table := after.table } : Spool).peek = .ok s
        ∧ ∀ id, rows.amountOf id ≤ s.amountOf id) :
    (n.spooled after).Safe table rows := by
  have hb : (n.spooled after).booked = .spoolWritten after.table :: n.booked := rfl
  refine ⟨⟨after, rfl, hplace, rfl⟩, ?_⟩
  rw [hb]
  intro past hp
  rcases List.suffix_cons_iff.mp hp with rfl | hp
  · refine ⟨fun id => ?_, fun hno => ?_⟩
    · rw [tableAfter_write, acknowledgedIn_cons, acknowledgedIn_booked]
      exact (hcovered id).trans_eq (congrArg (· + _) (zero_add _).symm)
    · rw [tableAfter_write]
      rcases hkept fun e he => hno e (List.mem_cons_of_mem _ he) with hk | ⟨s, hs, hk⟩
      · exact .inl hk
      · exact .inr ⟨s, List.mem_cons_of_mem _ hs, hk⟩
  · exact h.survives past hp

/-- A table that was not changed by a write is as safe as it was. -/
theorem rewrite (h : n.Safe table rows) {after : Spool} (hplace : after.place = .file)
    (ht : after.table = tableAfter table n.booked) : (n.spooled after).Safe table rows := by
  have hnow := h.survives n.booked (List.suffix_refl _)
  refine h.write hplace (fun id => ?_) (fun hno => ?_)
  · rw [ht, ← acknowledgedIn_booked]
    exact hnow.covered id
  · rw [ht]
    exact hnow.kept hno

end Safe

end Node

end ProxyNode
