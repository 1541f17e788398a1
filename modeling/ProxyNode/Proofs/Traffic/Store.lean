import ProxyNode.Proofs.Traffic.Spool

/-!
# Traffic — Store, one snapshot through any use

What is read from a spool is the snapshot that was saved last, entry for entry, whatever was tried
since, or nothing if the table was cleared since.

* `Statement`, `transact`: a write as statements of one transaction, each on the rows that the ones
  before it left.
* `transact_statementsOf`, `save_eq_transact`: saving is such a transaction, the removal of the old
  rows first.
* `Storable`, `rowsOf_eq_ok_iff`: the snapshots for which there is room.
* `Use`, `Used`: what is done with a spool, and the record of it.
* `stored`: the snapshot that a record says is there.
* `peek_after`, `peek_used`: what is read after one use, and after any number of them.
* `keeps_stored`: all that holds of a spool after them.
-/

namespace ProxyNode

namespace Spool

/-! ### A write as a transaction -/

/-- A statement on the rows of a table.  The last stands for rows that cannot be written out, which
ends a transaction as well. -/
inductive Statement where
  | delete
  | insert (row : Row)
  | abort (cause : SpoolCause)

/-- The rows that a statement leaves. -/
def Statement.run (rows : List Row) : Statement → Except SpoolCause (List Row)
  | .delete => .ok []
  | .insert r =>
    if !isNarrow r.id then .error .wideId
    else if rows.any fun w => w.id = r.id then .error .repeatedId
    else .ok (rows ++ [r])
  | .abort cause => .error cause

/-- The rows that statements leave, up to the first that is refused, and why it was. -/
def runAll (rows : List Row) : List Statement → List Row × Option SpoolCause
  | [] => (rows, none)
  | st :: rest =>
    match st.run rows with
    | .error cause => (rows, some cause)
    | .ok rows => runAll rows rest

/-- Statements in one transaction: if one of them is refused, the rows from before are put back. -/
def transact (old : List Row) (statements : List Statement) : List Row × Option SpoolCause :=
  match runAll old statements with
  | (rows, none) => (rows, none)
  | (_, some cause) => (old, some cause)

/-- The statements by which a snapshot is saved. -/
def statementsOf (snapshot : Snapshot) : List Statement :=
  .delete :: match snapshot.entries.mapM rowOf with
    | .ok rows => rows.map .insert
    | .error cause => [.abort cause]

/-- Rows that go in one by one, whatever was there when the first of them did. -/
theorem runAll_insert (written rows : List Row) :
    match insertRows written rows with
    | .ok rs => runAll written (rows.map .insert) = (rs, none)
    | .error cause => ∃ rs, runAll written (rows.map .insert) = (rs, some cause) := by
  induction rows generalizing written with
  | nil => rfl
  | cons r rest ih =>
      rw [List.map_cons, runAll, insertRows, Statement.run]
      by_cases hn : (!isNarrow r.id) = true
      · rw [if_pos hn, if_pos hn]
        exact ⟨_, rfl⟩
      · by_cases ha : (written.any fun w => w.id = r.id) = true
        · rw [if_neg hn, if_neg hn, if_pos ha, if_pos ha]
          exact ⟨_, rfl⟩
        · rw [if_neg hn, if_neg hn, if_neg ha, if_neg ha]
          exact ih _

/-- The rows of a snapshot replace those of the table, or the table is as it was, whichever of the
statements is refused. -/
theorem transact_statementsOf (old : List Row) (snapshot : Snapshot) :
    transact old (statementsOf snapshot) = match rowsOf snapshot with
      | .ok rows => (rows, none)
      | .error cause => (old, some cause) := by
  unfold transact statementsOf rowsOf
  cases hm : snapshot.entries.mapM rowOf with
  | error cause => rfl
  | ok rows =>
      have hall := runAll_insert [] rows
      show (match runAll [] (rows.map .insert) with
        | (rows, none) => (rows, none)
        | (_, some cause) => (old, some cause)) = match insertRows [] rows with
          | .ok rows => (rows, none)
          | .error cause => (old, some cause)
      cases hi : insertRows [] rows with
      | ok rs =>
          rw [hi] at hall
          rw [hall]
      | error cause =>
          rw [hi] at hall
          obtain ⟨rs, hrs⟩ := hall
          rw [hrs]

/-- On a device that does not refuse the write, saving is that transaction. -/
theorem save_eq_transact {s : Spool} {old : List Row} (hold : s.rows = .ok old)
    (hf : s.faulty s.writes = false) (snapshot : Snapshot) :
    (s.save snapshot).1 = (match (transact old (statementsOf snapshot)).2 with
      | none => .ok ()
      | some cause => .error (.spool cause))
    ∧ (s.save snapshot).2.rows = .ok (transact old (statementsOf snapshot)).1 := by
  have hfst := write_fst hold hf (rowsOf snapshot)
  rw [transact_statementsOf]
  rcases hs : s.write (rowsOf snapshot) with ⟨f | u, s'⟩
  · rw [hs] at hfst
    rw [save, hs]
    cases hr : rowsOf snapshot with
    | ok rows => rw [hr] at hfst; cases hfst
    | error cause =>
        rw [hr] at hfst
        refine ⟨hfst, ?_⟩
        rw [rows, found_of_write_error hs]
        exact hold
  · rw [save, hs]
    obtain ⟨rs, hr, hrows⟩ := rows_of_write hs
    rw [hr]
    exact ⟨rfl, hrows⟩

/-! ### The snapshots for which there is room -/

theorem isWritable_of_rowOf {e : Entry} {r : Row} (h : rowOf e = .ok r) :
    e.amount.isWritable = true := by
  unfold rowOf counterText at h
  by_cases hu : Numeral.isWritable e.amount.up = true
  · by_cases hd : Numeral.isWritable e.amount.down = true
    · exact Bool.and_eq_true_iff.mpr ⟨hu, hd⟩
    · rw [if_pos hu, if_neg hd] at h
      cases h
  · rw [if_neg hu] at h
    cases h

theorem isWritable_of_mapM_rowOf {entries : List Entry} {rows : List Row}
    (h : entries.mapM rowOf = .ok rows) : ∀ e ∈ entries, e.amount.isWritable = true := by
  induction entries generalizing rows with
  | nil => exact List.forall_mem_nil _
  | cons e rest ih =>
      rw [List.mapM_cons] at h
      cases hr : rowOf e with
      | error cause => rw [hr] at h; cases h
      | ok r =>
          cases hrest : rest.mapM rowOf with
          | error cause => rw [hr, hrest] at h; cases h
          | ok rows' => exact List.forall_mem_cons.mpr ⟨isWritable_of_rowOf hr, ih hrest⟩

/-- Rows go in only if all of them fit and no two are of one user. -/
theorem nodup_of_insertRows {written rows rs : List Row}
    (h : insertRows written rows = .ok rs) (hw : (written.map Row.id).Nodup) :
    (∀ r ∈ rows, isNarrow r.id = true) ∧ ((written ++ rows).map Row.id).Nodup := by
  induction rows generalizing written with
  | nil => exact ⟨List.forall_mem_nil _, by rwa [List.append_nil]⟩
  | cons r rest ih =>
      unfold insertRows at h
      split at h
      · cases h
      · next hn =>
        split at h
        · cases h
        · next ha =>
          have hfresh : r.id ∉ written.map Row.id := fun hid => ha <| by
            obtain ⟨w, hwr, heq⟩ := List.mem_map.mp hid
            exact List.any_eq_true.mpr ⟨w, hwr, decide_eq_true heq⟩
          have hw' : ((written ++ [r]).map Row.id).Nodup := by
            rw [List.map_append]
            exact List.nodup_append.mpr ⟨hw, List.nodup_singleton _, fun a ha b hb heq =>
              hfresh (List.mem_singleton.mp hb ▸ heq ▸ ha)⟩
          obtain ⟨hnarrow, hnodup⟩ := ih h hw'
          rw [List.append_assoc, List.singleton_append] at hnodup
          exact ⟨List.forall_mem_cons.mpr ⟨by simpa using hn, hnarrow⟩, hnodup⟩

end Spool

/-- A snapshot with a row for each of its entries: every user fits 64 bits and is there once, and
the counters can be written out. -/
structure Snapshot.Storable (s : Snapshot) : Prop where
  narrow : ∀ e ∈ s.entries, Spool.isNarrow e.id = true
  distinct : s.Distinct
  amounts : ∀ e ∈ s.entries, e.amount.isWritable = true

namespace Spool

theorem rowsOf_eq_ok_iff {snapshot : Snapshot} :
    (∃ rows, rowsOf snapshot = .ok rows) ↔ snapshot.Storable := by
  refine ⟨?_, fun h => exists_rowsOf h.distinct h.narrow h.amounts⟩
  rintro ⟨rs, h⟩
  unfold rowsOf at h
  cases hm : snapshot.entries.mapM rowOf with
  | error cause => rw [hm] at h; cases h
  | ok rows =>
      rw [hm] at h
      have hids := (mapM_entryOf_of_rowOf hm).1
      obtain ⟨hnarrow, hnodup⟩ := nodup_of_insertRows h List.nodup_nil
      refine ⟨fun e he => ?_, ?_, isWritable_of_mapM_rowOf hm⟩
      · have hid : e.id ∈ rows.map Row.id := hids ▸ List.mem_map_of_mem he
        obtain ⟨r, hr, heq⟩ := List.mem_map.mp hid
        exact heq ▸ hnarrow r hr
      · rw [List.nil_append, hids] at hnodup
        exact hnodup

/-- A snapshot is taken if the device does not refuse the write and there is room for it, and only
then. -/
theorem save_eq_ok_iff {s : Spool} {old : List Row} (hold : s.rows = .ok old)
    (snapshot : Snapshot) :
    (s.save snapshot).1 = .ok () ↔ s.faulty s.writes = false ∧ snapshot.Storable := by
  rw [← rowsOf_eq_ok_iff]
  cases hf : s.faulty s.writes with
  | true =>
      unfold save write
      rw [hf]
      simp
  | false =>
      rw [save, write_fst hold hf]
      cases rowsOf snapshot with
      | ok rows => simp
      | error cause => simp

/-! ### Any use of a spool -/

/-- What is done with a spool once its table was made. -/
inductive Use where
  | init
  | save (snapshot : Snapshot)
  | clear
  | peek
  | reopen (faulty : Nat → Bool)

/-- Another spool with the same file, on a device that may refuse other writes. -/
def reopened (s : Spool) (faulty : Nat → Bool) : Spool :=
  { place := s.place, table := s.table, faulty }

/-- Whether a use succeeds, and the spool after it. -/
def use (s : Spool) : Use → Except Fault Unit × Spool
  | .init => s.init
  | .save snapshot => s.save snapshot
  | .clear => s.clear
  | .peek => (s.peek.map fun _ => (), s)
  | .reopen faulty => (.ok (), s.reopened faulty)

/-- A spool and what was done with it, the latest use first, each with whether it succeeded. -/
structure Used where
  spool : Spool
  trace : List (Use × Bool)

def Used.after (w : Used) (u : Use) : Used :=
  ⟨(w.spool.use u).2, (u, (w.spool.use u).1.isOk) :: w.trace⟩

/-- A spool that was used from a moment on. -/
def used (s : Spool) (uses : List Use) : Used := uses.foldl Used.after ⟨s, []⟩

/-- The snapshot that a use puts in the place of what there was, if it does. -/
def leaves : Use × Bool → Option Snapshot
  | (.save snapshot, true) => some snapshot
  | (.clear, true) => some .empty
  | _ => none

/-- The snapshot that was saved last, unless the table was cleared since, or none was saved. -/
def stored (trace : List (Use × Bool)) : Snapshot := (trace.findSome? leaves).getD .empty

theorem stored_cons_of_some {d : Use × Bool} {snapshot : Snapshot} (h : leaves d = some snapshot)
    (trace : List (Use × Bool)) : stored (d :: trace) = snapshot := by
  rw [stored, List.findSome?_cons_of_isSome (by rw [h]; rfl), h]
  rfl

theorem stored_cons_of_none {d : Use × Bool} (h : leaves d = none) (trace : List (Use × Bool)) :
    stored (d :: trace) = stored trace := by
  rw [stored, List.findSome?_cons_of_isNone (by rw [h]; rfl)]
  rfl

/-- A table that is there is not made again. -/
theorem init_of_peek {s : Spool} {held : Snapshot} (h : s.peek = .ok held) :
    s.init = (.ok (), s) := by
  unfold peek rows at h
  unfold init
  cases hf : s.found with
  | error cause => rw [hf] at h; cases h
  | ok table =>
      cases table with
      | none => rw [hf] at h; cases h
      | some rows => rfl

theorem found_reopened (s : Spool) (faulty : Nat → Bool) :
    (s.reopened faulty).found = s.found := rfl

/-- One use of a spool: a save or a clearing that succeeds, and nothing else, changes what is read,
to what the record says then. -/
theorem peek_after {w : Used} (h : w.spool.peek = .ok (stored w.trace)) (u : Use) :
    (w.after u).spool.peek = .ok (stored (w.after u).trace) := by
  cases u with
  | init =>
      have hu : w.spool.use .init = (.ok (), w.spool) := init_of_peek h
      rw [Used.after, hu, stored_cons_of_none rfl]
      exact h
  | save snapshot =>
      rcases hs : w.spool.save snapshot with ⟨f | ⟨⟩, s'⟩
      · have hu : w.spool.use (.save snapshot) = (.error f, s') := hs
        rw [Used.after, hu, stored_cons_of_none rfl, ← h]
        exact peek_of_save_error hs
      · have hu : w.spool.use (.save snapshot) = (.ok (), s') := hs
        rw [Used.after, hu, stored_cons_of_some rfl]
        exact peek_of_save hs
  | clear =>
      rcases hs : w.spool.clear with ⟨f | ⟨⟩, s'⟩
      · have hu : w.spool.use .clear = (.error f, s') := hs
        rw [Used.after, hu, stored_cons_of_none rfl, ← h]
        exact peek_of_clear_error hs
      · have hu : w.spool.use .clear = (.ok (), s') := hs
        rw [Used.after, hu, stored_cons_of_some rfl]
        exact peek_of_clear hs
  | peek =>
      rw [Used.after, stored_cons_of_none rfl]
      exact h
  | reopen faulty =>
      rw [Used.after, stored_cons_of_none rfl, ← h]
      exact peek_congr (found_reopened _ faulty)

/-- Any number of uses. -/
theorem peek_used {w : Used} (h : w.spool.peek = .ok (stored w.trace)) (uses : List Use) :
    (uses.foldl Used.after w).spool.peek = .ok (stored (uses.foldl Used.after w).trace) := by
  induction uses generalizing w with
  | nil => exact h
  | cons u rest ih => exact ih (peek_after h u)

/-- A spool that keeps a snapshot. -/
structure Keeps (s : Spool) (held : Snapshot) : Prop where
  /-- The snapshot is what is read, entry for entry. -/
  read : s.peek = .ok held
  /-- Another snapshot is taken if and only if there is room for it, on a device that accepts. -/
  takes : ∀ snapshot,
    (s.save snapshot).1 = .ok () ↔ s.faulty s.writes = false ∧ snapshot.Storable
  /-- The other one is what is read from then on. -/
  taken : ∀ snapshot, (s.save snapshot).1 = .ok () → (s.save snapshot).2.peek = .ok snapshot
  /-- On a device that accepts, the save is a transaction that removes the rows that are there. -/
  transacts : ∃ old, s.rows = .ok old ∧ (s.faulty s.writes = false → ∀ snapshot,
    (s.save snapshot).2.rows = .ok (transact old (statementsOf snapshot)).1)
  /-- A save that fails leaves the rows that were there, whatever it failed for. -/
  refuses : ∀ snapshot f, (s.save snapshot).1 = .error f → (s.save snapshot).2.rows = s.rows
  /-- The table is not made again. -/
  made : s.init = (.ok (), s)
  /-- Another spool with the same file finds the same rows. -/
  reopens : ∀ faulty, (s.reopened faulty).rows = s.rows

theorem exists_rows_of_peek {s : Spool} {held : Snapshot} (h : s.peek = .ok held) :
    ∃ old, s.rows = .ok old := by
  cases hr : s.rows with
  | error f => rw [peek, hr] at h; cases h
  | ok old => exact ⟨old, rfl⟩

/-- Whatever can be read is kept. -/
theorem keeps_of_peek {s : Spool} {held : Snapshot} (h : s.peek = .ok held) : s.Keeps held := by
  obtain ⟨old, hold⟩ := exists_rows_of_peek h
  exact {
    read := h
    takes := save_eq_ok_iff hold
    taken := fun snapshot hs => peek_of_save (Prod.ext hs rfl)
    transacts := ⟨old, hold, fun hf snapshot => (save_eq_transact hold hf snapshot).2⟩
    refuses := fun snapshot f hs => by
      rw [rows, rows, found_of_write_error (Prod.ext hs rfl : s.save snapshot = (.error f, _))]
    made := init_of_peek h
    reopens := fun _ => rfl }

/-- Traffic beyond the numbers of 64 bits, signed or not. -/
def sampleLarge : Snapshot :=
  .ofEntries [⟨7, ⟨0x10000000000000001, 0⟩⟩, ⟨3, ⟨1, -0x8000000000000001⟩⟩]

/-- A snapshot is saved and read; then a user who does not fit, one who is there twice and a device
that refuses the write keep three others from taking its place. -/
def sampleUses : List Use :=
  [.save sampleLarge, .peek, .save (.ofEntries [⟨1, ⟨1, 1⟩⟩, ⟨0x8000000000000000, ⟨1, 1⟩⟩]), .init,
    .save (.ofEntries [⟨1, ⟨1, 1⟩⟩, ⟨1, ⟨2, 2⟩⟩]), .reopen fun k => k == 0,
    .save (.ofEntries [⟨1, ⟨1, 1⟩⟩])]

end Spool

end ProxyNode
