import ProxyNode.Proofs.Traffic.Limits

/-!
# Traffic — Spool, saved and read back

A snapshot that was saved is what the next connection finds, entry for entry.

* `sortBy_of_pairwise`: a list in order is left as it is.
* `mapM_entryOf_of_rowOf`: rows that were made of entries are read as these entries.
* `peek_of_save`, `peek_of_clear`: what a write that succeeds leaves in the table.
* `Works`, `save_of_works`: a spool that works takes every snapshot that is tractable.
-/

namespace ProxyNode

theorem sortBy_of_pairwise {α : Type} {key : α → Int} {l : List α}
    (h : l.Pairwise fun a b => key a ≤ key b) : sortBy key l = l := by
  induction l with
  | nil => rfl
  | cons x rest ih =>
      rw [List.pairwise_cons] at h
      rw [sortBy, ih h.2]
      cases rest with
      | nil => rfl
      | cons y rest => rw [insertBy, if_pos (h.1 y List.mem_cons_self)]

/-- A snapshot is made of its own entries. -/
theorem Snapshot.ofEntries_entries (s : Snapshot) : ofEntries s.entries = s := by
  have hf : (s.entries.filter fun e => !e.amount.isZero) = s.entries :=
    List.filter_eq_self.mpr fun e he => by rw [s.busy e he]; rfl
  refine ext ?_
  show sortBy Entry.id (s.entries.filter fun e => !e.amount.isZero) = s.entries
  rw [hf, sortBy_of_pairwise s.sorted]

namespace Spool

/-- What is read from a spool depends on what a new connection finds alone. -/
theorem peek_congr {s s' : Spool} (h : s'.found = s.found) : s'.peek = s.peek := by
  rw [peek, peek, rows, rows, h]

theorem peek_of_file {s : Spool} (h : s.place = .file) :
    ({ table := s.table } : Spool).peek = s.peek := by
  refine peek_congr ?_
  rw [found, found, h]

/-- A spool that can be read is in a file. -/
theorem place_of_peek {s : Spool} {held : Snapshot} (h : s.peek = .ok held) :
    s.place = .file := by
  unfold peek rows found at h
  cases hp : s.place with
  | file => rfl
  | memory => rw [hp] at h; cases h
  | nowhere cause => rw [hp] at h; cases h

/-- A spool that cannot be read says why. -/
theorem exists_cause_of_peek {s : Spool} {fault : Fault} (h : s.peek = .error fault) :
    ∃ cause, fault = .spool cause := by
  unfold peek rows at h
  cases hf : s.found with
  | error cause =>
      rw [hf] at h
      cases h
      exact ⟨cause, rfl⟩
  | ok table =>
      rw [hf] at h
      cases table with
      | none =>
          cases h
          exact ⟨.noTable, rfl⟩
      | some rows =>
          dsimp only at h
          cases hm : (sortBy Row.id rows).mapM entryOf with
          | error cause =>
              rw [hm] at h
              cases h
              exact ⟨cause, rfl⟩
          | ok entries => rw [hm] at h; cases h

theorem place_of_write (s : Spool) (rows : Except SpoolCause (List Row)) :
    (s.write rows).2.place = s.place := by
  unfold write
  dsimp only
  split
  · rfl
  · split
    · rfl
    · split <;> rfl

/-- After a write that fails a new connection finds what there was. -/
theorem found_of_write_error {s s' : Spool} {rows : Except SpoolCause (List Row)} {f : Fault}
    (h : s.write rows = (.error f, s')) : s'.found = s.found := by
  have hp := s.place_of_write rows
  rw [h] at hp
  rw [found, found, hp, write_error h]

theorem peek_of_write_error {s s' : Spool} {rows : Except SpoolCause (List Row)} {f : Fault}
    (h : s.write rows = (.error f, s')) : s'.peek = s.peek := peek_congr (found_of_write_error h)

theorem peek_of_save_error {s s' : Spool} {snapshot : Snapshot} {f : Fault}
    (h : s.save snapshot = (.error f, s')) : s'.peek = s.peek := peek_of_write_error h

theorem peek_of_clear_error {s s' : Spool} {f : Fault} (h : s.clear = (.error f, s')) :
    s'.peek = s.peek := peek_of_write_error h

/-- What comes of a write that reaches a table on a device that does not refuse it. -/
theorem write_fst {s : Spool} {old : List Row} (hold : s.rows = .ok old)
    (hf : s.faulty s.writes = false) (rows : Except SpoolCause (List Row)) :
    (s.write rows).1 = match rows with
      | .ok _ => .ok ()
      | .error cause => .error (.spool cause) := by
  unfold write
  rw [hf, hold]
  cases rows <;> rfl

/-- A write that succeeds leaves its rows where a new connection finds them. -/
theorem rows_of_write {s s' : Spool} {rows : Except SpoolCause (List Row)}
    (h : s.write rows = (.ok (), s')) : ∃ rs, rows = .ok rs ∧ s'.rows = .ok rs := by
  unfold write at h
  dsimp only at h
  split at h
  · cases h
  · split at h
    · cases h
    · next old hold =>
      split at h
      · cases h
      · next rs =>
        refine ⟨rs, rfl, ?_⟩
        cases h
        -- A table that is not in a file is not found again.
        cases hp : s.place with
        | file => simp [Spool.rows, found]
        | memory => simp [Spool.rows, found, hp] at hold
        | nowhere cause => simp [Spool.rows, found, hp] at hold

theorem entryOf_of_rowOf {e : Entry} {r : Row} (h : rowOf e = .ok r) :
    r.id = e.id ∧ entryOf r = .ok e := by
  have hw {v : Int} {t : String} (ht : counterText v = .ok t) : Numeral.read t = .ok v := by
    unfold counterText at ht
    split at ht
    · next hv =>
      cases ht
      exact Numeral.read_toString hv
    · cases ht
  unfold rowOf at h
  cases hu : counterText e.amount.up with
  | error cause => rw [hu] at h; cases h
  | ok up =>
      cases hd : counterText e.amount.down with
      | error cause => rw [hu, hd] at h; cases h
      | ok down =>
          rw [hu, hd] at h
          cases h
          exact ⟨rfl, by rw [entryOf, hw hu]; dsimp only; rw [hw hd]⟩

/-- Rows that were made of entries are read as these entries. -/
theorem mapM_entryOf_of_rowOf {entries : List Entry} {rows : List Row}
    (h : entries.mapM rowOf = .ok rows) :
    rows.map Row.id = entries.map Entry.id ∧ rows.mapM entryOf = .ok entries := by
  induction entries generalizing rows with
  | nil =>
      cases h
      exact ⟨rfl, rfl⟩
  | cons e rest ih =>
      rw [List.mapM_cons] at h
      cases hr : rowOf e with
      | error cause => rw [hr] at h; cases h
      | ok r =>
          cases hrest : rest.mapM rowOf with
          | error cause => rw [hr, hrest] at h; cases h
          | ok rows' =>
              rw [hr, hrest] at h
              cases h
              obtain ⟨hid, hentry⟩ := entryOf_of_rowOf hr
              obtain ⟨hids, hentries⟩ := ih hrest
              refine ⟨by rw [List.map_cons, List.map_cons, hid, hids], ?_⟩
              rw [List.mapM_cons, hentry, hentries]
              rfl

theorem insertRows_eq {written rows rs : List Row} (h : insertRows written rows = .ok rs) :
    rs = written ++ rows := by
  induction rows generalizing written with
  | nil =>
      cases h
      exact (List.append_nil _).symm
  | cons r rest ih =>
      unfold insertRows at h
      split at h
      · cases h
      · split at h
        · cases h
        · rw [ih h, List.append_assoc, List.singleton_append]

/-- A snapshot that was saved is found again. -/
theorem peek_of_save {s s' : Spool} {snapshot : Snapshot}
    (h : s.save snapshot = (.ok (), s')) : s'.peek = .ok snapshot := by
  obtain ⟨rs, hrows, hfound⟩ := rows_of_write h
  cases hm : snapshot.entries.mapM rowOf with
  | error cause => rw [rowsOf, hm] at hrows; cases hrows
  | ok rows =>
      rw [rowsOf, hm] at hrows
      obtain rfl : rs = rows := insertRows_eq hrows
      obtain ⟨hids, hentries⟩ := mapM_entryOf_of_rowOf hm
      have hsorted : rs.Pairwise fun a b => a.id ≤ b.id := by
        rw [← List.pairwise_map (f := Row.id) (R := (· ≤ ·)), hids, List.pairwise_map]
        exact snapshot.sorted
      rw [peek, hfound]
      dsimp only
      rw [sortBy_of_pairwise hsorted, hentries]
      exact congrArg Except.ok snapshot.ofEntries_entries

/-- A table that was cleared has nothing in it. -/
theorem peek_of_clear {s s' : Spool} (h : s.clear = (.ok (), s')) : s'.peek = .ok .empty := by
  obtain ⟨rs, hrows, hfound⟩ := rows_of_write h
  cases hrows
  rw [peek, hfound]
  rfl

theorem isEmpty_of_clear {s s' : Spool} (h : s.clear = (.ok (), s')) :
    ∃ snapshot, s'.peek = .ok snapshot ∧ snapshot.isEmpty = true :=
  ⟨.empty, peek_of_clear h, rfl⟩

/-! ### A spool that works -/

/-- A table in a file on a device that refuses nothing. -/
structure Works (s : Spool) : Prop where
  place : s.place = .file
  table : s.table.isSome = true
  accepts : ∀ k, s.faulty k = false

theorem Works.rows {s : Spool} (h : s.Works) : ∃ old, s.rows = .ok old := by
  obtain ⟨old, hold⟩ := Option.isSome_iff_exists.mp h.table
  exact ⟨old, by rw [Spool.rows, found, h.place, hold]⟩

/-- A write does not end the service of a spool, whether or not there is something to write. -/
theorem Works.write {s : Spool} (h : s.Works) (rows : Except SpoolCause (List Row)) :
    (s.write rows).2.Works := by
  obtain ⟨old, hold⟩ := h.rows
  unfold Spool.write
  rw [h.accepts, hold]
  cases rows with
  | error cause => exact ⟨h.place, h.table, h.accepts⟩
  | ok rows => exact ⟨h.place, rfl, h.accepts⟩

theorem Works.write_ok {s : Spool} (h : s.Works) (rows : List Row) :
    (s.write (.ok rows)).1 = .ok () := by
  obtain ⟨old, hold⟩ := h.rows
  exact write_fst hold (h.accepts _) (.ok rows)

theorem rowOf_of_isWritable {e : Entry} (h : e.amount.isWritable = true) :
    rowOf e = .ok ⟨e.id, toString e.amount.up, toString e.amount.down⟩ := by
  obtain ⟨hup, hdown⟩ := Bool.and_eq_true_iff.mp h
  rw [rowOf, counterText, counterText, if_pos hup, if_pos hdown]
  rfl

theorem exists_rows_of_isWritable {entries : List Entry}
    (h : ∀ e ∈ entries, e.amount.isWritable = true) : ∃ rows, entries.mapM rowOf = .ok rows := by
  induction entries with
  | nil => exact ⟨[], rfl⟩
  | cons e rest ih =>
      rw [List.forall_mem_cons] at h
      obtain ⟨rows, hrows⟩ := ih h.2
      rw [List.mapM_cons, rowOf_of_isWritable h.1, hrows]
      exact ⟨_, rfl⟩

/-- Rows of different users that all fit are written. -/
theorem insertRows_of_nodup {written rows : List Row}
    (hnarrow : ∀ r ∈ rows, isNarrow r.id = true)
    (hnodup : ((written ++ rows).map Row.id).Nodup) :
    insertRows written rows = .ok (written ++ rows) := by
  induction rows generalizing written with
  | nil => rw [insertRows, List.append_nil]
  | cons r rest ih =>
      rw [List.forall_mem_cons] at hnarrow
      have hfresh : ¬ (written.any fun w => w.id = r.id) = true := by
        intro hany
        obtain ⟨w, hw, heq⟩ := List.any_eq_true.mp hany
        rw [List.map_append, List.map_cons, List.nodup_append] at hnodup
        exact hnodup.2.2 w.id (List.mem_map_of_mem hw) r.id List.mem_cons_self
          (of_decide_eq_true heq)
      rw [insertRows, hnarrow.1, if_neg (by decide), if_neg hfresh,
        ih hnarrow.2 (by rwa [List.append_assoc, List.singleton_append]), List.append_assoc,
        List.singleton_append]

/-- A table has room for a snapshot whose users fit and differ and whose counters can be written
out. -/
theorem exists_rowsOf {snapshot : Snapshot} (hd : snapshot.Distinct)
    (hn : ∀ e ∈ snapshot.entries, isNarrow e.id = true)
    (hw : ∀ e ∈ snapshot.entries, e.amount.isWritable = true) :
    ∃ rows, rowsOf snapshot = .ok rows := by
  obtain ⟨rows, hrows⟩ := exists_rows_of_isWritable hw
  have hids := (mapM_entryOf_of_rowOf hrows).1
  have hnarrow : ∀ r ∈ rows, isNarrow r.id = true := by
    intro r hr
    have hid : r.id ∈ snapshot.entries.map Entry.id := hids ▸ List.mem_map_of_mem hr
    obtain ⟨e, he, heq⟩ := List.mem_map.mp hid
    exact heq ▸ hn e he
  refine ⟨rows, ?_⟩
  rw [rowsOf, hrows]
  exact insertRows_of_nodup hnarrow (by rw [List.nil_append, hids]; exact hd)

/-- A spool that works takes every snapshot that is tractable. -/
theorem save_of_works {s : Spool} (hs : s.Works) {snapshot : Snapshot} (hd : snapshot.Distinct)
    (ht : snapshot.Tractable) : (s.save snapshot).1 = .ok () := by
  obtain ⟨rows, hrows⟩ := exists_rowsOf hd ht.narrow ht.amounts
  rw [save, hrows]
  exact hs.write_ok rows

end Spool

end ProxyNode
