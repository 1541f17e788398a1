import ProxyNode.Proofs.Traffic.Accumulator

/-!
# Traffic — Sharding, seen from outside

The shards of an accumulator cannot be seen from outside: whatever is done with it, it answers as a
single map from users to their traffic would.

A snapshot *lists* such a map if it has one entry for each user with traffic, in ascending order,
and no others (`Snapshot.Lists`); there is only one such snapshot (`Snapshot.Lists.unique`).  The
map after some operations is `tally`: a write adds to it, a drain empties it.

* `Holds.use`, `holds_after`: an accumulator holds the tally of what was done with it.
* `Holds.lists_peek`, `Holds.answers_eq`: what it holds decides all it ever answers.
* `tally_perm`: the order of writes does not matter to the tally.
* `sharding_invisible`: all of this of an accumulator with any number of shards.
-/

namespace ProxyNode

/-! ### Snapshots and maps -/

namespace Snapshot

/-- The snapshot has an entry for each user with traffic, with what the map has of it, in ascending
order, and no other entries. -/
structure Lists (s : Snapshot) (tally : Int → Amount) : Prop where
  ascending : s.entries.Pairwise fun e f => e.id < f.id
  exact : ∀ id amount, ⟨id, amount⟩ ∈ s.entries ↔ tally id = amount ∧ amount ≠ 0

/-- A map is listed in one way only. -/
theorem Lists.unique {s t : Snapshot} {tally : Int → Amount} (hs : s.Lists tally)
    (ht : t.Lists tally) : s = t := by
  have nodup : ∀ {u : Snapshot}, u.Lists tally → u.entries.Nodup := by
    intro u hu
    refine hu.ascending.imp fun {e f} hlt heq => ?_
    subst heq
    exact Int.lt_irrefl _ hlt
  have hp : s.entries.Perm t.entries := by
    rw [List.perm_ext_iff_of_nodup (nodup hs) (nodup ht)]
    intro ⟨id, amount⟩
    rw [hs.exact, ht.exact]
  refine Snapshot.ext (hp.eq_of_pairwise ?_ hs.ascending ht.ascending)
  intro e f _ _ hef hfe
  exact absurd (Int.lt_trans hef hfe) (Int.lt_irrefl _)

/-- A user without an entry has no traffic. -/
theorem amountOf_of_not_mem {s : Snapshot} {id : Int} (h : ∀ e ∈ s.entries, e.id ≠ id) :
    s.amountOf id = 0 := by
  refine List.sum_eq_zero fun a ha => ?_
  obtain ⟨e, he, rfl⟩ := List.mem_map.mp ha
  exact if_neg (h e he)

/-- A snapshot without repeated users lists what it has of each. -/
theorem Distinct.lists {s : Snapshot} (h : s.Distinct) : s.Lists s.amountOf where
  ascending := by
    have hne : s.entries.Pairwise fun e f => e.id ≠ f.id := List.pairwise_map.mp h
    refine (s.sorted.and hne).imp ?_
    rintro e f ⟨hle, hne⟩
    omega
  exact id amount := by
    constructor
    · intro he
      have hb := s.busy _ he
      refine ⟨amountOf_of_mem h he, ?_⟩
      rintro rfl
      cases hb
    · rintro ⟨rfl, hne⟩
      by_contra hno
      refine hne (amountOf_of_not_mem ?_)
      rintro ⟨j, a⟩ he rfl
      exact hno (by rwa [amountOf_of_mem h he])

end Snapshot

namespace Accumulator

/-! ### Operations -/

/-- What is done with an accumulator. -/
inductive Use where
  | record (delta : Delta)
  | restore (snapshot : Snapshot)
  | drain
  | peek

/-- Whether an operation adds traffic. -/
def Use.isWrite : Use → Bool
  | .record _ | .restore _ => true
  | .drain | .peek => false

/-- The answer to an operation, if it has one, and the accumulator after it. -/
def use (a : Accumulator) : Use → Option Snapshot × Accumulator
  | .record d => (none, a.record d)
  | .restore s => (none, a.restore s)
  | .drain => (some a.drain.1, a.drain.2)
  | .peek => (some a.peek, a)

def after (a : Accumulator) (uses : List Use) : Accumulator :=
  uses.foldl (fun a u => (a.use u).2) a

/-- The answers to some operations, one after the other. -/
def answers (a : Accumulator) : List Use → List (Option Snapshot)
  | [] => []
  | u :: rest => (a.use u).1 :: (a.use u).2.answers rest

/-- What an operation does to a single map from users to their traffic. -/
def Use.tally (t : Int → Amount) : Use → Int → Amount
  | .record d => fun id => t id + d.of id
  | .restore s => fun id => t id + s.amountOf id
  | .drain => 0
  | .peek => t

/-- The traffic of each user that was recorded and restored since the last drain. -/
def tally (uses : List Use) : Int → Amount := uses.foldl Use.tally 0

theorem answers_append (a : Accumulator) (l l' : List Use) :
    a.answers (l ++ l') = a.answers l ++ (a.after l).answers l' := by
  induction l generalizing a with
  | nil => rfl
  | cons u rest ih => simp [answers, after, ih]

/-- Writes are not answered. -/
theorem answers_of_writes (a : Accumulator) {l : List Use} (h : ∀ u ∈ l, u.isWrite = true) :
    a.answers l = List.replicate l.length none := by
  induction l generalizing a with
  | nil => rfl
  | cons u rest ih =>
      have hr := ih (a.use u).2 fun v hv => h v (List.mem_cons_of_mem u hv)
      have hu := h u List.mem_cons_self
      rw [answers, hr]
      cases u with
      | record d => rfl
      | restore s => rfl
      | drain => cases hu
      | peek => cases hu

/-- The order of writes does not matter to the tally. -/
theorem tally_perm {l l' : List Use} (hp : l.Perm l') (h : ∀ u ∈ l, u.isWrite = true)
    (t : Int → Amount) : l.foldl Use.tally t = l'.foldl Use.tally t := by
  refine hp.foldl_eq' (fun u hu v hv t => ?_) t
  have hwu := h u hu
  have hwv := h v hv
  funext id
  cases u with
  | drain | peek => cases hwu
  | record d | restore s =>
      cases v with
      | drain | peek => cases hwv
      | record d' | restore s' => exact add_right_comm _ _ _

/-! ### What an accumulator holds -/

/-- The accumulator has of each user what the map has, and each user in its own shard. -/
structure Holds (a : Accumulator) (t : Int → Amount) : Prop where
  placed : a.Placed
  amounts : ∀ id, a.amountOf id = t id

variable {a b : Accumulator} {t : Int → Amount}

/-- An operation does to the accumulator what it does to the map. -/
theorem Holds.use (h : a.Holds t) (u : Use) : (a.use u).2.Holds (u.tally t) := by
  cases u with
  | record d =>
      refine ⟨h.placed.record d, fun id => ?_⟩
      show (a.record d).amountOf id = t id + d.of id
      rw [amountOf_record h.placed, h.amounts]
  | restore s =>
      refine ⟨h.placed.restore s, fun id => ?_⟩
      show (a.restore s).amountOf id = t id + s.amountOf id
      rw [amountOf_restore h.placed, h.amounts]
  | drain => exact ⟨h.placed.drain, amountOf_drain a⟩
  | peek => exact h

theorem Holds.after (h : a.Holds t) (uses : List Use) :
    (a.after uses).Holds (uses.foldl Use.tally t) := by
  induction uses generalizing a t with
  | nil => exact h
  | cons u rest ih => exact ih (h.use u)

theorem holds_ofShards {n : Nat} (hn : 0 < n) : (ofShards n).Holds 0 :=
  ⟨placed_replicate hn, amountOf_replicate n⟩

/-- A new accumulator holds the tally of what was done with it. -/
theorem holds_after {n : Nat} (hn : 0 < n) (uses : List Use) :
    ((ofShards n).after uses).Holds (tally uses) :=
  (holds_ofShards hn).after uses

/-- A look at the counters lists what the accumulator holds. -/
theorem Holds.lists_peek (h : a.Holds t) : a.peek.Lists t := by
  have ht : t = a.peek.amountOf := by
    funext id
    rw [amountOf_peek h.placed, h.amounts]
  exact ht ▸ (distinct_peek a).lists

/-- Two accumulators that hold the same answer the same, whatever their shards. -/
theorem Holds.answers_eq (ha : a.Holds t) (hb : b.Holds t) (uses : List Use) :
    a.answers uses = b.answers uses := by
  induction uses generalizing a b t with
  | nil => rfl
  | cons u rest ih =>
      have hpeek : a.peek = b.peek := ha.lists_peek.unique hb.lists_peek
      have hu : (a.use u).1 = (b.use u).1 := by
        cases u with
        | record d => rfl
        | restore s => rfl
        | drain => simp only [Accumulator.use, drain_eq, hpeek]
        | peek => simp only [Accumulator.use, hpeek]
      rw [answers, answers, hu, ih (ha.use u) (hb.use u)]

/-- What was drained and is restored is held again. -/
theorem Holds.restore_drain (h : a.Holds t) : (a.drain.2.restore a.drain.1).Holds t := by
  refine ⟨h.placed.drain.restore _, fun id => ?_⟩
  rw [amountOf_restore h.placed.drain, amountOf_drain, zero_add, drain_eq, amountOf_peek h.placed,
    h.amounts]

/-- The shards of an accumulator cannot be seen from outside.  After any operations a look at its
counters lists the traffic that was recorded and restored since the last drain; a drain gives the
same and leaves nothing behind, and restoring what it gave undoes it.  The number of shards and the
order of writes between two drains make no difference to any answer. -/
theorem sharding_invisible {n : Nat} (hn : 0 < n) (uses : List Use) :
    ((ofShards n).after uses).peek.Lists (tally uses)
    ∧ ((ofShards n).after uses).use .peek
      = (some ((ofShards n).after uses).drain.1, (ofShards n).after uses)
    ∧ ((ofShards n).after uses).drain.2.peek = .empty
    ∧ (∀ later, (((ofShards n).after uses).drain.2.restore
        ((ofShards n).after uses).drain.1).answers later = ((ofShards n).after uses).answers later)
    ∧ (∀ m later, 0 < m → (ofShards m).answers later = (ofShards n).answers later)
    ∧ ∀ writes writes' later, writes.Perm writes' → (∀ u ∈ writes, u.isWrite = true)
      → (ofShards n).answers (uses ++ writes ++ later)
        = (ofShards n).answers (uses ++ writes' ++ later) := by
  have h := holds_after hn uses
  refine ⟨h.lists_peek, ?_, ?_, ?_, ?_, ?_⟩
  · rw [use, drain_eq]
  · have hempty : Snapshot.empty.Lists 0 := Snapshot.Distinct.lists (s := .empty) List.nodup_nil
    exact (h.use .drain).lists_peek.unique hempty
  · intro later
    exact h.restore_drain.answers_eq h later
  · intro m later hm
    exact (holds_ofShards hm).answers_eq (holds_ofShards hn) later
  · intro writes writes' later hp hw
    have hw' : ∀ u ∈ writes', u.isWrite = true := fun u hu => hw u (hp.mem_iff.mpr hu)
    -- The writes are not answered, and both orders leave the same tally to what comes later.
    have hrest := ((h.after writes').answers_eq (tally_perm hp hw (tally uses) ▸ h.after writes)
      later).symm
    simp only [List.append_assoc, answers_append, answers_of_writes _ hw, answers_of_writes _ hw',
      hp.length_eq, hrest]

/-- Users in one shard and in several, with numbers of either sign and of any size. -/
def sampleUses : List Use :=
  [.record (.ofCounters (-1) 1 2), .record (.ofCounters 15 3 0), .drain,
    .restore (.ofEntries [⟨-2, ⟨4, 4⟩⟩, ⟨0x1FFFFFFFFFFFFFFF, ⟨5, 6⟩⟩, ⟨-2, ⟨1, 0⟩⟩]),
    .record (.ofCounters (-1) 7 8)]

/-- Sixteen shards list the sample's tally, and answer its operations as one shard does. -/
theorem sharding_invisible_sample :
    ((ofShards 16).after sampleUses).peek.Lists (tally sampleUses)
    ∧ tally sampleUses (-2) = ⟨5, 4⟩
    ∧ (ofShards 1).answers sampleUses = (ofShards 16).answers sampleUses := by
  obtain ⟨hlists, -, -, -, hshards, -⟩ := sharding_invisible (n := 16) (by decide) sampleUses
  exact ⟨hlists, by decide +kernel, hshards 1 sampleUses (by decide)⟩

end Accumulator

end ProxyNode
