import ProxyNode.Proofs.Traffic.Amount
import ProxyNode.Traffic.Spool

/-!
# Traffic — Limits

A report and a spool refuse what is too large for them: a user whose number does not fit 64 bits,
and a sum that has too many digits.  If all traffic together is not too large, no part of it is.

* `Manageable`: what a list of entries has to be for this.
* `sum_total_le`: the users' shares add up to no more than the whole.
* `Tractable`: what is asked of a snapshot to be posted, noted and saved.
* `Manageable.tractable`: part of what is manageable is tractable.
-/

namespace ProxyNode

theorem Numeral.isWritable_of_le {a b : Int} (ha : 0 ≤ a) (hab : a ≤ b)
    (hb : isWritable b = true) : isWritable a = true := by
  have hb : b.natAbs < powerOfTen maxDigits := of_decide_eq_true hb
  exact decide_eq_true (by omega)

theorem Numeral.isWritable_of_isNarrow {id : Int} (h : Spool.isNarrow id = true) :
    isWritable id = true := by
  obtain ⟨hlow, hhigh⟩ := Bool.and_eq_true_iff.mp h
  have hlow : -0x8000000000000000 ≤ id := of_decide_eq_true hlow
  have hhigh : id < 0x8000000000000000 := of_decide_eq_true hhigh
  have hpow : 0x8000000000000001 < powerOfTen maxDigits := by decide +kernel
  exact decide_eq_true (by omega)

/-- Entries of users that fit 64 bits, with a sum that can be written out. -/
structure Manageable (traffic : List Entry) : Prop where
  narrow : ∀ e ∈ traffic, Spool.isNarrow e.id = true
  nonneg : ∀ e ∈ traffic, 0 ≤ e.amount
  writable : Numeral.isWritable (traffic.map fun e => e.amount.total).sum = true

/-- What a list of entries has of a user's traffic. -/
def trafficOf (traffic : List Entry) (id : Int) : Amount := (traffic.map fun e => e.of id).sum

theorem Amount.total_nonneg {a : Amount} (h : 0 ≤ a) : 0 ≤ a.total := Int.add_nonneg h.1 h.2

theorem Amount.total_mono {a b : Amount} (h : a ≤ b) : a.total ≤ b.total :=
  Int.add_le_add h.1 h.2

/-- Of an amount whose total is not too large neither direction is. -/
theorem Amount.isWritable_of_total_le {a : Amount} (ha : 0 ≤ a) {bound : Int}
    (hle : a.total ≤ bound) (hb : Numeral.isWritable bound = true) : a.isWritable = true := by
  have hup : 0 ≤ a.up := ha.1
  have hdown : 0 ≤ a.down := ha.2
  have hsum : a.up + a.down ≤ bound := hle
  exact Bool.and_eq_true_iff.mpr ⟨Numeral.isWritable_of_le hup (by omega) hb,
    Numeral.isWritable_of_le hdown (by omega) hb⟩

/-- An entry is the share of no more than one user. -/
theorem Entry.sum_total_le {e : Entry} (h : 0 ≤ e.amount) {users : List Int}
    (hu : users.Nodup) : (users.map fun id => (e.of id).total).sum ≤ e.amount.total := by
  induction users with
  | nil => exact Amount.total_nonneg h
  | cons id rest ih =>
      obtain ⟨hn, hr⟩ := List.nodup_cons.mp hu
      rw [List.map_cons, List.sum_cons]
      by_cases he : e.id = id
      · have hz : (rest.map fun j => (e.of j).total).sum = 0 := by
          refine List.sum_eq_zero fun x hx => ?_
          obtain ⟨j, hj, rfl⟩ := List.mem_map.mp hx
          have hne : ¬ e.id = j := fun heq => hn (he ▸ heq ▸ hj)
          rw [Entry.of, if_neg hne]
          rfl
        rw [hz, Entry.of, if_pos he]
        exact (add_zero _).le
      · rw [Entry.of, if_neg he]
        exact (zero_add _).trans_le (ih hr)

/-- The users' shares add up to no more than the whole. -/
theorem sum_total_le {traffic : List Entry} (h : ∀ e ∈ traffic, 0 ≤ e.amount) {users : List Int}
    (hu : users.Nodup) : (users.map fun id => (trafficOf traffic id).total).sum
      ≤ (traffic.map fun e => e.amount.total).sum := by
  induction traffic with
  | nil =>
      refine (List.sum_eq_zero fun x hx => ?_).le
      obtain ⟨id, -, rfl⟩ := List.mem_map.mp hx
      rfl
  | cons e rest ih =>
      rw [List.forall_mem_cons] at h
      have hsplit (id : Int) : (trafficOf (e :: rest) id).total
          = (e.of id).total + (trafficOf rest id).total := Amount.total_add _ _
      simp only [hsplit, List.sum_map_add, List.map_cons, List.sum_cons]
      exact Int.add_le_add (Entry.sum_total_le h.1 hu) (ih h.2)

namespace Snapshot

/-- A snapshot that can be posted, noted and saved. -/
structure Tractable (s : Snapshot) : Prop where
  narrow : ∀ e ∈ s.entries, Spool.isNarrow e.id = true
  postable : s.isPostable = true
  amounts : ∀ e ∈ s.entries, e.amount.isWritable = true
  sums : s.isWritable = true
  total : Numeral.isWritable (s.up + s.down) = true

theorem sum_nonneg {s : Snapshot} (h : s.Nonneg) : 0 ≤ s.sum := by
  rw [sum_eq]
  refine List.sum_nonneg fun a ha => ?_
  obtain ⟨e, he, rfl⟩ := List.mem_map.mp ha
  exact h e he

theorem amount_le_sum {s : Snapshot} (h : s.Nonneg) {e : Entry} (he : e ∈ s.entries) :
    e.amount ≤ s.sum := by
  rw [sum_eq]
  refine List.single_le_sum (fun a ha => ?_) _ (List.mem_map_of_mem he)
  obtain ⟨e', he', rfl⟩ := List.mem_map.mp ha
  exact h e' he'

/-- What a snapshot has in all is the sum of what it has of each of its users. -/
theorem total_sum {s : Snapshot} (h : s.Distinct) :
    s.sum.total = ((s.entries.map Entry.id).map fun id => (s.amountOf id).total).sum := by
  rw [sum_eq, Amount.total_sum, List.map_map, List.map_map]
  refine congrArg List.sum (List.map_congr_left fun e he => ?_)
  exact congrArg Amount.total (amountOf_of_mem h he).symm

end Snapshot

/-- An entry without a counterpart in the traffic would have no share in it. -/
theorem exists_mem_of_trafficOf_ne_zero {traffic : List Entry} {id : Int}
    (h : trafficOf traffic id ≠ 0) : ∃ e ∈ traffic, e.id = id := by
  by_contra hno
  refine h (List.sum_eq_zero fun a ha => ?_)
  obtain ⟨e, he, rfl⟩ := List.mem_map.mp ha
  exact if_neg fun heq => hno ⟨e, he, heq⟩

/-- Part of what is manageable is tractable. -/
theorem Manageable.tractable {traffic : List Entry} (h : Manageable traffic) {s : Snapshot}
    (hd : s.Distinct) (hn : s.Nonneg) (hle : ∀ id, s.amountOf id ≤ trafficOf traffic id) :
    s.Tractable := by
  -- The snapshot is summed up user by user, each of whom has no more than in the traffic.
  have htotal : s.sum.total ≤ (traffic.map fun e => e.amount.total).sum := by
    rw [Snapshot.total_sum hd]
    refine le_trans ?_ (sum_total_le h.nonneg hd)
    exact List.sum_le_sum fun id _ => Amount.total_mono (hle id)
  have hnarrow : ∀ e ∈ s.entries, Spool.isNarrow e.id = true := by
    intro e he
    have hne : trafficOf traffic e.id ≠ 0 := by
      intro hz
      have hzero : e.amount = 0 := by
        refine le_antisymm ?_ (hn e he)
        rw [← hz, ← Snapshot.amountOf_of_mem hd he]
        exact hle e.id
      exact absurd (Amount.isZero_iff.mpr hzero) (Bool.eq_false_iff.mp (s.busy e he))
    obtain ⟨e', he', heq⟩ := exists_mem_of_trafficOf_ne_zero hne
    exact heq ▸ h.narrow e' he'
  have hsum := Snapshot.sum_nonneg hn
  refine ⟨hnarrow, ?_, fun e he => ?_, ?_, ?_⟩
  · exact List.all_eq_true.mpr fun e he => Numeral.isWritable_of_isNarrow (hnarrow e he)
  · exact Amount.isWritable_of_total_le (hn e he)
      ((Amount.total_mono (Snapshot.amount_le_sum hn he)).trans htotal) h.writable
  · exact Amount.isWritable_of_total_le hsum htotal h.writable
  · exact Numeral.isWritable_of_le (Amount.total_nonneg hsum) htotal h.writable

end ProxyNode
