import Mathlib.Algebra.Order.BigOperators.Group.List
import Mathlib.Algebra.Ring.Int.Defs
import Mathlib.Data.List.Nodup
import ProxyNode.Proofs.Data.OrderedMap
import ProxyNode.Proofs.Number.Numeral
import ProxyNode.Traffic.Snapshot

/-!
# Traffic — Amount, by user

Amounts add up in both directions at once, so that one equation of amounts speaks of both.  The
amount of a user in a snapshot is the sum over all entries of that user.

* `amountOf_ofMap`: a snapshot of a map has what the map has, for each user.
* `amountOf_of_mem`: without repeated users each entry is what its user has.
* `get?_payload`, `total_payload`: what is posted for a user, and in all, is what the snapshot has.
-/

namespace ProxyNode

namespace Amount

@[ext] theorem ext {a b : Amount} (hu : a.up = b.up) (hd : a.down = b.down) : a = b := by
  cases a; cases b; cases hu; cases hd; rfl

instance : Zero Amount := ⟨zero⟩

instance : Add Amount := ⟨add⟩

instance : AddCommMonoid Amount where
  nsmul := nsmulRec
  add_assoc a b c := ext (Int.add_assoc a.up b.up c.up) (Int.add_assoc a.down b.down c.down)
  zero_add a := ext (Int.zero_add a.up) (Int.zero_add a.down)
  add_zero a := ext (Int.add_zero a.up) (Int.add_zero a.down)
  add_comm a b := ext (Int.add_comm a.up b.up) (Int.add_comm a.down b.down)

/-- One amount is within another if it is in both directions. -/
instance : PartialOrder Amount where
  le a b := a.up ≤ b.up ∧ a.down ≤ b.down
  le_refl a := ⟨Int.le_refl a.up, Int.le_refl a.down⟩
  le_trans a b c hab hbc := ⟨Int.le_trans hab.1 hbc.1, Int.le_trans hab.2 hbc.2⟩
  le_antisymm a b hab hba := ext (Int.le_antisymm hab.1 hba.1) (Int.le_antisymm hab.2 hba.2)

instance : DecidableLE Amount := fun a b =>
  inferInstanceAs (Decidable (a.up ≤ b.up ∧ a.down ≤ b.down))

instance : IsOrderedAddMonoid Amount where
  add_le_add_left _ _ h c := ⟨Int.add_le_add_right h.1 c.up, Int.add_le_add_right h.2 c.down⟩

@[simp] theorem up_zero : (0 : Amount).up = 0 := rfl

@[simp] theorem down_zero : (0 : Amount).down = 0 := rfl

@[simp] theorem up_add (a b : Amount) : (a + b).up = a.up + b.up := rfl

@[simp] theorem down_add (a b : Amount) : (a + b).down = a.down + b.down := rfl

@[simp] theorem total_zero : (0 : Amount).total = 0 := rfl

theorem total_add (a b : Amount) : (a + b).total = a.total + b.total := by
  simp only [total, up_add, down_add]
  omega

theorem total_sum (l : List Amount) : l.sum.total = (l.map total).sum := by
  induction l with
  | nil => rfl
  | cons a rest ih => rw [List.sum_cons, total_add, ih, List.map_cons, List.sum_cons]

theorem isZero_iff {a : Amount} : a.isZero = true ↔ a = 0 := by
  rw [isZero, Bool.and_eq_true, decide_eq_true_iff, decide_eq_true_iff]
  exact ⟨fun h => ext h.1 h.2, fun h => h ▸ ⟨rfl, rfl⟩⟩

end Amount

/-- Of a key that occurs at most once the sum of its amounts is the amount it has. -/
theorem OrderedMap.sum_entries {κ : Type} [DecidableEq κ] (m : OrderedMap κ Amount) (k : κ) :
    (m.entries.map fun b => if b.1 = k then b.2 else 0).sum = (m.get? k).getD 0 := by
  obtain ⟨l, hl⟩ := m
  show _ = (OrderedMap.find k l).getD 0
  dsimp only
  induction l with
  | nil => rfl
  | cons b rest ih =>
      obtain ⟨k', a⟩ := b
      rw [List.map_cons, List.nodup_cons] at hl
      rw [List.map_cons, List.sum_cons, ih hl.2, OrderedMap.find]
      by_cases hk : k' = k
      · subst hk
        have hn : (⟨rest, hl.2⟩ : OrderedMap κ Amount).get? k' = none :=
          OrderedMap.get?_eq_none_iff.mpr hl.1
        have hf : OrderedMap.find k' rest = none := hn
        simp [hf]
      · simp [hk]

/-- What two counters of 64 bits show of a user. -/
def Delta.ofCounters (id : Int) (upload download : UInt64) : Delta where
  id := id
  upload := upload.toNat
  download := download.toNat
  upload_le := Nat.le_of_lt_succ upload.toNat_lt
  download_le := Nat.le_of_lt_succ download.toNat_lt

/-- What a delta adds to a user's traffic. -/
def Delta.of (d : Delta) (id : Int) : Amount := if d.id = id then d.amount else 0

theorem Delta.of_nonneg (d : Delta) (id : Int) : 0 ≤ d.of id := by
  unfold Delta.of
  split
  · exact ⟨Int.natCast_nonneg _, Int.natCast_nonneg _⟩
  · exact le_refl 0

/-- What an entry has of a user's traffic. -/
def Entry.of (e : Entry) (id : Int) : Amount := if e.id = id then e.amount else 0

namespace Snapshot

/-- What a snapshot has of a user's traffic. -/
def amountOf (s : Snapshot) (id : Int) : Amount := (s.entries.map fun e => e.of id).sum

/-- Entries without traffic, which a snapshot leaves out, add nothing. -/
theorem amountOf_ofEntries (entries : List Entry) (id : Int) :
    (ofEntries entries).amountOf id = (entries.map fun e => e.of id).sum := by
  have hp : (ofEntries entries).entries.Perm (entries.filter fun e => !e.amount.isZero) :=
    sortBy_perm Entry.id _
  rw [amountOf, (hp.map _).sum_eq]
  induction entries with
  | nil => rfl
  | cons e rest ih =>
      by_cases he : e.amount.isZero = true
      · have hz : e.of id = 0 := by rw [Entry.of, Amount.isZero_iff.mp he, ite_self]
        rw [List.filter_cons_of_neg (by simp [he]), ih (sortBy_perm Entry.id _), List.map_cons,
          List.sum_cons, hz, zero_add]
      · rw [List.filter_cons_of_pos (by simp [he]), List.map_cons, List.sum_cons,
          ih (sortBy_perm Entry.id _), List.map_cons, List.sum_cons]

theorem amountOf_ofMap (m : OrderedMap Int Amount) (id : Int) :
    (ofMap m).amountOf id = (m.get? id).getD 0 := by
  rw [ofMap, amountOf_ofEntries, List.map_map, ← m.sum_entries id]
  rfl

theorem amountOf_of_isEmpty {s : Snapshot} (h : s.isEmpty = true) (id : Int) :
    s.amountOf id = 0 := by
  rw [amountOf, List.isEmpty_iff.mp h]
  rfl

/-- No user occurs twice. -/
def Distinct (s : Snapshot) : Prop := (s.entries.map Entry.id).Nodup

theorem distinct_ofMap (m : OrderedMap Int Amount) : (ofMap m).Distinct := by
  have hp : ((ofMap m).entries.map Entry.id).Perm
      (((m.entries.map fun b => (⟨b.1, b.2⟩ : Entry)).filter fun e => !e.amount.isZero).map
        Entry.id) :=
    (sortBy_perm Entry.id _).map _
  refine hp.nodup_iff.mpr ((List.filter_sublist.map Entry.id).nodup ?_)
  rw [List.map_map]
  exact m.nodup

/-- Of a snapshot without repeated users each entry is what its user has. -/
theorem amountOf_of_mem {s : Snapshot} (h : s.Distinct) {e : Entry} (he : e ∈ s.entries) :
    s.amountOf e.id = e.amount := by
  have hk : (s.entries.map fun e => (e.id, e.amount)).map Prod.fst = s.entries.map Entry.id := by
    rw [List.map_map]
    rfl
  have hm : OrderedMap.get? ⟨s.entries.map fun e => (e.id, e.amount), hk ▸ h⟩ e.id
      = some e.amount :=
    OrderedMap.get?_eq_some_iff.mpr (List.mem_map.mpr ⟨e, he, rfl⟩)
  have hs := OrderedMap.sum_entries ⟨s.entries.map fun e => (e.id, e.amount), hk ▸ h⟩ e.id
  rw [hm, List.map_map] at hs
  exact hs

/-- No count in a snapshot is negative. -/
def Nonneg (s : Snapshot) : Prop := ∀ e ∈ s.entries, 0 ≤ e.amount

theorem Nonneg.amountOf {s : Snapshot} (h : s.Nonneg) (id : Int) : 0 ≤ s.amountOf id := by
  refine List.sum_nonneg fun a ha => ?_
  obtain ⟨e, he, rfl⟩ := List.mem_map.mp ha
  unfold Entry.of
  split
  · exact h e he
  · exact le_refl 0

theorem sum_eq (s : Snapshot) : s.sum = (s.entries.map Entry.amount).sum := by
  unfold sum
  induction s.entries with
  | nil => rfl
  | cons e rest ih => rw [List.foldr_cons, ih, List.map_cons, List.sum_cons]; rfl

/-- The payload has one key for each entry. -/
theorem entries_payload {s : Snapshot} (h : s.Distinct) :
    s.payload.entries = s.entries.map fun e => (toString e.id, e.amount) := by
  refine OrderedMap.entries_ofList ?_
  have hk : (s.entries.map fun e => (toString e.id, e.amount)).map Prod.fst
      = (s.entries.map Entry.id).map toString := by
    rw [List.map_map, List.map_map]
    rfl
  rw [hk]
  exact List.Nodup.map Numeral.toString_injective h

theorem get?_payload {s : Snapshot} (h : s.Distinct) (id : Int) :
    (s.payload.get? (toString id)).getD 0 = s.amountOf id := by
  rw [← OrderedMap.sum_entries, entries_payload h, List.map_map, amountOf]
  refine congrArg List.sum (List.map_congr_left fun e _ => ?_)
  exact if_congr Numeral.toString_injective.eq_iff rfl rfl

theorem total_payload {s : Snapshot} (h : s.Distinct) :
    (s.payload.values.map Amount.total).sum = s.up + s.down := by
  have hv : s.payload.values = s.entries.map Entry.amount := by
    rw [OrderedMap.values, entries_payload h, List.map_map]
    rfl
  show _ = s.sum.total
  rw [hv, sum_eq, Amount.total_sum]

end Snapshot

end ProxyNode
