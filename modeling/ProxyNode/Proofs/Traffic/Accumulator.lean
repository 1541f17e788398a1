import ProxyNode.Proofs.Traffic.Amount
import ProxyNode.Traffic.Accumulator

/-!
# Traffic — Accumulator, as one map

An accumulator has of a user what the user's own shard has.  Merging the shards loses nothing as
long as no shard has a user of another one (`Placed`), and every operation keeps it so.

* `amountOf_add`: an addition adds for its user and for no other.
* `drain_eq`: emptying gives what a look at the counters shows, and leaves all shards empty.
* `amountOf_peek`: what is shown of a user is what the accumulator has of it.
-/

namespace ProxyNode

/-- Of maps that are merged the last one with the key counts. -/
theorem OrderedMap.get?_foldl_union {κ α : Type} [DecidableEq κ] (l : List (OrderedMap κ α))
    (m : OrderedMap κ α) (k : κ) :
    (l.foldl union m).get? k = (l.reverse.findSome? fun m => m.get? k).or (m.get? k) := by
  induction l generalizing m with
  | nil => simp
  | cons m' rest ih =>
      rw [List.foldl_cons, ih, get?_union, List.reverse_cons, List.findSome?_append,
        List.findSome?_singleton, Option.or_assoc]

namespace Accumulator

/-- Each shard has users of its own only. -/
structure Placed (a : Accumulator) : Prop where
  pos : 0 < a.shards.length
  own : ∀ i m id, a.shards[i]? = some m → id ∈ m.keys → a.shardOf id = i

/-- What an accumulator has of a user's traffic. -/
def amountOf (a : Accumulator) (id : Int) : Amount :=
  ((a.shards[a.shardOf id]?).bind fun m => m.get? id).getD 0

/-- An accumulator that has not counted anything yet. -/
def IsNew (a : Accumulator) : Prop := ∃ n, 0 < n ∧ a = ofShards n

theorem shardOf_lt {a : Accumulator} (h : 0 < a.shards.length) (id : Int) :
    a.shardOf id < a.shards.length := by
  have hn : (0 : Int) < a.shards.length := Int.natCast_pos.mpr h
  have h0 : 0 ≤ hash id % a.shards.length := Int.emod_nonneg _ (Int.ne_of_gt hn)
  have h1 : hash id % a.shards.length < a.shards.length := Int.emod_lt_of_pos _ hn
  unfold shardOf
  omega

theorem shardOf_congr {a b : Accumulator} (h : a.shards.length = b.shards.length) (id : Int) :
    a.shardOf id = b.shardOf id := by
  rw [shardOf, shardOf, h]

/-! ### Without traffic -/

theorem placed_replicate {n : Nat} (h : 0 < n) : Placed ⟨List.replicate n .empty⟩ where
  pos := by simpa using h
  own i m id hm hid := by
    obtain rfl : m = .empty := List.eq_of_mem_replicate (List.mem_of_getElem? hm)
    exact absurd hid List.not_mem_nil

theorem amountOf_replicate (n : Nat) (id : Int) :
    amountOf ⟨List.replicate n .empty⟩ id = 0 := by
  unfold amountOf
  dsimp only
  rw [List.getElem?_replicate]
  split <;> rfl

theorem IsNew.placed {a : Accumulator} (h : a.IsNew) : a.Placed := by
  obtain ⟨n, hn, rfl⟩ := h
  exact placed_replicate hn

theorem IsNew.amountOf {a : Accumulator} (h : a.IsNew) (id : Int) : a.amountOf id = 0 := by
  obtain ⟨n, -, rfl⟩ := h
  exact amountOf_replicate n id

/-! ### Additions -/

theorem getElem?_add (a : Accumulator) (id : Int) (x : Amount) (i : Nat) :
    (a.add id x).shards[i]?
      = if a.shardOf id = i then (a.shards[i]?).map fun m => addTo m id x else a.shards[i]? := by
  rw [add, List.getElem?_modify]
  by_cases h : a.shardOf id = i
  · simp only [h, if_true]
    rfl
  · simp only [h, if_false]
    exact Option.map_id_apply

theorem Placed.add {a : Accumulator} (h : a.Placed) (id : Int) (x : Amount) :
    (a.add id x).Placed where
  pos := by simpa using h.pos
  own i m j hm hj := by
    rw [shardOf_congr (a.length_add id x)]
    rw [getElem?_add] at hm
    split at hm
    · next hi =>
      obtain ⟨m', hm', rfl⟩ := Option.map_eq_some_iff.mp hm
      rw [addTo, OrderedMap.keys_insert] at hj
      split at hj
      · exact h.own i m' j hm' hj
      · rcases List.mem_append.mp hj with hj | hj
        · exact h.own i m' j hm' hj
        · rw [List.mem_singleton.mp hj, hi]
    · exact h.own i m j hm hj

/-- An addition adds for its user and for no other. -/
theorem amountOf_add {a : Accumulator} (h : a.Placed) (id : Int) (x : Amount) (j : Int) :
    (a.add id x).amountOf j = a.amountOf j + if id = j then x else 0 := by
  unfold amountOf
  rw [shardOf_congr (a.length_add id x), getElem?_add]
  by_cases hs : a.shardOf id = a.shardOf j
  · have hlt := shardOf_lt h.pos j
    rw [if_pos hs, List.getElem?_eq_getElem hlt, Option.map_some, Option.bind_some,
      Option.bind_some, addTo, OrderedMap.get?_insert]
    by_cases hj : j = id
    · subst hj
      rw [if_pos rfl, if_pos rfl]
      rfl
    · rw [if_neg hj, if_neg (Ne.symm hj), add_zero]
  · have hj : ¬ id = j := fun e => hs (by rw [e])
    rw [if_neg hs, if_neg hj, add_zero]

theorem Placed.record {a : Accumulator} (h : a.Placed) (d : Delta) : (a.record d).Placed := by
  unfold Accumulator.record
  split
  · exact h
  · exact h.add d.id d.amount

theorem amountOf_record {a : Accumulator} (h : a.Placed) (d : Delta) (id : Int) :
    (a.record d).amountOf id = a.amountOf id + d.of id := by
  unfold record
  split
  · next hz => rw [Delta.of, Amount.isZero_iff.mp hz, ite_self, add_zero]
  · exact amountOf_add h d.id d.amount id

theorem Placed.foldl_record {a : Accumulator} (h : a.Placed) (deltas : List Delta) :
    (deltas.foldl Accumulator.record a).Placed := by
  induction deltas generalizing a with
  | nil => exact h
  | cons d rest ih => exact ih (h.record d)

theorem amountOf_foldl_record {a : Accumulator} (h : a.Placed) (deltas : List Delta) (id : Int) :
    (deltas.foldl record a).amountOf id = a.amountOf id + (deltas.map fun d => d.of id).sum := by
  induction deltas generalizing a with
  | nil => exact (add_zero _).symm
  | cons d rest ih =>
      rw [List.foldl_cons, ih (h.record d), amountOf_record h, List.map_cons, List.sum_cons,
        add_assoc]

theorem Placed.restore {a : Accumulator} (h : a.Placed) (s : Snapshot) : (a.restore s).Placed := by
  unfold Accumulator.restore
  induction s.entries generalizing a with
  | nil => exact h
  | cons e rest ih => exact ih (h.add e.id e.amount)

theorem amountOf_restore {a : Accumulator} (h : a.Placed) (s : Snapshot) (id : Int) :
    (a.restore s).amountOf id = a.amountOf id + s.amountOf id := by
  unfold restore Snapshot.amountOf
  induction s.entries generalizing a with
  | nil => exact (add_zero _).symm
  | cons e rest ih =>
      rw [List.foldl_cons, ih (h.add e.id e.amount), amountOf_add h, List.map_cons, List.sum_cons,
        add_assoc]
      rfl

/-! ### Emptying -/

/-- The shards from `i` on are merged and left empty, the others are left as they are. -/
theorem drainFrom_eq {n i : Nat} {a : Accumulator} (h : i + n = a.shards.length)
    (taken : OrderedMap Int Amount) :
    drainFrom taken a i n = ((a.shards.drop i).foldl OrderedMap.union taken,
      ⟨a.shards.take i ++ List.replicate n .empty⟩) := by
  induction n generalizing i a taken with
  | zero =>
      rw [drainFrom, List.drop_of_length_le (by omega), List.take_of_length_le (by omega)]
      simp
  | succ n ih =>
      have hi : i < a.shards.length := by omega
      have hdrop : (a.swap i).2.shards.drop (i + 1) = a.shards.drop (i + 1) :=
        List.drop_set_of_lt (by omega)
      have htake : (a.swap i).2.shards.take (i + 1) = a.shards.take i ++ [.empty] := by
        show (a.shards.set i .empty).take (i + 1) = _
        rw [List.take_succ_eq_append_getElem (by simpa using hi), List.take_set_of_le (by omega),
          List.getElem_set_self]
      show drainFrom (taken.union (a.swap i).1) (a.swap i).2 (i + 1) n = _
      rw [ih (by rw [length_swap]; omega), hdrop, htake, List.drop_eq_getElem_cons hi,
        List.foldl_cons, List.append_assoc, List.singleton_append, ← List.replicate_succ, swap,
        List.getElem?_eq_getElem hi, Option.getD_some]

theorem drain_eq (a : Accumulator) :
    a.drain = (a.peek, ⟨List.replicate a.shards.length .empty⟩) := by
  rw [drain, drainFrom_eq (Nat.zero_add _)]
  rfl

theorem Placed.drain {a : Accumulator} (h : a.Placed) : a.drain.2.Placed := by
  rw [drain_eq]
  exact placed_replicate h.pos

theorem amountOf_drain (a : Accumulator) (id : Int) : a.drain.2.amountOf id = 0 := by
  rw [drain_eq]
  exact amountOf_replicate _ id

/-- The merged shards have of a user what its own shard has. -/
theorem get?_merged {a : Accumulator} (h : a.Placed) (id : Int) :
    (a.shards.foldl OrderedMap.union .empty).get? id
      = (a.shards[a.shardOf id]?).bind fun m => m.get? id := by
  rw [OrderedMap.get?_foldl_union, OrderedMap.get?_empty, Option.or_none]
  have only {m : OrderedMap Int Amount} {x : Amount} (hm : m ∈ a.shards)
      (hx : m.get? id = some x) : a.shards[a.shardOf id]? = some m := by
    obtain ⟨i, hi⟩ := List.mem_iff_getElem?.mp hm
    rwa [h.own i m id hi (OrderedMap.mem_keys_iff.mpr ⟨x, hx⟩)]
  refine Option.ext fun x => ⟨fun hx => ?_, fun hx => ?_⟩
  · obtain ⟨m, hm, hmx⟩ := List.exists_of_findSome?_eq_some hx
    rw [only (List.mem_reverse.mp hm) hmx]
    exact hmx
  · obtain ⟨m, hm, hmx⟩ := Option.bind_eq_some_iff.mp hx
    have hmem : m ∈ a.shards.reverse := List.mem_reverse.mpr (List.mem_of_getElem? hm)
    have hsome : (a.shards.reverse.findSome? fun m => m.get? id).isSome := by
      rw [List.findSome?_isSome_iff]
      exact ⟨m, hmem, by rw [hmx]; rfl⟩
    obtain ⟨y, hy⟩ := Option.isSome_iff_exists.mp hsome
    obtain ⟨m', hm', hmy⟩ := List.exists_of_findSome?_eq_some hy
    -- Both shards are the user's own.
    have he : m' = m := Option.some.inj ((only (List.mem_reverse.mp hm') hmy).symm.trans hm)
    rw [hy, ← hmy, he, hmx]

theorem amountOf_peek {a : Accumulator} (h : a.Placed) (id : Int) :
    a.peek.amountOf id = a.amountOf id := by
  rw [peek, Snapshot.amountOf_ofMap, get?_merged h]
  rfl

theorem distinct_peek (a : Accumulator) : a.peek.Distinct := Snapshot.distinct_ofMap _

end Accumulator

end ProxyNode
