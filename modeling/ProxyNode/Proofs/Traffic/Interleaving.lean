import ProxyNode.Proofs.Traffic.Accumulator

/-!
# Traffic — Interleaving, an accumulator that many share

Any number of writers add to an accumulator while any number of drains sweep over its shards.  What
nobody can come between is one addition to a shard and the swap of one shard; these steps follow
each other in any order.  A *book* is kept of all additions in the order in which they were made,
each with its *whereabouts*: it is live in a shard until a drain takes the shard, and with that
drain from then on.

* `drain_of_turns`, `restore_of_turns`: a drain and a restore that nothing comes between.
* `moved_move`: what one step can do, by what it adds or takes.
* `Kept.moved`, `Kept.moves`: what is in a shard or with a drain is what the book says is there.
* `total_moved`: a step adds to the whole what it adds, and a swap only moves it.
* `accounted_for`: both, of every interleaving.
-/

namespace ProxyNode

namespace Shared

/-- What somebody is in the middle of: adding back what is left of a snapshot, or sweeping over the
shards with what was taken so far.  A drain at its end has its snapshot. -/
inductive Task where
  | restoring (left : List Entry)
  | draining (next : Nat) (taken : OrderedMap Int Amount)
  | drained (snapshot : Snapshot)

end Shared

/-- An accumulator and the tasks of those who share it, in the order in which they began. -/
structure Shared where
  accumulator : Accumulator
  tasks : List Shared.Task := []

namespace Shared

/-- A task goes on by one step that nobody can come between. -/
def Task.next (a : Accumulator) : Task → Task × Accumulator
  | .restoring [] => (.restoring [], a)
  | .restoring (e :: left) => (.restoring left, a.add e.id e.amount)
  | .draining k taken =>
    if k < a.shards.length then (.draining (k + 1) (taken.union (a.swap k).1), (a.swap k).2)
    else (.drained (.ofMap taken), a)
  | .drained s => (.drained s, a)

/-- What may happen next: somebody records a delta, begins to restore a snapshot or begins to drain,
or the `i`-th task goes on. -/
inductive Move where
  | record (d : Delta)
  | restore (s : Snapshot)
  | drain
  | turn (i : Nat)

def move (x : Shared) : Move → Shared
  | .record d => { x with accumulator := x.accumulator.record d }
  | .restore s => { x with tasks := x.tasks ++ [.restoring s.entries] }
  | .drain => { x with tasks := x.tasks ++ [.draining 0 .empty] }
  | .turn i =>
    match x.tasks[i]? with
    | none => x
    | some t => ⟨(t.next x.accumulator).2, x.tasks.set i (t.next x.accumulator).1⟩

def moves (x : Shared) (l : List Move) : Shared := l.foldl move x

/-! ### The book -/

/-- What a move comes to: an addition, the swap of a shard by a task, or neither. -/
inductive Effect where
  | none
  | adds (e : Entry)
  | takes (shard task : Nat)

def Task.effect (a : Accumulator) (i : Nat) : Task → Effect
  | .restoring (e :: _) => .adds e
  | .draining k _ => if k < a.shards.length then .takes k i else .none
  | _ => .none

def effect (x : Shared) : Move → Effect
  | .record d => .adds ⟨d.id, d.amount⟩
  | .turn i =>
    match x.tasks[i]? with
    | none => .none
    | some t => t.effect x.accumulator i
  | _ => .none

/-- Where an addition is: live in a shard, or taken by a task. -/
inductive Whereabouts where
  | live (shard : Nat)
  | taken (task : Nat)
  deriving DecidableEq

/-- Additions in the order in which they were made, each with its whereabouts. -/
abbrev Book := List (Entry × Whereabouts)

/-- The book after a move that comes to an effect. -/
def enter (x : Shared) (b : Book) : Effect → Book
  | .none => b
  | .adds e => b ++ [(e, .live (x.accumulator.shardOf e.id))]
  | .takes k i => b.map fun p => if p.2 = .live k then (p.1, .taken i) else p

/-- The book after some moves. -/
def book (x : Shared) (b : Book) : List Move → Book
  | [] => b
  | m :: rest => (x.move m).book (x.enter b (x.effect m)) rest

/-- The addition that is made in a move, if it is one. -/
def Effect.added : Effect → List Entry
  | .none => []
  | .adds e => [e]
  | .takes .. => []

/-- The additions that are made in some moves, in their order. -/
def additions (x : Shared) : List Move → List Entry
  | [] => []
  | m :: rest => (x.effect m).added ++ (x.move m).additions rest

/-- What the book has of a user's traffic at one place. -/
def Book.amountAt (b : Book) (w : Whereabouts) (id : Int) : Amount :=
  (b.map fun p => if p.2 = w then p.1.of id else 0).sum

/-- What a drain has of a user's traffic, before it is at its end and then. -/
def Task.amountOf (id : Int) : Task → Amount
  | .restoring _ => 0
  | .draining _ taken => (taken.get? id).getD 0
  | .drained s => s.amountOf id

end Shared

/-- What one shard has of a user's traffic. -/
def Accumulator.amountIn (a : Accumulator) (shard : Nat) (id : Int) : Amount :=
  ((a.shards[shard]?).bind fun m => m.get? id).getD 0

namespace Shared

/-- Whether a task is a drain, before its end or at it. -/
def Task.isDrain : Task → Bool
  | .restoring _ => false
  | .draining .. | .drained _ => true

/-- The place of an addition is the shard of its user, or a drain. -/
def Locates (x : Shared) (p : Entry × Whereabouts) : Prop :=
  match p.2 with
  | .live k => k = x.accumulator.shardOf p.1.id
  | .taken i => (x.tasks[i]?).any Task.isDrain = true

/-- What there is of a user's traffic at one place. -/
def held (x : Shared) (id : Int) : Whereabouts → Amount
  | .live k => x.accumulator.amountIn k id
  | .taken i => ((x.tasks[i]?).map (Task.amountOf id)).getD 0

end Shared

/-! ### Shards -/

namespace Accumulator

variable {a : Accumulator}

theorem amountIn_add (h : a.Placed) (id : Int) (x : Amount) (k : Nat) (j : Int) :
    (a.add id x).amountIn k j
      = a.amountIn k j + if a.shardOf id = k ∧ id = j then x else 0 := by
  unfold amountIn
  rw [getElem?_add]
  by_cases hk : a.shardOf id = k
  · have hlt : k < a.shards.length := hk ▸ shardOf_lt h.pos id
    rw [if_pos hk, List.getElem?_eq_getElem hlt, Option.map_some, Option.bind_some,
      Option.bind_some, addTo, OrderedMap.get?_insert]
    by_cases hj : j = id
    · subst hj
      rw [if_pos rfl, if_pos ⟨hk, rfl⟩]
      rfl
    · rw [if_neg hj, if_neg fun hc => hj hc.2.symm, add_zero]
  · rw [if_neg hk, if_neg fun hc => hk hc.1, add_zero]

theorem amountIn_add_entry (h : a.Placed) (e : Entry) (k : Nat) (j : Int) :
    (a.add e.id e.amount).amountIn k j
      = a.amountIn k j + if a.shardOf e.id = k then e.of j else 0 := by
  rw [amountIn_add h, Entry.of, ite_and]

theorem amountIn_record (h : a.Placed) (d : Delta) (k : Nat) (j : Int) :
    (a.record d).amountIn k j = a.amountIn k j + if a.shardOf d.id = k then d.of j else 0 := by
  unfold record
  split
  · next hz => rw [Delta.of, Amount.isZero_iff.mp hz, ite_self, ite_self, add_zero]
  · exact amountIn_add_entry h ⟨d.id, d.amount⟩ k j

theorem amountIn_of_ne (h : a.Placed) {k : Nat} {id : Int}
    (hk : a.shardOf id ≠ k) : a.amountIn k id = 0 := by
  unfold amountIn
  cases hm : a.shards[k]? with
  | none => rfl
  | some m =>
      have hnot : id ∉ m.keys := fun hid => hk (h.own k m id hm hid)
      show (m.get? id).getD 0 = 0
      rw [OrderedMap.get?_eq_none_iff.mpr hnot]
      rfl

theorem length_record (a : Accumulator) (d : Delta) :
    (a.record d).shards.length = a.shards.length := by
  unfold record
  split
  · rfl
  · exact length_add a d.id d.amount

theorem amountIn_swap (a : Accumulator) (k j : Nat) (id : Int) :
    (a.swap k).2.amountIn j id = if j = k then 0 else a.amountIn j id := by
  unfold amountIn swap
  rw [List.getElem?_set]
  by_cases hj : j = k
  · subst hj
    rw [if_pos rfl, if_pos rfl]
    split <;> rfl
  · rw [if_neg (Ne.symm hj), if_neg hj]

/-- What is taken by a swap and what is left are what was there. -/
theorem amountOf_swap (h : a.Placed) (k : Nat) (id : Int) :
    a.amountIn k id + (a.swap k).2.amountOf id = a.amountOf id := by
  have hleft : (a.swap k).2.amountOf id = if a.shardOf id = k then 0 else a.amountOf id := by
    rw [← shardOf_congr (a.length_swap k)]
    show (a.swap k).2.amountIn _ id = _
    rw [amountIn_swap, shardOf_congr (a.length_swap k)]
    rfl
  rw [hleft]
  by_cases hk : a.shardOf id = k
  · rw [if_pos hk, add_zero, ← hk]
    rfl
  · rw [if_neg hk, amountIn_of_ne h hk, zero_add]

/-- A swap takes what the shard had. -/
theorem get?_swap (a : Accumulator) (k : Nat) (id : Int) :
    ((a.swap k).1.get? id).getD 0 = a.amountIn k id := by
  unfold amountIn swap
  cases a.shards[k]? <;> rfl

/-- A swap takes the shard's own users. -/
theorem Placed.own_swap (h : a.Placed) {k : Nat} {id : Int} (hid : id ∈ (a.swap k).1.keys) :
    a.shardOf id = k := by
  unfold Accumulator.swap at hid
  cases hm : a.shards[k]? with
  | none =>
      rw [hm] at hid
      exact absurd hid List.not_mem_nil
  | some m =>
      rw [hm] at hid
      exact h.own k m id hm hid

/-- What is taken from a shard is added to what was taken from those before it. -/
theorem Placed.get?_union_swap (h : a.Placed) {k : Nat} {taken : OrderedMap Int Amount}
    (hbehind : ∀ id ∈ taken.keys, a.shardOf id < k) (id : Int) :
    ((taken.union (a.swap k).1).get? id).getD 0 = (taken.get? id).getD 0 + a.amountIn k id := by
  rw [OrderedMap.get?_union, ← get?_swap]
  cases hm : (a.swap k).1.get? id with
  | none => exact (add_zero _).symm
  | some v =>
      have hk := h.own_swap (OrderedMap.mem_keys_iff.mpr ⟨v, hm⟩)
      have hnot : id ∉ taken.keys := fun hid => absurd (hbehind id hid) (by omega)
      rw [OrderedMap.get?_eq_none_iff.mpr hnot]
      exact (zero_add v).symm

theorem Placed.swap (h : a.Placed) (k : Nat) : (a.swap k).2.Placed where
  pos := by simpa using h.pos
  own i m id hm hid := by
    rw [shardOf_congr (a.length_swap k)]
    rw [Accumulator.swap, List.getElem?_set] at hm
    split at hm
    · split at hm
      · obtain rfl : OrderedMap.empty = m := Option.some.inj hm
        exact absurd hid List.not_mem_nil
      · cases hm
    · exact h.own i m id hm hid

end Accumulator

namespace Shared

open Accumulator

variable {x : Shared} {b : Book}

/-! ### The book and the places -/

theorem amountAt_cons (p : Entry × Whereabouts) (b : Book) (w : Whereabouts) (id : Int) :
    Book.amountAt (p :: b) w id = (if p.2 = w then p.1.of id else 0) + b.amountAt w id :=
  List.sum_cons

theorem amountAt_append_singleton (b : Book) (e : Entry) (v w : Whereabouts) (id : Int) :
    Book.amountAt (b ++ [(e, v)]) w id = b.amountAt w id + if v = w then e.of id else 0 := by
  rw [Book.amountAt, List.map_append, List.sum_append, List.map_singleton, List.sum_singleton]
  rfl

/-- What a task takes from a shard is with the task from then on. -/
theorem amountAt_taken (b : Book) (k i : Nat) (w : Whereabouts) (id : Int) :
    Book.amountAt (b.map fun p => if p.2 = .live k then (p.1, .taken i) else p) w id
      = if w = .live k then 0
        else b.amountAt w id + if w = .taken i then b.amountAt (.live k) id else 0 := by
  induction b with
  | nil => simp [Book.amountAt]
  | cons p rest ih =>
      rw [List.map_cons, amountAt_cons, amountAt_cons, amountAt_cons, ih]
      by_cases hw : w = .live k
      · subst hw
        by_cases hp : p.2 = .live k <;> simp [hp]
      · rw [if_neg hw, if_neg hw]
        by_cases hp : p.2 = .live k
        · by_cases hi : w = .taken i
          · subst hi
            simp [hp, add_left_comm]
          · simp [hp, hi, Ne.symm hw, Ne.symm hi]
        · simp [hp, add_assoc]

theorem fst_enter (x : Shared) (b : Book) (f : Effect) :
    (x.enter b f).map Prod.fst = b.map Prod.fst ++ f.added := by
  cases f with
  | none => exact (List.append_nil _).symm
  | adds e => exact List.map_append
  | takes k i =>
      show (b.map fun p => _).map Prod.fst = b.map Prod.fst ++ []
      rw [List.map_map, List.append_nil]
      refine List.map_congr_left fun p _ => ?_
      dsimp only [Function.comp_apply]
      split <;> rfl

/-- The book has each addition once, in the order in which they were made. -/
theorem fst_book (x : Shared) (b : Book) (l : List Move) :
    (x.book b l).map Prod.fst = b.map Prod.fst ++ x.additions l := by
  induction l generalizing x b with
  | nil => exact (List.append_nil _).symm
  | cons m rest ih => rw [book, ih, fst_enter, additions, List.append_assoc]

theorem book_append (x : Shared) (b : Book) (l l' : List Move) :
    x.book b (l ++ l') = (x.moves l).book (x.book b l) l' := by
  induction l generalizing x b with
  | nil => rfl
  | cons m rest ih => exact ih (x.move m) (x.enter b (x.effect m))

/-- What a drain took stays with it. -/
theorem taken_stays {j i : Nat} {e : Entry} (h : b[j]? = some (e, .taken i)) (l : List Move) :
    (x.book b l)[j]? = some (e, .taken i) := by
  induction l generalizing x b with
  | nil => exact h
  | cons m rest ih =>
      refine ih ?_
      unfold enter
      cases x.effect m with
      | none => exact h
      | adds e' => exact (List.getElem?_append_left (List.getElem?_eq_some_iff.mp h).1).trans h
      | takes k i' =>
          show (b.map fun p => _)[j]? = _
          rw [List.getElem?_map, h]
          rfl

/-! ### One step -/

/-- All that a move can do: a task begins, or goes on without touching a shard, or has no step to
take; there is an addition, which is recorded or is the next of a restore; or a drain takes the
shard that it has come to. -/
inductive Moved (x : Shared) : Effect → Shared → Prop
  | begins (t : Task) (ht : ∀ id, t.amountOf id = 0)
      (hnew : ∀ k taken, t = .draining k taken → taken = .empty) :
      Moved x .none { x with tasks := x.tasks ++ [t] }
  | goesOn {i : Nat} {t t' : Task} (hi : x.tasks[i]? = some t)
      (hamount : ∀ id, t'.amountOf id = t.amountOf id) (hdrain : t'.isDrain = t.isDrain)
      (hdone : ∀ k taken, t' ≠ .draining k taken) :
      Moved x .none { x with tasks := x.tasks.set i t' }
  | rests : Moved x .none x
  | records (d : Delta) :
      Moved x (.adds ⟨d.id, d.amount⟩) { x with accumulator := x.accumulator.record d }
  | restores {i : Nat} {e : Entry} {left : List Entry}
      (hi : x.tasks[i]? = some (.restoring (e :: left))) :
      Moved x (.adds e) ⟨x.accumulator.add e.id e.amount, x.tasks.set i (.restoring left)⟩
  | takes {i k : Nat} {taken : OrderedMap Int Amount}
      (hi : x.tasks[i]? = some (.draining k taken)) :
      Moved x (.takes k i) ⟨(x.accumulator.swap k).2,
        x.tasks.set i (.draining (k + 1) (taken.union (x.accumulator.swap k).1))⟩

theorem moved_turn {i : Nat} {t : Task} (hi : x.tasks[i]? = some t) :
    Moved x (t.effect x.accumulator i)
      ⟨(t.next x.accumulator).2, x.tasks.set i (t.next x.accumulator).1⟩ := by
  cases t with
  | restoring left =>
      cases left with
      | nil => exact .goesOn hi (fun _ => rfl) rfl nofun
      | cons e left => exact .restores hi
  | draining k taken =>
      by_cases hk : k < x.accumulator.shards.length
      · rw [Task.effect, Task.next, if_pos hk, if_pos hk]
        exact .takes hi
      · rw [Task.effect, Task.next, if_neg hk, if_neg hk]
        exact .goesOn hi (fun id => Snapshot.amountOf_ofMap taken id) rfl nofun
  | drained s => exact .goesOn hi (fun _ => rfl) rfl nofun

theorem moved_move (x : Shared) (m : Move) : Moved x (x.effect m) (x.move m) := by
  cases m with
  | record d => exact .records d
  | restore s => exact .begins _ (fun _ => rfl) nofun
  | drain => exact .begins _ (fun _ => rfl) fun k taken heq => by cases heq; rfl
  | turn i =>
      rw [effect, move]
      cases hi : x.tasks[i]? with
      | none => exact .rests
      | some t => exact moved_turn hi

/-! ### What is where -/

section Tasks

variable {l : List Task} {i : Nat} {t t' : Task}

theorem amountOf_set (h : l[i]? = some t) (t' : Task) (j : Nat) (id : Int) :
    (((l.set i t')[j]?).map (Task.amountOf id)).getD 0
      = if j = i then t'.amountOf id else ((l[j]?).map (Task.amountOf id)).getD 0 := by
  have hlt : i < l.length := (List.getElem?_eq_some_iff.mp h).1
  rw [List.getElem?_set]
  by_cases hj : j = i
  · subst hj
    rw [if_pos rfl, if_pos hlt, if_pos rfl]
    rfl
  · rw [if_neg (Ne.symm hj), if_neg hj]

theorem amountOf_set_of_eq (h : l[i]? = some t) (hamount : ∀ id, t'.amountOf id = t.amountOf id)
    (j : Nat) (id : Int) :
    (((l.set i t')[j]?).map (Task.amountOf id)).getD 0
      = ((l[j]?).map (Task.amountOf id)).getD 0 := by
  rw [amountOf_set h]
  split
  · next hj => rw [hj, h, hamount]; rfl
  · rfl

theorem amountOf_push (l : List Task) (ht : ∀ id, t.amountOf id = 0) (j : Nat) (id : Int) :
    (((l ++ [t])[j]?).map (Task.amountOf id)).getD 0
      = ((l[j]?).map (Task.amountOf id)).getD 0 := by
  rcases Nat.lt_trichotomy j l.length with hj | rfl | hj
  · rw [List.getElem?_append_left hj]
  · rw [List.getElem?_concat_length, List.getElem?_eq_none (Nat.le_refl _)]
    exact ht id
  · rw [List.getElem?_eq_none (by rw [List.length_append]; exact hj),
      List.getElem?_eq_none (Nat.le_of_lt hj)]

theorem draining_of_set (h : ∀ k taken, t' ≠ .draining k taken) (k : Nat)
    (taken : OrderedMap Int Amount) (hm : Task.draining k taken ∈ l.set i t') :
    Task.draining k taken ∈ l :=
  (List.mem_or_eq_of_mem_set hm).resolve_right fun heq => h k taken heq.symm

end Tasks

/-- What is in the shards and with the drains is what the book says is there, each user is in its
own shard, and a drain has users of the shards behind it only. -/
structure Kept (x : Shared) (b : Book) : Prop where
  placed : x.accumulator.Placed
  behind : ∀ k taken, Task.draining k taken ∈ x.tasks →
    ∀ id ∈ taken.keys, x.accumulator.shardOf id < k
  held : ∀ w id, x.held id w = b.amountAt w id

/-- An addition goes to the shard of its user. -/
theorem Kept.add (h : Kept x b) (e : Entry) {a : Accumulator} {l : List Task} (ha : a.Placed)
    (hlen : a.shards.length = x.accumulator.shards.length)
    (hin : ∀ k id, a.amountIn k id
      = x.accumulator.amountIn k id + if x.accumulator.shardOf e.id = k then e.of id else 0)
    (hl : ∀ j id, ((l[j]?).map (Task.amountOf id)).getD 0 = x.held id (.taken j))
    (hdrains : ∀ k taken, Task.draining k taken ∈ l → Task.draining k taken ∈ x.tasks) :
    Kept ⟨a, l⟩ (x.enter b (.adds e)) where
  placed := ha
  behind k taken hm id hid := by
    rw [shardOf_congr hlen]
    exact h.behind k taken (hdrains k taken hm) id hid
  held w id := by
    rw [enter, amountAt_append_singleton, ← h.held]
    cases w with
    | live k =>
        simp only [Whereabouts.live.injEq]
        exact hin k id
    | taken j =>
        rw [if_neg nofun, add_zero]
        exact hl j id

/-- A swap empties a shard for the drain that has come to it. -/
theorem Kept.take (h : Kept x b) {i k : Nat} {taken : OrderedMap Int Amount}
    (hi : x.tasks[i]? = some (Task.draining k taken)) :
    Kept ⟨(x.accumulator.swap k).2,
        x.tasks.set i (.draining (k + 1) (taken.union (x.accumulator.swap k).1))⟩
      (x.enter b (.takes k i)) where
  placed := h.placed.swap k
  behind k' taken' hm id hid := by
    rw [shardOf_congr (length_swap _ _)]
    have hbehind := h.behind k taken (List.mem_of_getElem? hi) id
    rcases List.mem_or_eq_of_mem_set hm with hm | heq
    · exact h.behind k' taken' hm id hid
    · cases heq
      obtain ⟨v, hv⟩ := OrderedMap.mem_keys_iff.mp hid
      rw [OrderedMap.get?_union, Option.or_eq_some_iff] at hv
      rcases hv with hv | ⟨-, hv⟩
      · have hk := h.placed.own_swap (OrderedMap.mem_keys_iff.mpr ⟨v, hv⟩)
        omega
      · have hk := hbehind (OrderedMap.mem_keys_iff.mpr ⟨v, hv⟩)
        omega
  held w id := by
    rw [enter, amountAt_taken, ← h.held w, ← h.held (.live k)]
    cases w with
    | live j =>
        simp only [Whereabouts.live.injEq, reduceCtorEq, if_false, add_zero]
        exact amountIn_swap x.accumulator k j id
    | taken j =>
        simp only [Whereabouts.taken.injEq, reduceCtorEq, if_false]
        refine (amountOf_set hi _ j id).trans ?_
        by_cases hj : j = i
        · subst hj
          have hbefore : x.held id (.taken j) = (taken.get? id).getD 0 := by
            rw [Shared.held, hi]
            rfl
          rw [if_pos rfl, if_pos rfl, hbefore]
          exact h.placed.get?_union_swap (h.behind k taken (List.mem_of_getElem? hi)) id
        · rw [if_neg hj, if_neg hj, add_zero]
          rfl

theorem Kept.moved (h : Kept x b) {f : Effect} {x' : Shared} (hm : Moved x f x') :
    Kept x' (x.enter b f) := by
  cases hm with
  | begins t ht hnew =>
      refine ⟨h.placed, fun k taken hm id hid => ?_, fun w id => ?_⟩
      · rcases List.mem_append.mp hm with hm | hm
        · exact h.behind k taken hm id hid
        · obtain rfl := hnew k taken (List.mem_singleton.mp hm).symm
          exact absurd hid List.not_mem_nil
      · rw [enter, ← h.held]
        cases w with
        | live k => rfl
        | taken j => exact amountOf_push x.tasks ht j id
  | goesOn hi hamount _ hdone =>
      refine ⟨h.placed, fun k taken hm => h.behind k taken (draining_of_set hdone k taken hm),
        fun w id => ?_⟩
      rw [enter, ← h.held]
      cases w with
      | live k => rfl
      | taken j => exact amountOf_set_of_eq hi hamount j id
  | rests => exact h
  | records d =>
      exact h.add ⟨d.id, d.amount⟩ (h.placed.record d) (length_record _ d)
        (amountIn_record h.placed d) (fun _ _ => rfl) fun _ _ => id
  | @restores i e left hi =>
      exact h.add e (h.placed.add e.id e.amount) (length_add _ _ _)
        (amountIn_add_entry h.placed e) (amountOf_set_of_eq hi fun _ => rfl)
        (draining_of_set nofun)
  | takes hi => exact h.take hi

theorem Kept.moves (h : Kept x b) (l : List Move) : Kept (x.moves l) (x.book b l) := by
  induction l generalizing x b with
  | nil => exact h
  | cons m rest ih => exact ih (h.moved (moved_move x m))

theorem length_moved {f : Effect} {x' : Shared} (hm : Moved x f x') :
    x'.accumulator.shards.length = x.accumulator.shards.length := by
  cases hm with
  | begins | goesOn | rests => rfl
  | records d => exact length_record _ d
  | restores => exact length_add _ _ _
  | takes => exact length_swap _ _

theorem isDrain_of_set {l : List Task} {i j : Nat} {t t' : Task} (hi : l[i]? = some t)
    (ht : t'.isDrain = t.isDrain) (h : (l[j]?).any Task.isDrain = true) :
    ((l.set i t')[j]?).any Task.isDrain = true := by
  by_cases hj : i = j
  · subst hj
    rw [hi] at h
    rw [List.getElem?_set_self (List.getElem?_eq_some_iff.mp hi).1]
    exact ht.trans h
  · rwa [List.getElem?_set_ne hj]

/-- A drain remains one. -/
theorem isDrain_moved {f : Effect} {x' : Shared} (hm : Moved x f x') {j : Nat}
    (h : (x.tasks[j]?).any Task.isDrain = true) : (x'.tasks[j]?).any Task.isDrain = true := by
  cases hm with
  | begins t =>
      have hlt : j < x.tasks.length := by
        by_contra hge
        rw [List.getElem?_eq_none (Nat.le_of_not_lt hge)] at h
        cases h
      rwa [List.getElem?_append_left hlt]
  | goesOn hi _ hdrain => exact isDrain_of_set hi hdrain h
  | rests | records => exact h
  | restores hi => exact isDrain_of_set hi rfl h
  | takes hi => exact isDrain_of_set hi rfl h

theorem locates_moved (h : ∀ p ∈ b, x.Locates p) {f : Effect} {x' : Shared} (hm : Moved x f x') :
    ∀ p ∈ x.enter b f, x'.Locates p := by
  have hlen := shardOf_congr (length_moved hm)
  have hkeeps : ∀ p ∈ b, x'.Locates p := by
    rintro ⟨e, w⟩ hp
    have hx := h _ hp
    unfold Locates at hx ⊢
    cases w with
    | live k => exact hx.trans (hlen e.id).symm
    | taken i => exact isDrain_moved hm hx
  cases f with
  | none => exact hkeeps
  | adds e =>
      intro p hp
      rcases List.mem_append.mp hp with hp | hp
      · exact hkeeps p hp
      · obtain rfl := List.mem_singleton.mp hp
        exact (hlen e.id).symm
  | takes k i =>
      intro p hp
      obtain ⟨q, hq, rfl⟩ := List.mem_map.mp hp
      split
      · cases hm with
        | takes hi =>
            show (List.set _ _ _)[i]?.any _ = true
            rw [List.getElem?_set_self (List.getElem?_eq_some_iff.mp hi).1]
            rfl
      · exact hkeeps q hq

theorem locates_moves (h : ∀ p ∈ b, x.Locates p) (l : List Move) :
    ∀ p ∈ x.book b l, (x.moves l).Locates p := by
  induction l generalizing x b with
  | nil => exact h
  | cons m rest ih => exact ih (locates_moved h (moved_move x m))

/-! ### The whole -/

/-- What is in the snapshots of the drains that are at their end. -/
def finished (x : Shared) (id : Int) : Amount :=
  (x.tasks.map fun
    | .drained s => s.amountOf id
    | _ => 0).sum

/-- What the drains that are not at their end have taken so far. -/
def underway (x : Shared) (id : Int) : Amount :=
  (x.tasks.map fun
    | .draining _ taken => (taken.get? id).getD 0
    | _ => 0).sum

/-- What is in all shards. -/
def live (x : Shared) (id : Int) : Amount :=
  (x.accumulator.shards.map fun m => (m.get? id).getD 0).sum

theorem finished_add_underway (x : Shared) (id : Int) :
    x.finished id + x.underway id = (x.tasks.map (Task.amountOf id)).sum := by
  rw [finished, underway, ← List.sum_map_add]
  refine congrArg List.sum (List.map_congr_left fun t _ => ?_)
  cases t with
  | restoring left => exact add_zero 0
  | draining k taken => exact zero_add _
  | drained s => exact add_zero _

/-- One element of a list grows. -/
theorem sum_map_set {α : Type} {f : α → Amount} {l : List α} {i : Nat} {a a' : α} {y : Amount}
    (hi : l[i]? = some a) (hy : f a' = f a + y) :
    ((l.set i a').map f).sum = (l.map f).sum + y := by
  induction l generalizing i with
  | nil => cases hi
  | cons c rest ih =>
      cases i with
      | zero =>
          obtain rfl : c = a := Option.some.inj hi
          rw [List.set_cons_zero, List.map_cons, List.map_cons, List.sum_cons, List.sum_cons, hy,
            add_right_comm]
      | succ i =>
          rw [List.set_cons_succ, List.map_cons, List.map_cons, List.sum_cons, List.sum_cons, ih hi,
            add_assoc]

/-- All shards together have of a user what its own shard has. -/
theorem live_eq (h : x.accumulator.Placed) (id : Int) : x.live id = x.accumulator.amountOf id := by
  generalize hs : x.accumulator.shardOf id = s
  have hlt : s < x.accumulator.shards.length := hs ▸ shardOf_lt h.pos id
  -- The user's own shard is put back among shards that have nothing of the user.
  have hback : (x.accumulator.shards.set s .empty).set s x.accumulator.shards[s]
      = x.accumulator.shards := by
    rw [List.set_set, List.set_getElem_self hlt]
  have hothers : ((x.accumulator.shards.set s .empty).map fun m => (m.get? id).getD 0).sum = 0 := by
    refine List.sum_eq_zero fun y hy => ?_
    obtain ⟨m, hm, rfl⟩ := List.mem_map.mp hy
    obtain ⟨k, hk⟩ := List.mem_iff_getElem?.mp hm
    have hleft : (m.get? id).getD 0 = (x.accumulator.swap s).2.amountIn k id := by
      unfold amountIn swap
      rw [hk]
      rfl
    rw [hleft, amountIn_swap]
    split
    · rfl
    · next hne => exact amountIn_of_ne h (by rw [hs]; exact Ne.symm hne)
  rw [live, ← hback, sum_map_set (List.getElem?_set_self hlt) (zero_add _).symm, hothers, zero_add,
    amountOf, hs, List.getElem?_eq_getElem hlt]
  rfl

/-- A step adds to the whole what it adds; a swap only moves it. -/
theorem total_moved (h : Kept x b) {f : Effect} {x' : Shared} (hm : Moved x f x') (id : Int) :
    (x'.tasks.map (Task.amountOf id)).sum + x'.accumulator.amountOf id
      = (x.tasks.map (Task.amountOf id)).sum + x.accumulator.amountOf id
        + (f.added.map fun e => e.of id).sum := by
  cases hm with
  | begins t ht =>
      rw [List.map_append, List.sum_append, List.map_singleton, List.sum_singleton, ht, add_zero]
      exact (add_zero _).symm
  | goesOn hi hamount =>
      rw [sum_map_set hi ((hamount id).trans (add_zero _).symm), add_zero]
      exact (add_zero _).symm
  | rests => exact (add_zero _).symm
  | records d =>
      rw [amountOf_record h.placed, Effect.added, List.map_singleton, List.sum_singleton, add_assoc]
      rfl
  | @restores i e left hi =>
      have hsame : (Task.restoring left).amountOf id
          = (Task.restoring (e :: left)).amountOf id + 0 := (add_zero _).symm
      rw [sum_map_set hi hsame, add_zero, amountOf_add h.placed, Effect.added, List.map_singleton,
        List.sum_singleton, add_assoc]
      rfl
  | @takes i k taken hi =>
      have hbehind := h.behind k taken (List.mem_of_getElem? hi)
      rw [sum_map_set hi (h.placed.get?_union_swap hbehind id), add_assoc, Effect.added,
        List.map_nil, List.sum_nil, add_zero, amountOf_swap h.placed]

/-! ### Without an interruption -/

theorem moves_cons (x : Shared) (m : Move) (l : List Move) :
    x.moves (m :: l) = (x.move m).moves l := rfl

theorem turn_last (a : Accumulator) (tasks : List Task) (t : Task) :
    Shared.move ⟨a, tasks ++ [t]⟩ (.turn tasks.length)
      = ⟨(t.next a).2, tasks ++ [(t.next a).1]⟩ := by
  simp only [Shared.move, List.getElem?_concat_length, List.set_append_right _ _ (Nat.le_refl _),
    Nat.sub_self, List.set_cons_zero]

/-- A drain that nothing comes between, from the shard that it has come to. -/
theorem drain_of_turns (tasks : List Task) {k m : Nat} {a : Accumulator}
    (h : k + m = a.shards.length) (taken : OrderedMap Int Amount) :
    Shared.moves ⟨a, tasks ++ [.draining k taken]⟩ (List.replicate (m + 1) (.turn tasks.length))
      = ⟨(drainFrom taken a k m).2,
        tasks ++ [.drained (.ofMap (drainFrom taken a k m).1)]⟩ := by
  induction m generalizing k a taken with
  | zero =>
      have hk : ¬ k < a.shards.length := by omega
      rw [List.replicate_one, moves_cons, turn_last, Task.next, if_neg hk]
      rfl
  | succ m ih =>
      have hk : k < a.shards.length := by omega
      have hrest : k + 1 + m = (a.swap k).2.shards.length := by
        rw [length_swap]
        omega
      rw [List.replicate_succ, moves_cons, turn_last, Task.next, if_pos hk]
      exact ih hrest (taken.union (a.swap k).1)

/-- A restore that nothing comes between. -/
theorem restore_of_turns (tasks : List Task) (a : Accumulator) (entries : List Entry) :
    Shared.moves ⟨a, tasks ++ [.restoring entries]⟩
        (List.replicate entries.length (.turn tasks.length))
      = ⟨entries.foldl (fun a e => a.add e.id e.amount) a, tasks ++ [.restoring []]⟩ := by
  induction entries generalizing a with
  | nil => rfl
  | cons e rest ih =>
      rw [List.length_cons, List.replicate_succ, moves_cons, turn_last]
      exact ih (a.add e.id e.amount)

/-! ### Every interleaving -/

/-- A new accumulator with `n` shards, that nobody has used yet. -/
def opened (n : Nat) : Shared := ⟨ofShards n, []⟩

theorem kept_opened {n : Nat} (hn : 0 < n) : Kept (opened n) [] where
  placed := placed_replicate hn
  behind _ _ hm := absurd hm List.not_mem_nil
  held w id := by
    cases w with
    | live k =>
        show amountIn ⟨List.replicate n .empty⟩ k id = 0
        unfold amountIn
        dsimp only
        rw [List.getElem?_replicate]
        split <;> rfl
    | taken i => rfl

theorem total_moves (h : Kept x b) (l : List Move) (id : Int) :
    ((x.moves l).tasks.map (Task.amountOf id)).sum + (x.moves l).accumulator.amountOf id
      = (x.tasks.map (Task.amountOf id)).sum + x.accumulator.amountOf id
        + ((x.additions l).map fun e => e.of id).sum := by
  induction l generalizing x b with
  | nil => exact (add_zero _).symm
  | cons m rest ih =>
      have hm := moved_move x m
      rw [additions, List.map_append, List.sum_append, ← add_assoc, ← total_moved h hm]
      exact ih (h.moved hm)

/-- How the traffic of a shared accumulator is accounted for: by a book in which each addition
stands once, in a shard or with a drain, such that each shard and each drain has what the additions
that are there amount to. -/
structure Accounts (x : Shared) (added : List Entry) (b : Book) : Prop where
  once : b.map Prod.fst = added
  located : ∀ p ∈ b, x.Locates p
  held : ∀ w id, x.held id w = b.amountAt w id
  total : ∀ id, (added.map fun e => e.of id).sum = x.finished id + x.underway id + x.live id

/-- Whoever shares an accumulator and in whatever order their steps follow each other: all that was
recorded and restored is with a drain or live, each addition in one place, and what a drain took
stays with it. -/
theorem accounted_for {n : Nat} (hn : 0 < n) (l : List Move) :
    Accounts ((opened n).moves l) ((opened n).additions l) ((opened n).book [] l)
    ∧ ∀ later (j : Nat) (e : Entry) (i : Nat),
      ((opened n).book [] l)[j]? = some (e, Whereabouts.taken i) →
      ((opened n).book [] (l ++ later))[j]? = some (e, Whereabouts.taken i) := by
  have hkept := (kept_opened hn).moves l
  refine ⟨⟨fst_book _ _ _, locates_moves (fun p hp => absurd hp List.not_mem_nil) l, hkept.held,
    fun id => ?_⟩, fun later j e i hj => ?_⟩
  · have htotal := total_moves (kept_opened hn) l id
    have hempty : (opened n).accumulator.amountOf id = 0 := amountOf_replicate n id
    rw [hempty, opened, List.map_nil, List.sum_nil, zero_add, zero_add] at htotal
    rw [finished_add_underway, live_eq hkept.placed]
    exact htotal.symm
  · rw [book_append]
    exact taken_stays hj later

/-- Two drains sweep at once over two shards.  A delta lands behind the first and before the second,
and a snapshot is half restored. -/
def sampleMoves : List Move :=
  [.record (.ofCounters 2 1 2), .drain, .turn 0, .record (.ofCounters 2 3 4), .drain, .turn 1,
    .record (.ofCounters 1 5 6), .restore (.ofEntries [⟨1, ⟨7, 0⟩⟩, ⟨2, ⟨0, 7⟩⟩]), .turn 2, .turn 0,
    .turn 0]

theorem accounted_for_sample :
    0 < 2
    ∧ ((opened 2).moves sampleMoves).finished 2 = ⟨1, 2⟩
    ∧ ((opened 2).moves sampleMoves).underway 2 = ⟨3, 4⟩
    ∧ ((opened 2).moves sampleMoves).finished 1 = ⟨12, 6⟩
    ∧ (((opened 2).book [] sampleMoves).map Prod.snd)
      = [.taken 0, .taken 1, .taken 0, .taken 0]
    ∧ Accounts ((opened 2).moves sampleMoves) ((opened 2).additions sampleMoves)
      ((opened 2).book [] sampleMoves) :=
  ⟨by decide, by decide +kernel, by decide +kernel, by decide +kernel, by decide +kernel,
    (accounted_for (by decide) sampleMoves).1⟩

end Shared

end ProxyNode
