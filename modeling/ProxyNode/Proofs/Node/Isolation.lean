import ProxyNode.Proofs.Node.Application
import ProxyNode.Proofs.Node.Holding

/-!
# Node — Isolation, of those whose calls are refused

The calls by which a change is applied succeed or fail each for itself: whoever could not be removed
stays as it was, whoever was removed and could not be added is gone, and nobody else is concerned.

* `Isolated`: what a change comes to, by the calls that were refused.
* `isolated_apply`: what follows from the calls and the fate of each user.
* `fate_congr`: the fate of a user depends on what is said to its own calls.
* `apply_isolated`: any change of a node, after anything that happened to it, and whatever is
  refused.
-/

namespace ProxyNode

theorem lastOf_eq_none {users : List User} {j : Int} (h : ∀ u ∈ users, u.id ≠ j) :
    lastOf users j = none := by
  refine List.find?_eq_none.mpr fun u hu => ?_
  simpa using h u (List.mem_reverse.mp hu)

/-- A call is refused from outside, or not at all, or because of a key that does not fit. -/
theorem Engine.Instance.verdict_cases (i : Engine.Instance) (refused : Bool) (c : Engine.Call) :
    refused = true ∧ i.verdict refused c = some c.refusal
    ∨ refused = false ∧ (i.verdict refused c = none
      ∨ ∃ k id key, c = .add k id key ∧ i.verdict refused c = some (.keyLength id key.length)) := by
  cases refused with
  | true => exact .inl ⟨rfl, rfl⟩
  | false =>
      refine .inr ⟨rfl, ?_⟩
      cases c with
      | start config users => exact .inl rfl
      | stop k => exact .inl rfl
      | remove k id => exact .inl rfl
      | add k id key =>
          by_cases hk : key.length = i.config.cipher.keyLength
          · exact .inl (by simp [verdict, hk])
          · exact .inr ⟨k, id, key, rfl, by simp [verdict, hk]⟩

namespace Diff

variable {d : Diff} {h : Engine.Handle} {v v' : Engine.Verdicts} {j : Int}

theorem mem_calls_remove_iff {o : Option EngineCause} :
    (.remove h j, o) ∈ d.calls h v ↔ j ∈ d.remove ∧ o = v.remove j := by
  rw [mem_calls_iff]
  constructor
  · rintro (⟨i, hi, hc, ho⟩ | ⟨u, -, -, hc, -⟩)
    · cases hc
      exact ⟨hi, ho⟩
    · cases hc
  · rintro ⟨hj, ho⟩
    exact .inl ⟨j, hj, rfl, ho⟩

theorem mem_calls_add_iff {key : List UInt8} {o : Option EngineCause} :
    (.add h j key, o) ∈ d.calls h v
      ↔ ∃ u ∈ d.add, d.keeps v j = false ∧ u.id = j ∧ u.key = key ∧ o = v.add j := by
  rw [mem_calls_iff]
  constructor
  · rintro (⟨i, -, hc, -⟩ | ⟨u, hu, hk, hc, ho⟩)
    · cases hc
    · cases hc
      exact ⟨u, hu, hk, rfl, rfl, ho⟩
  · rintro ⟨u, hu, hk, rfl, rfl, ho⟩
    exact .inr ⟨u, hu, hk, rfl, ho⟩

/-- Kept are those whose removal was refused. -/
theorem keeps_iff : d.keeps v j = true ↔ ∃ cause, (.remove h j, some cause) ∈ d.calls h v := by
  rw [keeps, Bool.and_eq_true, decide_eq_true_iff, Option.isSome_iff_exists]
  constructor
  · rintro ⟨hj, cause, hc⟩
    exact ⟨cause, mem_calls_remove_iff.mpr ⟨hj, hc.symm⟩⟩
  · rintro ⟨cause, hc⟩
    obtain ⟨hj, ho⟩ := mem_calls_remove_iff.mp hc
    exact ⟨hj, cause, ho.symm⟩

theorem keeps_eq_false (hj : ∀ cause, (.remove h j, some cause) ∉ d.calls h v) :
    d.keeps v j = false := by
  refine Bool.eq_false_iff.mpr fun hk => ?_
  obtain ⟨cause, hc⟩ := keeps_iff.mp hk
  exact hj cause hc

/-- The fate of a user depends on what is said to its own calls. -/
theorem fate_congr (current : OrderedMap Int User)
    (hremove : j ∈ d.remove → v.remove j = v'.remove j)
    (hadd : ∀ u ∈ d.add, u.id = j → d.keeps v j = false → d.keeps v' j = false →
      v.add j = v'.add j) : d.fate v current j = d.fate v' current j := by
  have hk : d.keeps v j = d.keeps v' j := by
    by_cases hj : j ∈ d.remove
    · simp [keeps, hremove hj]
    · simp [keeps, hj]
  unfold fate
  cases hkeeps : d.keeps v' j with
  | true => simp [hk, hkeeps]
  | false =>
      cases hl : lastOf d.add j with
      | none => simp [hk, hkeeps]
      | some u =>
          have hu := List.mem_reverse.mp (List.mem_of_find?_eq_some hl)
          simp [hk, hkeeps, hadd u hu (id_of_lastOf hl) (hk.trans hkeeps) hkeeps]

end Diff

namespace Node

/-- The node with an engine that refuses just these calls from outside. -/
def refusing (n : Node) (refused : Engine.Call → Bool) : Node :=
  { n with refuses := fun _ => refused }

/-- The node has the user `u` under a number, and its engine the key of that user. -/
def Has (n : Node) (i : Int) (u : User) : Prop :=
  n.roster.applied.get? i = some u ∧ n.engine.users.get? i = some u.key

/-- Neither the node nor its engine has a user with this number. -/
def Lacks (n : Node) (i : Int) : Prop :=
  n.roster.applied.get? i = none ∧ n.engine.users.get? i = none

/-- Two nodes have the same user with this number, or both none, and so do their engines. -/
def AgreeOn (n n' : Node) (i : Int) : Prop :=
  n.roster.applied.get? i = n'.roster.applied.get? i
    ∧ n.engine.users.get? i = n'.engine.users.get? i

/-- What it comes to that the node `n` applies the change `d`, which makes it `n'`, with an engine
that refuses the calls `refused`.  Every removal is tried, and every addition of a user that was
not kept.  A call is refused from outside, or because of a key that does not fit.  Whoever could
not be removed stays and is not added; whoever could not be added is gone; with everyone else it is
done as the change has it. -/
structure Isolated (n : Node) (h : Engine.Handle) (d : Diff) (refused : Engine.Call → Bool)
    (ok : Bool) (n' : Node) : Prop where
  removals : ∀ i ∈ d.remove, ∃ o, (.remove h i, o) ∈ n.made n'
  additions : ∀ u ∈ d.add, (∀ cause, (.remove h u.id, some cause) ∉ n.made n') →
    ∃ o, (.add h u.id u.key, o) ∈ n.made n'
  heard : ∀ {c o}, (c, o) ∈ n.made n' → refused c = true ∧ o = some c.refusal
    ∨ refused c = false ∧ (o = none
      ∨ ∃ k id key, c = .add k id key ∧ o = some (.keyLength id key.length))
  kept : ∀ {i cause}, (.remove h i, some cause) ∈ n.made n' →
    (∃ old, n.Has i old ∧ n'.Has i old) ∧ ∀ key o, (.add h i key, o) ∉ n.made n'
  lost : ∀ {i key cause}, (.add h i key, some cause) ∈ n.made n' → n'.Lacks i
  removed : ∀ i ∈ d.remove, (∀ cause, (.remove h i, some cause) ∉ n.made n') →
    (∀ u ∈ d.add, u.id ≠ i) → n'.Lacks i
  added : ∀ u ∈ d.add, (∀ cause, (.remove h u.id, some cause) ∉ n.made n') →
    (∀ cause, (.add h u.id u.key, some cause) ∉ n.made n') → n'.Has u.id u
  others : ∀ i ∉ d.remove, (∀ u ∈ d.add, u.id ≠ i) → AgreeOn n n' i
  succeeds : ok = true ↔ ∀ c cause, (c, some cause) ∉ n.made n'

section Applying

variable {n : Node} {h : Engine.Handle} {i : Engine.Instance} {d : Diff} {v : Engine.Verdicts}

theorem Applies.has (ha : n.Applies h i d v) {j : Int} {u : User}
    (hf : d.fate v n.roster.applied j = some u) : (n.apply h d).2.Has j u := by
  have hget := (ha.applied j).trans hf
  refine ⟨hget, ?_⟩
  rw [ha.mirrors.registered, hget]
  rfl

theorem Applies.lacks (ha : n.Applies h i d v) {j : Int}
    (hf : d.fate v n.roster.applied j = none) : (n.apply h d).2.Lacks j := by
  have hget := (ha.applied j).trans hf
  refine ⟨hget, ?_⟩
  rw [ha.mirrors.registered, hget]
  rfl

theorem Applies.agreeOn (ha : n.Applies h i d v) (hm : n.roster.Mirrors n.engine h i) {j : Int}
    (hf : d.fate v n.roster.applied j = n.roster.applied.get? j) :
    AgreeOn n (n.apply h d).2 j := by
  have hget := (ha.applied j).trans hf
  refine ⟨hget.symm, ?_⟩
  rw [ha.mirrors.registered, hget, hm.registered]

/-- What is said to a call, by an engine that refuses the same calls whenever they are made. -/
theorem Applies.verdict {refused : Engine.Call → Bool} (ha : (n.refusing refused).Applies h i d v)
    {c : Engine.Call} {o : Option EngineCause} (hc : (c, o) ∈ d.calls h v) :
    o = i.verdict (refused c) c := by
  obtain ⟨k, ho⟩ := ha.heard hc
  exact ho

/-- A change from the users of a node to any list. -/
theorem isolated_apply {refused : Engine.Call → Bool} (hm : n.roster.Mirrors n.engine h i)
    {listed : List User}
    (ha : (n.refusing refused).Applies h i (Diff.between n.roster.applied listed) v) :
    (n.refusing refused).Isolated h (Diff.between n.roster.applied listed) refused
      ((n.refusing refused).apply h (Diff.between n.roster.applied listed)).1
      ((n.refusing refused).apply h (Diff.between n.roster.applied listed)).2 := by
  have hnodup := Diff.nodup_add n.roster.applied listed
  have hthere : ∀ j ∈ (Diff.between n.roster.applied listed).remove,
      ∃ old, n.roster.applied.get? j = some old := by
    intro j hj
    obtain ⟨old, ho, -⟩ := Diff.mem_remove_iff.mp hj
    exact ⟨old, ho⟩
  generalize Diff.between n.roster.applied listed = d at ha hnodup hthere ⊢
  have hmade := ha.makes.eq
  constructor
  case removals =>
    intro j hj
    rw [hmade]
    exact ⟨v.remove j, Diff.mem_calls_remove_iff.mpr ⟨hj, rfl⟩⟩
  case additions =>
    intro u hu hnot
    rw [hmade] at hnot ⊢
    have hk := Diff.keeps_eq_false hnot
    exact ⟨v.add u.id, Diff.mem_calls_add_iff.mpr ⟨u, hu, hk, rfl, rfl, rfl⟩⟩
  case heard =>
    intro c o hc
    rw [hmade] at hc
    rw [ha.verdict hc]
    exact i.verdict_cases (refused c) c
  case kept =>
    intro j cause hc
    rw [hmade] at hc ⊢
    have hkeeps := Diff.keeps_iff.mpr ⟨cause, hc⟩
    obtain ⟨hj, -⟩ := Diff.mem_calls_remove_iff.mp hc
    obtain ⟨old, ho⟩ := hthere j hj
    refine ⟨⟨old, ⟨ho, ?_⟩, ha.has ?_⟩, fun key o hadd => ?_⟩
    · exact (hm.registered j).trans (congrArg (Option.map User.key) ho)
    · rw [Diff.fate, if_pos hkeeps]
      exact ho
    · obtain ⟨u, -, hk, -⟩ := Diff.mem_calls_add_iff.mp hadd
      cases hk.symm.trans hkeeps
  case lost =>
    intro j key cause hc
    rw [hmade] at hc
    obtain ⟨u, hu, hk, rfl, -, ho⟩ := Diff.mem_calls_add_iff.mp hc
    refine ha.lacks ?_
    rw [Diff.fate, hk, (lastOf_eq_some_iff hnodup).mpr ⟨hu, rfl⟩]
    simp [← ho]
  case removed =>
    intro j hj hnot hnobody
    rw [hmade] at hnot
    refine ha.lacks ?_
    rw [Diff.fate, Diff.keeps_eq_false hnot, lastOf_eq_none hnobody]
    simp [hj]
  case added =>
    intro u hu hnot hadded
    rw [hmade] at hnot hadded
    have hk := Diff.keeps_eq_false hnot
    have hnone : v.add u.id = none := by
      refine Option.eq_none_iff_forall_ne_some.mpr fun cause hcause => hadded cause ?_
      exact Diff.mem_calls_add_iff.mpr ⟨u, hu, hk, rfl, rfl, hcause.symm⟩
    refine ha.has ?_
    rw [Diff.fate, hk, (lastOf_eq_some_iff hnodup).mpr ⟨hu, rfl⟩]
    simp [hnone]
  case others =>
    intro j hj hnobody
    refine ha.agreeOn hm ?_
    rw [Diff.fate, Diff.keeps, lastOf_eq_none hnobody]
    simp [hj]
  case succeeds =>
    rw [hmade, ha.ok]
    constructor
    · intro hnone c cause hc
      cases hnone hc
    · intro hnot c o hc
      exact Option.eq_none_iff_forall_ne_some.mpr fun cause ho => hnot c cause (ho ▸ hc)

/-- Two engines that say the same to all calls but those for one user bring all others the same
fate. -/
theorem agreeOn_apply {refused refused' : Engine.Call → Bool} {v' : Engine.Verdicts}
    (ha : (n.refusing refused).Applies h i d v) (ha' : (n.refusing refused').Applies h i d v')
    {x j : Int} (hsame : ∀ c, c.user? ≠ some x → refused c = refused' c) (hj : j ≠ x) :
    AgreeOn ((n.refusing refused).apply h d).2 ((n.refusing refused').apply h d).2 j := by
  have hx : some j ≠ some x := fun e => hj (Option.some.inj e)
  have hremove : j ∈ d.remove → v.remove j = v'.remove j := by
    intro hmem
    rw [ha.verdict (Diff.mem_calls_remove_iff.mpr ⟨hmem, rfl⟩),
      ha'.verdict (Diff.mem_calls_remove_iff.mpr ⟨hmem, rfl⟩), hsame (.remove h j) hx]
  have hadd : ∀ u ∈ d.add, u.id = j → d.keeps v j = false → d.keeps v' j = false →
      v.add j = v'.add j := by
    intro u hu hid hk hk'
    rw [ha.verdict (Diff.mem_calls_add_iff.mpr ⟨u, hu, hk, hid, rfl, rfl⟩),
      ha'.verdict (Diff.mem_calls_add_iff.mpr ⟨u, hu, hk', hid, rfl, rfl⟩),
      hsame (.add h j u.key) hx]
  have hget : ((n.refusing refused).apply h d).2.roster.applied.get? j
      = ((n.refusing refused').apply h d).2.roster.applied.get? j := by
    rw [ha.applied, ha'.applied]
    exact Diff.fate_congr n.roster.applied hremove hadd
  refine ⟨hget, ?_⟩
  rw [ha.mirrors.registered, ha'.mirrors.registered, hget]

end Applying

/-- Whatever happened to a node that holds a handle, whatever list its users are compared with, and
whatever calls the engine refuses from outside: the change is isolated, and to refuse other calls
for one user changes nothing for any other. -/
theorem apply_isolated {n₀ n : Node} (h : n₀.IsNew) (steps : List Step) (hn : n = n₀.after steps)
    {k : Engine.Handle} (hk : n.roster.handle = some k) (listed : List User)
    (refused : Engine.Call → Bool) :
    (n.refusing refused).Isolated k (Diff.between n.roster.applied listed) refused
      ((n.refusing refused).apply k (Diff.between n.roster.applied listed)).1
      ((n.refusing refused).apply k (Diff.between n.roster.applied listed)).2
    ∧ ∀ refused' x, (∀ c, c.user? ≠ some x → refused c = refused' c) → ∀ j ≠ x,
      AgreeOn ((n.refusing refused).apply k (Diff.between n.roster.applied listed)).2
        ((n.refusing refused').apply k (Diff.between n.roster.applied listed)).2 j := by
  have hb : n.Backed := hn ▸ backed_after h steps
  obtain ⟨i, config, hs⟩ := Roster.Backed.serves hb hk
  have hm (p : Engine.Call → Bool) :
      (n.refusing p).roster.Mirrors (n.refusing p).engine k i := hs.mirrors
  obtain ⟨v, hv⟩ := exists_applies (hm refused) listed
  refine ⟨isolated_apply hs.mirrors hv, fun refused' x hsame j hj => ?_⟩
  obtain ⟨v', hv'⟩ := exists_applies (hm refused') listed
  exact agreeOn_apply hv hv' hsame hj

/-- What the sample's panel lists in the end, with keys. -/
def sampleNext : List User :=
  [⟨1, "fedcba9876543210", keyOf 16 "fedcba9876543210"⟩,
    ⟨2, "0123456789abcdef", keyOf 16 "0123456789abcdef"⟩]

/-- Of two users the first has another secret and cannot be removed, and the second is new. -/
theorem apply_isolated_sample :
    (sampleRefusing.after [.start]).roster.handle = some 0
    ∧ ((sampleRefusing.after [.start]).refusing (sampleRefusing.refuses 0)).made
      (((sampleRefusing.after [.start]).refusing (sampleRefusing.refuses 0)).apply 0
        (Diff.between (sampleRefusing.after [.start]).roster.applied sampleNext)).2
      = [(.remove 0 1, some (.removeRefused 1)),
        (.add 0 2 (keyOf 16 "0123456789abcdef"), none)]
    ∧ ((sampleRefusing.after [.start]).refusing (sampleRefusing.refuses 0)).Isolated 0
      (Diff.between (sampleRefusing.after [.start]).roster.applied sampleNext)
      (sampleRefusing.refuses 0)
      (((sampleRefusing.after [.start]).refusing (sampleRefusing.refuses 0)).apply 0
        (Diff.between (sampleRefusing.after [.start]).roster.applied sampleNext)).1
      (((sampleRefusing.after [.start]).refusing (sampleRefusing.refuses 0)).apply 0
        (Diff.between (sampleRefusing.after [.start]).roster.applied sampleNext)).2 := by
  have hk : (sampleRefusing.after [.start]).roster.handle = some 0 := by decide +kernel
  exact ⟨hk, by decide +kernel,
    (apply_isolated isNew_sampleRefusing [.start] rfl hk sampleNext _).1⟩

end Node

end ProxyNode
