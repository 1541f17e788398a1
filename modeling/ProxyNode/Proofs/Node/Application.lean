import Mathlib.Logic.Function.Basic
import ProxyNode.Proofs.Node.Calls
import ProxyNode.Proofs.Roster.Patch

/-!
# Node — Application, a change put to the engine

What a node asks of its engine to apply a change of its users, and what comes of it, in terms of
what the engine says to each removal and to each addition.

* `Makes`, `made`: the calls from a node to the same node later.
* `Marks`, `Hears`: nothing but the outcome of a cycle may have been noted, or that and a list.
* `Instance.verdict`: what the engine says to a call that concerns a user it has, or has not.
* `Diff.calls`, `Diff.fate`: the calls of a change, and what becomes of a user with it.
* `RemovesFirst.cons`, `AddsFirst.cons`: one removal or addition and those after it.
* `exists_removes`, `exists_adds`: the two halves of a change.
* `Removes.applies`: what the two halves come to.
* `exists_applies`: a change makes these calls and brings each user this fate.
-/

namespace ProxyNode

namespace Engine

/-- The user that a call concerns, if it concerns a single one. -/
def Call.user? : Call → Option Int
  | .start .. => none
  | .stop _ => none
  | .add _ id _ => some id
  | .remove _ id => some id

/-- What the instance that runs says to the removal of a user it has or to the addition of a user
it has not: nothing against it, unless the call is refused from outside or the key does not fit. -/
def Instance.verdict (i : Instance) (refused : Bool) (c : Call) : Option EngineCause :=
  if refused then some c.refusal
  else match c with
    | .add _ id key =>
      if key.length = i.config.cipher.keyLength then none else some (.keyLength id key.length)
    | _ => none

end Engine

namespace Roster

/-- The engine `e` accepts the handle `h` of its instance `i`, and has the users of a node. -/
structure Mirrors (r : Roster) (e : Engine) (h : Engine.Handle) (i : Engine.Instance) : Prop where
  check : e.check h = .ok i
  registered : ∀ id, e.users.get? id = (r.applied.get? id).map User.key

variable {r : Roster} {e : Engine} {h : Engine.Handle} {i : Engine.Instance}

theorem Serves.mirrors {config : NodeConfig} (hs : r.Serves e h i config) : r.Mirrors e h i :=
  ⟨hs.check, hs.registered⟩

theorem Mirrors.erase (hm : r.Mirrors e h i) (id : Int) :
    Mirrors { r with applied := r.applied.erase id } { e with users := e.users.erase id } h i := by
  refine ⟨hm.check, fun j => ?_⟩
  rw [OrderedMap.get?_erase, OrderedMap.get?_erase, hm.registered]
  split <;> rfl

theorem Mirrors.insert (hm : r.Mirrors e h i) (u : User) :
    Mirrors { r with applied := r.applied.insert u.id u }
      { e with users := e.users.insert u.id u.key } h i := by
  refine ⟨hm.check, fun j => ?_⟩
  rw [OrderedMap.get?_insert, OrderedMap.get?_insert, hm.registered]
  split <;> rfl

end Roster

/-! ### The calls of a node -/

namespace Node

/-- From `n` to `n'` the node made just these calls, with these answers, the first one first. -/
def Makes (n : Node) (calls : List (Engine.Call × Option EngineCause)) (n' : Node) : Prop :=
  n'.called = calls.reverse ++ n.called

/-- The calls from `n` to `n'` with the reasons of the refusals, the first one first. -/
def made (n n' : Node) : List (Engine.Call × Option EngineCause) :=
  (n'.called.take (n'.called.length - n.called.length)).reverse

variable {n n₁ n₂ n₃ : Node} {calls calls' : List (Engine.Call × Option EngineCause)}

theorem Makes.eq {n' : Node} (h : n.Makes calls n') : n.made n' = calls := by
  rw [made, h, List.length_append, Nat.add_sub_cancel, List.take_left', List.reverse_reverse]
  rfl

theorem Makes.trans (h : n₁.Makes calls n₂) (h' : n₂.Makes calls' n₃) :
    n₁.Makes (calls ++ calls') n₃ := by
  rw [Makes, h', h, List.reverse_append, List.append_assoc]

theorem makes_of_called {n' : Node} (h : n'.called = n.called) : n.Makes [] n' := h

theorem Makes.idles (h : n₁.Makes calls n₂) (hi : Idles n₂ n₃) : n₁.Makes calls n₃ :=
  hi.called.trans h

theorem Idles.makes (hi : Idles n₁ n₂) (h : n₂.Makes calls n₃) : n₁.Makes calls n₃ := by
  rw [Makes, h, hi.called]

/-- From `n` to `n'` nothing happened to the users and the engine, which was not called, but the
outcome of a cycle may have been noted. -/
structure Marks (n n' : Node) : Prop where
  roster : ∃ outcome, n'.roster = { n.roster with lastSync := outcome }
  engine : n'.engine = n.engine
  refuses : n'.refuses = n.refuses
  called : n'.called = n.called

theorem Marks.trans (h : Marks n₁ n₂) (h' : Marks n₂ n₃) : Marks n₁ n₃ := by
  obtain ⟨o, ho⟩ := h.roster
  obtain ⟨o', ho'⟩ := h'.roster
  exact ⟨⟨o', by rw [ho', ho]⟩, h'.engine.trans h.engine, h'.refuses.trans h.refuses,
    h'.called.trans h.called⟩

theorem Idles.marks (h : Idles n₁ n₂) : Marks n₁ n₂ :=
  ⟨⟨n₁.roster.lastSync, h.same.roster⟩, h.same.engine, h.same.refuses, h.called⟩

theorem Listens.marks (h : Listens n₁ n₂) : Marks n₁ n₂ := h.keeps.idles.marks

theorem marks_synced (n : Node) (ok : Bool) (message : String) : Marks n (n.synced ok message) :=
  ⟨⟨_, rfl⟩, rfl, rfl, rfl⟩

theorem marks_syncFailed (n : Node) (fault : Fault) : Marks n (n.syncFailed fault) := by
  unfold syncFailed
  split
  · exact marks_synced n false fault.message
  · exact (Listens.refl n).marks

theorem Marks.makes (h : Marks n₁ n₂) : n₁.Makes [] n₂ := h.called

theorem Makes.marks (h : n₁.Makes calls n₂) (hm : Marks n₂ n₃) : n₁.Makes calls n₃ :=
  hm.called.trans h

/-- From `n` to `n'` nothing happened to the users and the engine, which was not called, but the
outcome of a cycle and the list that it got may have been noted. -/
structure Hears (n n' : Node) : Prop where
  roster : ∃ outcome fetched,
    n'.roster = { n.roster with lastSync := outcome, fetched := fetched }
  called : n'.called = n.called

theorem Marks.hears (h : Marks n₁ n₂) : Hears n₁ n₂ := by
  obtain ⟨outcome, hr⟩ := h.roster
  exact ⟨⟨outcome, n₁.roster.fetched, hr⟩, h.called⟩

theorem Makes.hears (h : n₁.Makes calls n₂) (hm : Hears n₂ n₃) : n₁.Makes calls n₃ :=
  hm.called.trans h

theorem makes_call (n : Node) (c : Engine.Call) : n.Makes [(c, (n.call c).1)] (n.call c).2 := by
  rcases call_cases n c with ⟨e, -, hc⟩ | ⟨cause, -, hc⟩
  · rw [hc]
    rfl
  · rw [hc]
    rfl

/-- What is said to a call is what the engine says, if it is not refused from outside. -/
theorem fst_call (n : Node) (c : Engine.Call) :
    (n.call c).1 = if n.refuses n.calls c then some c.refusal
      else match n.engine.perform c with
        | .ok _ => none
        | .error cause => some cause := by
  unfold call
  by_cases hr : n.refuses n.calls c = true
  · simp [hr]
  · cases hp : n.engine.perform c <;> simp [hr]

section Users

variable {h : Engine.Handle} {i : Engine.Instance}

theorem fst_call_remove (hm : n.roster.Mirrors n.engine h i) {id : Int} {u : User}
    (hu : n.roster.applied.get? id = some u) :
    (n.call (.remove h id)).1 = i.verdict (n.refuses n.calls (.remove h id)) (.remove h id) := by
  have hreg : n.engine.users.get? id = some u.key := by
    rw [hm.registered, hu]
    rfl
  have hp : n.engine.perform (.remove h id) = .ok _ := Engine.remove_of_check hm.check hreg
  rw [fst_call, hp]
  rfl

theorem fst_call_add (hm : n.roster.Mirrors n.engine h i) {u : User}
    (hu : n.roster.applied.get? u.id = none) :
    (n.call (.add h u.id u.key)).1
      = i.verdict (n.refuses n.calls (.add h u.id u.key)) (.add h u.id u.key) := by
  have hreg : n.engine.users.get? u.id = none := by
    rw [hm.registered, hu]
    rfl
  rw [fst_call, Engine.Instance.verdict]
  by_cases hk : u.key.length = i.config.cipher.keyLength
  · have hp : n.engine.perform (.add h u.id u.key) = .ok _ := Engine.add_of_check hm.check hk hreg
    rw [hp]
    simp [hk]
  · have hp : n.engine.perform (.add h u.id u.key) = .error (.keyLength u.id u.key.length) := by
      show n.engine.add h u.id u.key = _
      rw [Engine.add_eq, hm.check]
      simp [hk]
    rw [hp]
    simp [hk]

/-! ### The two halves of a change -/

/-- What is done by removing users, to each of whose removals the engine says `v`. -/
structure Removes (n : Node) (h : Engine.Handle) (i : Engine.Instance) (ids : List Int)
    (v : Int → Option EngineCause) : Prop where
  heard : ∀ id ∈ ids, ∃ k, v id = i.verdict (n.refuses k (.remove h id)) (.remove h id)
  makes : n.Makes (ids.map fun id => (.remove h id, v id)) (n.removeAll h ids).2
  kept : (n.removeAll h ids).1 = ids.filter fun id => (v id).isSome
  refuses : (n.removeAll h ids).2.refuses = n.refuses
  mirrors : (n.removeAll h ids).2.roster.Mirrors (n.removeAll h ids).2.engine h i
  applied : ∀ j, (n.removeAll h ids).2.roster.applied.get? j
    = if j ∈ ids ∧ v j = none then none else n.roster.applied.get? j

/-- The removal of the first of some users, to which the engine says `o`; with the others it goes on
at the node `m`. -/
structure RemovesFirst (n : Node) (h : Engine.Handle) (i : Engine.Instance) (id : Int)
    (rest : List Int) (o : Option EngineCause) (m : Node) : Prop where
  heard : ∃ k, o = i.verdict (n.refuses k (.remove h id)) (.remove h id)
  makes : n.Makes [(.remove h id, o)] m
  refuses : m.refuses = n.refuses
  mirrors : m.roster.Mirrors m.engine h i
  applied : ∀ j, m.roster.applied.get? j
    = if j = id ∧ o = none then none else n.roster.applied.get? j
  others : n.removeAll h (id :: rest)
    = ([id].filter (fun _ => o.isSome) ++ (m.removeAll h rest).1, (m.removeAll h rest).2)

theorem exists_removesFirst (hm : n.roster.Mirrors n.engine h i) {id : Int} {u : User}
    (hu : n.roster.applied.get? id = some u) (rest : List Int) :
    ∃ o m, n.RemovesFirst h i id rest o m := by
  have hheard := fst_call_remove hm hu
  have hmakes := makes_call n (.remove h id)
  rcases removeAll_cons n h id rest with ⟨e, hcall, rfl, hr⟩ | ⟨cause, hcall, hr⟩
  · rw [hcall] at hmakes hheard
    refine ⟨none, n.removed h id _, ⟨n.calls, hheard⟩, hmakes, rfl, hm.erase id, fun j => ?_, hr⟩
    exact (OrderedMap.get?_erase n.roster.applied id j).trans (by simp)
  · rw [hcall] at hmakes hheard
    exact ⟨some cause, n.unremoved h id cause, ⟨n.calls, hheard⟩, hmakes, rfl, hm,
      fun j => (if_neg (by simp)).symm, hr⟩

/-- The first removal together with the others. -/
theorem RemovesFirst.cons {m : Node} {id : Int} {rest : List Int} {o : Option EngineCause}
    {v : Int → Option EngineCause} (hf : n.RemovesFirst h i id rest o m) (hnot : id ∉ rest)
    (hv : m.Removes h i rest v) : n.Removes h i (id :: rest) (Function.update v id o) := by
  -- What is said to the others is what it was without this one.
  have hne : ∀ j ∈ rest, j ≠ id := fun j hj e => hnot (e ▸ hj)
  have hold : ∀ j ∈ rest, Function.update v id o j = v j :=
    fun j hj => Function.update_of_ne (hne j hj) o v
  constructor
  case heard =>
    intro j hj
    rcases List.mem_cons.mp hj with rfl | hj
    · rw [Function.update_self]
      exact hf.heard
    · rw [hold j hj, ← hf.refuses]
      exact hv.heard j hj
  case makes =>
    rw [hf.others, List.map_cons, Function.update_self,
      List.map_congr_left fun j hj => by rw [hold j hj]]
    exact hf.makes.trans hv.makes
  case kept =>
    have hfirst : [id].filter (fun j => (Function.update v id o j).isSome)
        = [id].filter fun _ => o.isSome := by simp [List.filter_cons]
    have hothers : rest.filter (fun j => (Function.update v id o j).isSome)
        = rest.filter fun j => (v j).isSome :=
      List.filter_congr fun j hj => by rw [hold j hj]
    rw [hf.others, hv.kept, ← hfirst, ← hothers, ← List.filter_append, List.singleton_append]
  case refuses =>
    rw [hf.others]
    exact hv.refuses.trans hf.refuses
  case mirrors =>
    rw [hf.others]
    exact hv.mirrors
  case applied =>
    intro j
    rw [hf.others, hv.applied, hf.applied]
    by_cases hj : j = id
    · simp [hj, hnot]
    · simp [hj]

/-- Removing users who are there, each once. -/
theorem exists_removes (hm : n.roster.Mirrors n.engine h i) {ids : List Int} (hnodup : ids.Nodup)
    (hin : ∀ id ∈ ids, id ∈ n.roster.applied.keys) : ∃ v, n.Removes h i ids v := by
  induction ids generalizing n with
  | nil => exact ⟨fun _ => none, nofun, rfl, rfl, rfl, hm, fun j => by simp [removeAll]⟩
  | cons id rest ih =>
      rw [List.nodup_cons] at hnodup
      obtain ⟨u, hu⟩ := OrderedMap.mem_keys_iff.mp (hin id List.mem_cons_self)
      obtain ⟨o, m, hf⟩ := exists_removesFirst hm hu rest
      have hrest : ∀ j ∈ rest, j ∈ m.roster.applied.keys := by
        intro j hj
        obtain ⟨w, hw⟩ := OrderedMap.mem_keys_iff.mp (hin j (List.mem_cons_of_mem id hj))
        refine OrderedMap.mem_keys_iff.mpr ⟨w, ?_⟩
        have hne : ¬ (j = id ∧ o = none) := fun hj' => hnodup.1 (hj'.1 ▸ hj)
        rw [hf.applied, if_neg hne, hw]
      obtain ⟨v, hv⟩ := ih hf.mirrors hnodup.2 hrest
      exact ⟨Function.update v id o, hf.cons hnodup.1 hv⟩

/-- What is done by adding users, except those that were kept, to each of whose additions the
engine says `w`. -/
structure Adds (n : Node) (h : Engine.Handle) (i : Engine.Instance) (kept : List Int)
    (users : List User) (w : Int → Option EngineCause) : Prop where
  heard : ∀ u ∈ users, u.id ∉ kept →
    ∃ k, w u.id = i.verdict (n.refuses k (.add h u.id u.key)) (.add h u.id u.key)
  makes : n.Makes ((users.filter fun u => !decide (u.id ∈ kept)).map
    fun u => (.add h u.id u.key, w u.id)) (n.addAll h kept users).2.2
  refused : (n.addAll h kept users).2.1 = 0 ↔ ∀ u ∈ users, u.id ∉ kept → w u.id = none
  mirrors : (n.addAll h kept users).2.2.roster.Mirrors (n.addAll h kept users).2.2.engine h i
  added : ∀ u ∈ users, u.id ∉ kept → (n.addAll h kept users).2.2.roster.applied.get? u.id
    = if w u.id = none then some u else none
  others : ∀ j, (∀ u ∈ users, u.id = j → j ∈ kept) →
    (n.addAll h kept users).2.2.roster.applied.get? j = n.roster.applied.get? j

/-- The addition of the first of some users, to which the engine says `o`; with the others it goes on
at the node `m`. -/
structure AddsFirst (n : Node) (h : Engine.Handle) (i : Engine.Instance) (kept : List Int)
    (u : User) (rest : List User) (o : Option EngineCause) (m : Node) : Prop where
  heard : ∃ k, o = i.verdict (n.refuses k (.add h u.id u.key)) (.add h u.id u.key)
  makes : n.Makes [(.add h u.id u.key, o)] m
  refuses : m.refuses = n.refuses
  mirrors : m.roster.Mirrors m.engine h i
  applied : ∀ j, m.roster.applied.get? j
    = if j = u.id ∧ o = none then some u else n.roster.applied.get? j
  refused : (n.addAll h kept (u :: rest)).2.1 = (m.addAll h kept rest).2.1 + o.toList.length
  others : (n.addAll h kept (u :: rest)).2.2 = (m.addAll h kept rest).2.2

theorem exists_addsFirst (hm : n.roster.Mirrors n.engine h i) {kept : List Int} {u : User}
    (hk : u.id ∉ kept) (hu : n.roster.applied.get? u.id = none) (rest : List User) :
    ∃ o m, n.AddsFirst h i kept u rest o m := by
  have hheard := fst_call_add hm hu
  have hmakes := makes_call n (.add h u.id u.key)
  rcases addAll_cons n h kept u rest with
    ⟨hk', -⟩ | ⟨-, ⟨e, hcall, rfl, hr⟩ | ⟨cause, hcall, hr⟩⟩
  · exact absurd (List.contains_iff_mem.mp hk') hk
  · rw [hcall] at hmakes hheard
    refine ⟨none, n.added h u _, ⟨n.calls, hheard⟩, hmakes, rfl, hm.insert u, fun j => ?_, ?_, ?_⟩
    · exact (OrderedMap.get?_insert n.roster.applied u.id j u).trans (by simp)
    · rw [hr]
      rfl
    · rw [hr]
  · rw [hcall] at hmakes hheard
    refine ⟨some cause, n.unadded h u cause, ⟨n.calls, hheard⟩, hmakes, rfl, hm,
      fun j => (if_neg (by simp)).symm, ?_, ?_⟩
    · rw [hr]
      rfl
    · rw [hr]

/-- A user that was kept is passed over. -/
theorem Adds.cons_of_kept {kept : List Int} {u : User} {rest : List User}
    {w : Int → Option EngineCause} (hw : n.Adds h i kept rest w) (hk : u.id ∈ kept) :
    n.Adds h i kept (u :: rest) w := by
  have hr : n.addAll h kept (u :: rest) = n.addAll h kept rest := by
    rw [addAll, if_pos (List.contains_iff_mem.mpr hk)]
  have hrest : ∀ x ∈ u :: rest, x.id ∉ kept → x ∈ rest := by
    intro x hx hxk
    rcases List.mem_cons.mp hx with rfl | hx
    · exact absurd hk hxk
    · exact hx
  constructor
  case heard => exact fun x hx hxk => hw.heard x (hrest x hx hxk) hxk
  case makes =>
    rw [hr, List.filter_cons_of_neg (by simp [hk])]
    exact hw.makes
  case refused =>
    rw [hr, hw.refused, List.forall_mem_cons]
    exact ⟨fun hx => ⟨fun hxk => absurd hk hxk, hx⟩, And.right⟩
  case mirrors =>
    rw [hr]
    exact hw.mirrors
  case added =>
    intro x hx hxk
    rw [hr]
    exact hw.added x (hrest x hx hxk) hxk
  case others =>
    intro j hj
    rw [hr]
    exact hw.others j fun x hx => hj x (List.mem_cons_of_mem u hx)

/-- The first addition together with the others. -/
theorem AddsFirst.cons {m : Node} {kept : List Int} {u : User} {rest : List User}
    {o : Option EngineCause} {w : Int → Option EngineCause} (hf : n.AddsFirst h i kept u rest o m)
    (hk : u.id ∉ kept) (hu : n.roster.applied.get? u.id = none) (hnot : ∀ x ∈ rest, x.id ≠ u.id)
    (hw : m.Adds h i kept rest w) : n.Adds h i kept (u :: rest) (Function.update w u.id o) := by
  have hold : ∀ x ∈ rest, Function.update w u.id o x.id = w x.id :=
    fun x hx => Function.update_of_ne (hnot x hx) o w
  constructor
  case heard =>
    intro x hx hxk
    rcases List.mem_cons.mp hx with rfl | hx
    · rw [Function.update_self]
      exact hf.heard
    · rw [hold x hx, ← hf.refuses]
      exact hw.heard x hx hxk
  case makes =>
    rw [hf.others, List.filter_cons_of_pos (by simp [hk]), List.map_cons, Function.update_self,
      List.map_congr_left fun x hx => by rw [hold x (List.mem_filter.mp hx).1]]
    exact hf.makes.trans hw.makes
  case refused =>
    rw [hf.refused, Nat.add_eq_zero_iff, hw.refused, List.forall_mem_cons, Function.update_self]
    constructor
    · rintro ⟨hx, ho⟩
      refine ⟨fun _ => by simpa using ho, fun x hxr hxk => ?_⟩
      rw [hold x hxr]
      exact hx x hxr hxk
    · rintro ⟨ho, hx⟩
      refine ⟨fun x hxr hxk => ?_, by simp [ho hk]⟩
      rw [← hold x hxr]
      exact hx x hxr hxk
  case mirrors =>
    rw [hf.others]
    exact hw.mirrors
  case added =>
    intro x hx hxk
    rcases List.mem_cons.mp hx with rfl | hx
    · rw [hf.others, hw.others x.id fun y hy e => absurd e (hnot y hy), hf.applied,
        Function.update_self, hu]
      simp
    · rw [hf.others, hold x hx]
      exact hw.added x hx hxk
  case others =>
    intro j hj
    have hju : j ≠ u.id := fun e => hk (e ▸ hj u List.mem_cons_self e.symm)
    rw [hf.others, hw.others j fun x hx => hj x (List.mem_cons_of_mem u hx), hf.applied,
      if_neg fun hj' => hju hj'.1]

/-- Adding users who are not there, each once, except those that were kept. -/
theorem exists_adds (hm : n.roster.Mirrors n.engine h i) (kept : List Int) {users : List User}
    (hnodup : (users.map User.id).Nodup)
    (hout : ∀ u ∈ users, u.id ∉ kept → n.roster.applied.get? u.id = none) :
    ∃ w, n.Adds h i kept users w := by
  induction users generalizing n with
  | nil => exact ⟨fun _ => none, nofun, rfl, ⟨nofun, fun _ => rfl⟩, hm, nofun, fun _ _ => rfl⟩
  | cons u rest ih =>
      rw [List.map_cons, List.nodup_cons] at hnodup
      have hnot : ∀ x ∈ rest, x.id ≠ u.id :=
        fun x hx e => hnodup.1 (List.mem_map.mpr ⟨x, hx, e⟩)
      by_cases hk : u.id ∈ kept
      · obtain ⟨w, hw⟩ := ih hm hnodup.2 fun x hx => hout x (List.mem_cons_of_mem u hx)
        exact ⟨w, hw.cons_of_kept hk⟩
      · have hu := hout u List.mem_cons_self hk
        obtain ⟨o, m, hf⟩ := exists_addsFirst hm hk hu rest
        have hrest : ∀ x ∈ rest, x.id ∉ kept → m.roster.applied.get? x.id = none := by
          intro x hx hxk
          rw [hf.applied, if_neg fun hx' => hnot x hx hx'.1]
          exact hout x (List.mem_cons_of_mem u hx) hxk
        obtain ⟨w, hw⟩ := ih hf.mirrors hnodup.2 hrest
        exact ⟨Function.update w u.id o, hf.cons hk hu hnot hw⟩

end Users

end Node

/-! ### A change -/

/-- What the engine says to the removals and to the additions of a change. -/
structure Engine.Verdicts where
  remove : Int → Option EngineCause
  add : Int → Option EngineCause

namespace Diff

/-- Whether a user stays that was to be removed. -/
def keeps (d : Diff) (v : Engine.Verdicts) (i : Int) : Bool :=
  decide (i ∈ d.remove) && (v.remove i).isSome

/-- The calls of a change with what is said to them: nobody is added who could not be removed. -/
def calls (d : Diff) (h : Engine.Handle) (v : Engine.Verdicts) :
    List (Engine.Call × Option EngineCause) :=
  d.remove.map (fun i => (.remove h i, v.remove i))
    ++ (d.add.filter fun u => !d.keeps v u.id).map fun u => (.add h u.id u.key, v.add u.id)

/-- What becomes of a user with a change. -/
def fate (d : Diff) (v : Engine.Verdicts) (current : OrderedMap Int User) (i : Int) : Option User :=
  if d.keeps v i then current.get? i
  else match lastOf d.add i with
    | some u => if v.add i = none then some u else none
    | none => if i ∈ d.remove then none else current.get? i

variable {d : Diff} {h : Engine.Handle} {v : Engine.Verdicts}

theorem mem_calls_iff {c : Engine.Call} {o : Option EngineCause} :
    (c, o) ∈ d.calls h v
      ↔ (∃ i ∈ d.remove, c = .remove h i ∧ o = v.remove i)
        ∨ ∃ u ∈ d.add, d.keeps v u.id = false ∧ c = .add h u.id u.key ∧ o = v.add u.id := by
  simp only [calls, List.mem_append, List.mem_map, List.mem_filter, Prod.mk.injEq, and_assoc,
    Bool.not_eq_eq_eq_not, Bool.not_true, eq_comm (a := c), eq_comm (a := o)]

end Diff

namespace Node

variable {n : Node} {h : Engine.Handle} {i : Engine.Instance}

/-- What is done by a change, to whose calls the engine says `v`. -/
structure Applies (n : Node) (h : Engine.Handle) (i : Engine.Instance) (d : Diff)
    (v : Engine.Verdicts) : Prop where
  heard : ∀ {c o}, (c, o) ∈ d.calls h v → ∃ k, o = i.verdict (n.refuses k c) c
  makes : n.Makes (d.calls h v) (n.apply h d).2
  ok : (n.apply h d).1 = true ↔ ∀ {c o}, (c, o) ∈ d.calls h v → o = none
  mirrors : (n.apply h d).2.roster.Mirrors (n.apply h d).2.engine h i
  applied : ∀ j, (n.apply h d).2.roster.applied.get? j = d.fate v n.roster.applied j

section Halves

variable {d : Diff} {r w : Int → Option EngineCause}

/-- Those that were kept are those whose removal was refused. -/
theorem Removes.mem_kept_iff {ids : List Int} (hr : n.Removes h i ids r) {id : Int} :
    id ∈ (n.removeAll h ids).1 ↔ id ∈ ids ∧ r id ≠ none := by
  rw [hr.kept, List.mem_filter, Option.isSome_iff_ne_none]

theorem Removes.mem_kept_iff_keeps (hr : n.Removes h i d.remove r) {id : Int} :
    id ∈ (n.removeAll h d.remove).1 ↔ d.keeps ⟨r, w⟩ id = true := by
  rw [hr.mem_kept_iff, Diff.keeps, Bool.and_eq_true, decide_eq_true_iff,
    Option.isSome_iff_ne_none]

/-- A change comes off just if neither half met with a refusal. -/
theorem Removes.apply_ok_iff (hr : n.Removes h i d.remove r)
    (hw : (n.removeAll h d.remove).2.Adds h i (n.removeAll h d.remove).1 d.add w) :
    (n.apply h d).1 = true ↔ ∀ {c o}, (c, o) ∈ d.calls h ⟨r, w⟩ → o = none := by
  show ((n.removeAll h d.remove).1.length
    + ((n.removeAll h d.remove).2.addAll h (n.removeAll h d.remove).1 d.add).2.1 == 0) = true ↔ _
  rw [beq_iff_eq, Nat.add_eq_zero_iff, List.length_eq_zero_iff, hw.refused,
    List.eq_nil_iff_forall_not_mem]
  constructor
  · rintro ⟨hnone, hadded⟩ c o hc
    rcases Diff.mem_calls_iff.mp hc with ⟨id, hid, rfl, rfl⟩ | ⟨u, hu, -, rfl, rfl⟩
    · by_contra hsome
      exact hnone id (hr.mem_kept_iff.mpr ⟨hid, hsome⟩)
    · exact hadded u hu (hnone u.id)
  · intro hnone
    constructor
    · intro id hid
      obtain ⟨hmem, hsome⟩ := hr.mem_kept_iff.mp hid
      exact hsome (hnone (Diff.mem_calls_iff.mpr (.inl ⟨id, hmem, rfl, rfl⟩)))
    · intro u hu huk
      have huk' : d.keeps ⟨r, w⟩ u.id = false :=
        Bool.eq_false_iff.mpr fun hk => huk (hr.mem_kept_iff_keeps.mpr hk)
      exact hnone (Diff.mem_calls_iff.mpr (.inr ⟨u, hu, huk', rfl, rfl⟩))

/-- What becomes of a user in the two halves. -/
theorem Removes.get?_apply (hr : n.Removes h i d.remove r)
    (hw : (n.removeAll h d.remove).2.Adds h i (n.removeAll h d.remove).1 d.add w)
    (hnodup : (d.add.map User.id).Nodup) (j : Int) :
    (n.apply h d).2.roster.applied.get? j = d.fate ⟨r, w⟩ n.roster.applied j := by
  show ((n.removeAll h d.remove).2.addAll h _ d.add).2.2.roster.applied.get? j = _
  rw [Diff.fate]
  by_cases hj : d.keeps ⟨r, w⟩ j = true
  · have hkept := hr.mem_kept_iff_keeps.mpr hj
    obtain ⟨-, hsome⟩ := hr.mem_kept_iff.mp hkept
    rw [if_pos hj, hw.others j fun _ _ _ => hkept, hr.applied, if_neg fun hgone => hsome hgone.2]
  · have hjk : j ∉ (n.removeAll h d.remove).1 := fun hmem => hj (hr.mem_kept_iff_keeps.mp hmem)
    rw [if_neg hj]
    cases hl : lastOf d.add j with
    | some u =>
        obtain ⟨hu, rfl⟩ := (lastOf_eq_some_iff hnodup).mp hl
        exact hw.added u hu hjk
    | none =>
        have hnobody : ∀ u ∈ d.add, u.id = j → j ∈ (n.removeAll h d.remove).1 := by
          intro u hu hid
          cases hl.symm.trans ((lastOf_eq_some_iff hnodup).mpr ⟨hu, hid⟩)
        rw [hw.others j hnobody, hr.applied]
        by_cases hmem : j ∈ d.remove
        · have hnone : r j = none := by
            by_contra hsome
            exact hjk (hr.mem_kept_iff.mpr ⟨hmem, hsome⟩)
          simp [hmem, hnone]
        · simp [hmem]

/-- The two halves make up the change. -/
theorem Removes.applies (hr : n.Removes h i d.remove r)
    (hw : (n.removeAll h d.remove).2.Adds h i (n.removeAll h d.remove).1 d.add w)
    (hnodup : (d.add.map User.id).Nodup) : n.Applies h i d ⟨r, w⟩ where
  heard {c o} hc := by
    rcases Diff.mem_calls_iff.mp hc with ⟨id, hid, rfl, rfl⟩ | ⟨u, hu, huk, rfl, rfl⟩
    · exact hr.heard id hid
    · have hadd : u.id ∉ (n.removeAll h d.remove).1 := by
        rw [hr.mem_kept_iff_keeps, huk]
        exact Bool.false_ne_true
      rw [← hr.refuses]
      exact hw.heard u hu hadd
  makes := by
    have hadds : (d.add.filter fun u => !decide (u.id ∈ (n.removeAll h d.remove).1))
        = d.add.filter fun u => !d.keeps ⟨r, w⟩ u.id :=
      List.filter_congr fun u _ => by simp [hr.mem_kept_iff_keeps (w := w)]
    have hmakes := hr.makes.trans hw.makes
    rw [hadds] at hmakes
    exact hmakes.idles (listens_note _ _).keeps.idles
  ok := hr.apply_ok_iff hw
  mirrors := hw.mirrors
  applied := hr.get?_apply hw hnodup

end Halves

/-- Applying a change from the users of a node to any list. -/
theorem exists_applies (hm : n.roster.Mirrors n.engine h i) (listed : List User) :
    ∃ v, n.Applies h i (Diff.between n.roster.applied listed) v := by
  have hin : ∀ id ∈ (Diff.between n.roster.applied listed).remove,
      id ∈ n.roster.applied.keys := by
    intro id hid
    obtain ⟨old, ho, -⟩ := Diff.mem_remove_iff.mp hid
    exact OrderedMap.mem_keys_iff.mpr ⟨old, ho⟩
  obtain ⟨r, hr⟩ := exists_removes hm (Diff.nodup_remove n.roster.applied listed) hin
  -- Whoever is added is new or was removed, unless it is among those that were kept.
  have hout : ∀ u ∈ (Diff.between n.roster.applied listed).add,
      u.id ∉ (n.removeAll h (Diff.between n.roster.applied listed).remove).1 →
      (n.removeAll h (Diff.between n.roster.applied listed).remove).2.roster.applied.get? u.id
        = none := by
    intro u hu huk
    rw [hr.applied]
    split
    · rfl
    · next hgone =>
      cases ho : n.roster.applied.get? u.id with
      | none => rfl
      | some old =>
          have hmem := Diff.mem_remove_of_mem_add hu ho
          exact absurd (hr.mem_kept_iff.mpr ⟨hmem, fun hnone => hgone ⟨hmem, hnone⟩⟩) huk
  have hnodup := Diff.nodup_add n.roster.applied listed
  obtain ⟨w, hw⟩ := exists_adds hr.mirrors _ hnodup hout
  exact ⟨⟨r, w⟩, hr.applies hw hnodup⟩

end Node

end ProxyNode
