import ProxyNode.Proofs.Engine.Guise
import ProxyNode.Proofs.Node.Pace
import ProxyNode.Proofs.Panel.Veil

/-!
# Node — Likeness, two nodes that differ in what does not matter to a sync cycle

Two nodes that have the same settings and whose panels give answers that belong together, with the
same users under other secrets.  Their traffic may differ, and one may have more patience left.

* `Likeness`: in what they may differ.
* `Node.Matches`: the nodes that differ in nothing else, and what happened to them since.
* `Matches.ask`, `Matches.call`: asking and calling leave them so.
* `Matches.fetchConfig`, `Matches.fetchUsers`: requests, and what is made of the answers.
-/

namespace ProxyNode

/-- In what two nodes may differ: in the secrets and the keys of their users, in the turns in which
their panels list them, in their traffic and in the reports of it, and in their patience. -/
structure Likeness extends Guise where
  entry : Json → Json → Prop
  turn : Panel.Turn → Panel.Turn → Prop
  ledger : Ledger → Ledger → Prop
  push : List Panel.Turn → List Panel.Turn → Prop
  ahead : Nat
  idle : turn .idle .idle
  counted : ∀ {t t'}, turn t t' → t'.counted = t.counted
  stops : ∀ {t t'}, turn t t' → t'.stops = t.stops
  listing : ∀ {t t'}, turn t t' → ∀ c : Panel.Client,
    (c.acceptUsers t.answer).1.Matches toGuise entry (c.acceptUsers t'.answer).1
    ∧ (c.acceptUsers t'.answer).2 = (c.acceptUsers t.answer).2
  record : ∀ {l l'}, ledger l l' → ∀ d,
    ledger { l with accumulator := l.accumulator.record d }
      { l' with accumulator := l'.accumulator.record d }

variable {L : Likeness}

/-- The same event in the lives of both nodes. -/
inductive Event.Matches (L : Likeness) : Event → Event → Prop
  | same (e : Event) : Event.Matches L e e
  | asked (request : Panel.Request) {turn turn' : Panel.Turn} :
      L.turn turn turn' → Event.Matches L (.asked request turn) (.asked request turn')
  | called {call call' : Engine.Call} (refusal : Option EngineCause) :
      Engine.Call.Matches L.toGuise call call' →
      Event.Matches L (.called call refusal) (.called call' refusal)
  | malformed {item item' : Json} :
      L.entry item item' →
      Event.Matches L (.noted (.malformedUser item)) (.noted (.malformedUser item'))

/-- The same users under other secrets, registered with the same instance. -/
structure Roster.Matches (g : Guise) (r r' : Roster) : Prop where
  config : r'.config = r.config
  applied : Table.Matches g r.applied r'.applied
  fetched : Option.Rel (Users.Matches g) r.fetched r'.fetched
  handle : r'.handle = r.handle
  busy : r'.busy = r.busy
  lastSync : r'.lastSync = r.lastSync

theorem Roster.matches_plain_iff {r r' : Roster} : Roster.Matches .plain r r' ↔ r' = r := by
  constructor
  · rintro ⟨hc, ha, hf, hh, hb, hl⟩
    have ha := table_matches_plain_iff.mp ha
    have hf : r'.fetched = r.fetched := by
      rw [users_matches_plain] at hf
      generalize r.fetched = users, r'.fetched = users' at hf
      cases hf with
      | none => rfl
      | some he => rw [he]
    cases r
    cases r'
    cases hc
    cases ha
    cases hf
    cases hh
    cases hb
    cases hl
    rfl
  · rintro rfl
    refine ⟨rfl, table_matches_plain_iff.mpr rfl, ?_, rfl, rfl, rfl⟩
    rw [users_matches_plain]
    cases r'.fetched with
    | none => exact .none
    | some users => exact .some rfl

theorem Roster.Matches.register {g : Guise} {r r' : Roster} (h : Roster.Matches g r r')
    {users users' : OrderedMap Int User} (hu : Table.Matches g users users') :
    Roster.Matches g { r with applied := users } { r' with applied := users' } :=
  { h with applied := hu }

theorem Roster.Matches.know {g : Guise} {r r' : Roster} (h : Roster.Matches g r r')
    {users users' : List User} (hu : Users.Matches g users users') :
    Roster.Matches g { r with fetched := some users } { r' with fetched := some users' } :=
  { h with fetched := .some hu }

theorem Roster.Matches.hold {g : Guise} {r r' : Roster} (h : Roster.Matches g r r')
    (handle : Option Engine.Handle) {users users' : OrderedMap Int User}
    (hu : Table.Matches g users users') :
    Roster.Matches g { r with handle := handle, applied := users }
      { r' with handle := handle, applied := users' } :=
  { h with handle := rfl, applied := hu }

namespace Node

/-- Two nodes that do not differ but as the likeness says, and to which the same has happened since
their journals were `past` and `past'`. -/
structure Matches (L : Likeness) (past past' : List Event) (a b : Node) : Prop where
  plan : b.plan = a.plan
  clock : b.clock = a.clock
  client : b.client = a.client
  config : b.panel.config = a.panel.config
  users : List.Forall₂ L.turn a.panel.users b.panel.users
  push : L.push a.panel.push b.panel.push
  stop : a.stop.Ahead L.ahead b.stop
  engine : a.engine.Matches L.toGuise b.engine
  refuses : ∀ k {c c'}, Engine.Call.Matches L.toGuise c c' → b.refuses k c' = a.refuses k c
  calls : b.calls = a.calls
  roster : a.roster.Matches L.toGuise b.roster
  ledger : L.ledger a.ledger b.ledger
  phase : b.phase = a.phase
  fatal : b.fatal = a.fatal
  journal : ∃ l l', a.journal = l ++ past ∧ b.journal = l' ++ past'
    ∧ List.Forall₂ (Event.Matches L) l l'

variable {past past' : List Event} {a b : Node}

namespace Matches

theorem log (h : Matches L past past' a b) {e e' : Event} (he : e.Matches L e') :
    Matches L past past' (a.log e) (b.log e') := by
  obtain ⟨l, l', hl, hl', hm⟩ := h.journal
  exact { h with
    journal := ⟨e :: l, e' :: l', congrArg (List.cons e) hl, congrArg (List.cons e') hl',
      .cons he hm⟩ }

theorem withRoster (h : Matches L past past' a b) {r r' : Roster} (hr : r.Matches L.toGuise r') :
    Matches L past past' { a with roster := r } { b with roster := r' } :=
  { h with roster := hr }

theorem paced (L : Likeness) (past past' : List Event) :
    Paced L.ahead (Matches L past past') where
  clock h := h.clock
  stop h := h.stop
  signal events h hs := by
    obtain ⟨l, l', hl, hl', hm⟩ := h.journal
    refine { h with stop := hs, journal := ⟨events ++ l, events ++ l', ?_, ?_, ?_⟩ }
    · exact (congrArg (events ++ ·) hl).trans (List.append_assoc _ _ _).symm
    · exact (congrArg (events ++ ·) hl').trans (List.append_assoc _ _ _).symm
    · exact List.rel_append (List.forall₂_same.mpr fun e _ => .same e) hm

theorem note (h : Matches L past past' a b) (notice : Notice) :
    Matches L past past' (a.note notice) (b.note notice) :=
  (paced L past past').note h notice

/-- What lists of things that belong together bring about. -/
theorem foldl {α : Type} {R : α → α → Prop} {f : Node → α → Node}
    (hf : ∀ {a b : Node} {x y}, Matches L past past' a b → R x y →
      Matches L past past' (f a x) (f b y))
    (h : Matches L past past' a b) {l l' : List α} (hl : List.Forall₂ R l l') :
    Matches L past past' (l.foldl f a) (l'.foldl f b) := by
  induction hl generalizing a b with
  | nil => exact h
  | cons hx _ ih => exact ih (hf h hx)

/-! ### Requests -/

theorem count (h : Matches L past past' a b) (d : Delta) :
    Matches L past past' (a.count d) (b.count d) :=
  { h.log (.same (.counted d)) with ledger := L.record h.ledger d }

theorem emit (h : Matches L past past' a b) (d : Delta) :
    Matches L past past' (a.emit d) (b.emit d) := by
  unfold Node.emit Engine.emit
  rw [h.engine.listeners]
  exact both_foldl (fun e hm => hm.count e.2) h _

theorem take_users (h : Matches L past past' a b) :
    L.turn (Panel.take a.panel.users).1 (Panel.take b.panel.users).1
    ∧ List.Forall₂ L.turn (Panel.take a.panel.users).2 (Panel.take b.panel.users).2 := by
  have hu := h.users
  generalize a.panel.users = l, b.panel.users = l' at hu
  cases hu with
  | nil => exact ⟨L.idle, .nil⟩
  | cons ht hrest =>
      cases hrest with
      | nil => exact ⟨ht, .cons ht .nil⟩
      | cons ht' hrest => exact ⟨ht, .cons ht' hrest⟩

theorem ask_config (h : Matches L past past' a b) :
    Agrees Eq (Matches L past past') (a.ask .config none none) (b.ask .config none none) := by
  unfold Node.ask Panel.Script.next
  dsimp only
  rw [h.client, h.config]
  refine ⟨rfl, (paced L past past').turn (fun d hm => hm.emit d) ?_ rfl rfl⟩
  exact { h.log (.same (.asked (a.client.request .config none none)
    (Panel.take a.panel.config).1)) with client := rfl, config := rfl }

theorem ask_users (h : Matches L past past' a b) :
    ∃ t t', L.turn t t' ∧ Agrees (fun x y => x = t.answer ∧ y = t'.answer) (Matches L past past')
      (a.ask .users none none) (b.ask .users none none) := by
  obtain ⟨ht, hrest⟩ := h.take_users
  refine ⟨_, _, ht, ⟨rfl, rfl⟩, ?_⟩
  unfold Node.ask Panel.Script.next
  dsimp only
  rw [h.client]
  refine (paced L past past').turn (fun d hm => hm.emit d) ?_ (L.counted ht) (L.stops ht)
  exact { h.log (.asked (a.client.request .users none none) ht) with client := rfl, users := hrest }

theorem withClient (h : Matches L past past' a b) (c : Panel.Client) :
    Matches L past past' { a with client := c } { b with client := c } :=
  { h with client := rfl }

theorem fetchConfig (h : Matches L past past' a b) :
    Agrees (Outcomes Eq) (Matches L past past') a.fetchConfig b.fetchConfig := by
  obtain ⟨answer, m, m', hx, hy, hm⟩ := h.ask_config.exists
  unfold Node.fetchConfig
  rw [hx, hy]
  dsimp only
  rw [hm.client]
  exact ⟨.refl (fun _ => rfl) _, hm.withClient _⟩

theorem fetchUsers (h : Matches L past past' a b) :
    Agrees (Outcomes (Users.Matches L.toGuise)) (Matches L past past') a.fetchUsers
      b.fetchUsers := by
  obtain ⟨t, t', ht, ⟨hx, hy⟩, hm⟩ := h.ask_users
  unfold Node.fetchUsers
  dsimp only
  rw [hx, hy, hm.client]
  obtain ⟨hl, hc⟩ := L.listing ht (a.ask .users none none).2.client
  rw [hc]
  exact ⟨hl.users, (hm.withClient _).foldl (f := fun n item => n.note (.malformedUser item))
    (fun hm hi => hm.log (.malformed hi)) hl.malformed⟩

/-! ### Calls -/

theorem call (h : Matches L past past' a b) {c c' : Engine.Call} (hc : c.Matches L.toGuise c') :
    Agrees Eq (Matches L past past') (a.call c) (b.call c') := by
  have ho : Outcomes (Engine.Matches L.toGuise)
      (if a.refuses a.calls c then .error c.refusal else a.engine.perform c)
      (if b.refuses b.calls c' then .error c'.refusal else b.engine.perform c') := by
    rw [h.calls, h.refuses _ hc, hc.refusal]
    split
    · exact .error _
    · exact Engine.perform_matches h.engine hc
  unfold Node.call
  dsimp only
  generalize (if a.refuses a.calls c then .error c.refusal else a.engine.perform c) = r,
    (if b.refuses b.calls c' then .error c'.refusal else b.engine.perform c') = r' at ho
  cases ho with
  | ok he =>
      exact ⟨rfl, { h.log (.called none hc) with
        engine := he, calls := congrArg (· + 1) h.calls }⟩
  | error cause =>
      exact ⟨rfl, { h.log (.called (some cause) hc) with calls := congrArg (· + 1) h.calls }⟩

end Matches

end Node

end ProxyNode
