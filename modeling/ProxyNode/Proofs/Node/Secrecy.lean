import Mathlib.Logic.Equiv.Basic
import ProxyNode.Proofs.Node.Veiled
import ProxyNode.Proofs.Panel.Verdicts

/-!
# Node — Secrecy, what the log tells of the secrets of the users

Two new nodes that are alike, but that their panels list the same users under other secrets.  Their
logs say the same, whatever is done with the nodes, but where an entry of a list is passed over: it
is shown as it is, with the secret that it may hold.

* `Node.notices`, `Node.lines`: what a node has written to its log.
* `Node.LogsAlike`: what the two logs have in common.
* `Node.secrets_unlogged`: and so they do.
-/

namespace ProxyNode

/-- Whether a value is no object with a field of that name. -/
def Json.Lacks (name : RawText) (j : Json) : Prop :=
  ∀ fields, j = .object fields → OrderedMap.find name fields = none

theorem Json.At.eq_of_lacks {name : RawText} {R : Json → Json → Prop} {j j' : Json}
    (h : At name R j j') (hl : j.Lacks name) : j' = j := by
  cases h with
  | @object fields fields' hf =>
      have hnone := hl fields rfl
      refine congrArg Json.object ?_
      clear hl
      induction hf with
      | nil => rfl
      | @cons f f' rest rest' hfield _ ih =>
          rw [OrderedMap.find] at hnone
          split at hnone
          · cases hnone
          · next hne => rw [ih hnone, Prod.ext hfield.label (hfield.beside hne)]
  | other => rfl

/-- What an event has written to the log. -/
def Event.notice? : Event → Option Notice
  | .noted notice => some notice
  | _ => none

/-- The same notice, but that an entry that is passed over is shown with the other secret. -/
inductive Veil.Notice (v : Veil) : ProxyNode.Notice → ProxyNode.Notice → Prop
  | same (notice : ProxyNode.Notice) : Notice v notice notice
  | malformed {item item' : Json} :
      v.Entry item item' → Notice v (.malformedUser item) (.malformedUser item')

namespace Node

/-- What a node has written to its log, the latest first. -/
def notices (n : Node) : List Notice := n.journal.filterMap Event.notice?

/-- The lines of a node's log with their levels, the latest first. -/
def lines (n : Node) : List (Level × String) := n.notices.map fun m => (m.level, m.text)

/-- The logs of two nodes say the same, but that entries that were passed over are shown, which is
the same if they hold no secret. -/
structure LogsAlike (v : Veil) (a b : Node) : Prop where
  notices : List.Forall₂ v.Notice a.notices b.notices
  lines : (∀ item, .malformedUser item ∈ a.notices → item.Lacks "uuid") → b.lines = a.lines

variable {v : Veil} {a b : Node}

theorem eq_of_notices {l l' : List Notice} (h : List.Forall₂ v.Notice l l')
    (hl : ∀ item, .malformedUser item ∈ l → item.Lacks "uuid") : l' = l := by
  induction h with
  | nil => rfl
  | cons hn _ ih =>
      have hrest := ih fun item hm => hl item (List.mem_cons_of_mem _ hm)
      cases hn with
      | same notice => rw [hrest]
      | malformed hi => rw [hrest, hi.eq_of_lacks (hl _ List.mem_cons_self)]

theorem Veiled.logsAlike (h : Veiled v [] [] a b) : LogsAlike v a b := by
  obtain ⟨l, l', hl, hl', hm⟩ := h.journal
  have hn : List.Forall₂ v.Notice a.notices b.notices := by
    rw [Node.notices, Node.notices, hl, hl', List.append_nil, List.append_nil]
    refine List.rel_filterMap (fun e e' he => ?_) hm
    cases he with
    | same e =>
        cases e with
        | noted notice => exact .some (.same notice)
        | began _ | asked _ _ | waited _ | stopRaised | called _ _ | counted _ | resumed _
        | delivered _ | retired _ | spoolWritten _ => exact .none
    | asked | called => exact .none
    | malformed hi => exact .some (.malformed hi)
  exact ⟨hn, fun hlack => congrArg (List.map _) (eq_of_notices hn hlack)⟩

/-- The node as it is made for a panel that has these turns for the users, and on an engine that
refuses these calls. -/
def relisted (n : Node) (users : List Panel.Turn) (refuses : Nat → Engine.Call → Bool) : Node :=
  { n with panel := { n.panel with users := users }, refuses := refuses }

theorem veiled_relisted {n : Node} (hn : n.IsNew) {users : List Panel.Turn}
    {refuses : Nat → Engine.Call → Bool} (hu : List.Forall₂ v.Turn n.panel.users users)
    (hr : ∀ k {c c'}, Engine.Call.Matches v.guise c c' → refuses k c' = n.refuses k c) :
    Veiled v [] [] n (n.relisted users refuses) where
  plan := rfl
  clock := rfl
  client := rfl
  config := rfl
  users := hu
  push := Eq.refl n.panel.push
  stop := ⟨rfl, rfl, rfl⟩
  engine := ⟨rfl, List.forall₂_same.mpr fun _ _ => ⟨rfl, rfl⟩, rfl, rfl, rfl⟩
  refuses := hr
  calls := rfl
  roster := by
    show Roster.Matches v.guise n.roster n.roster
    rw [hn.roster]
    exact ⟨rfl, OrderedMap.matches_empty, .none, rfl, rfl, rfl⟩
  ledger := Eq.refl n.ledger
  phase := rfl
  fatal := rfl
  journal := ⟨[], [], hn.journal, hn.journal, .nil⟩

/-- Whatever is done with a new node, its log tells no more of the secrets that the panel lists than
how many bytes they have, or why they have none, and which of them are the same, but for the entries
that are passed over, which are shown as they are. -/
theorem secrets_unlogged (v : Veil) {n : Node} (hn : n.IsNew) {users : List Panel.Turn}
    {refuses : Nat → Engine.Call → Bool} (hu : List.Forall₂ v.Turn n.panel.users users)
    (hr : ∀ k {c c'}, Engine.Call.Matches v.guise c c' → refuses k c' = n.refuses k c) :
    (∀ steps, LogsAlike v (n.after steps) ((n.relisted users refuses).after steps))
    ∧ ∀ activity, ((n.relisted users refuses).run activity).1 = (n.run activity).1
      ∧ LogsAlike v (n.run activity).2 ((n.relisted users refuses).run activity).2 := by
  have h : Veiled v [] [] n (n.relisted users refuses) := veiled_relisted hn hu hr
  refine ⟨fun steps => (h.after steps).logsAlike, fun activity => ?_⟩
  obtain ⟨hresult, hnode⟩ := h.run activity
  exact ⟨hresult.symm, Veiled.logsAlike hnode⟩

/-! ### An entry that is passed over -/

/-- A list of two users, of whom the first has no number. -/
def sampleListing (first second : String) : Json := .object [("users", .array [
  .object [("id", .text "x"), ("uuid", .text first)],
  .object [("id", .int 1), ("uuid", .text second)]])]

/-- The secrets in such a list. -/
def sampleSecrets : Json → Option (String × String)
  | .object [(.whole "users", .array [
      .object [(.whole "id", .text (.whole "x")), (.whole "uuid", .text (.whole first))],
      .object [(.whole "id", .int 1), (.whole "uuid", .text (.whole second))]])] =>
    some (first, second)
  | _ => none

theorem eq_of_sampleSecrets {j : Json} {first second : String}
    (h : sampleSecrets j = some (first, second)) : j = sampleListing first second := by
  unfold sampleSecrets at h
  split at h
  · cases h
    rfl
  · cases h

/-- Such a list as the panel writes it. -/
def sampleText (first second : String) : String :=
  "\x7b\"users\":[\x7b\"id\":\"x\",\"uuid\":\"" ++ first
    ++ "\"\x7d,\x7b\"id\":1,\"uuid\":\"" ++ second ++ "\"\x7d]\x7d"

theorem read_sampleText {first second : String}
    (h : (Json.read (sampleText first second)).toOption.bind sampleSecrets = some (first, second)) :
    Json.read (sampleText first second) = .ok (sampleListing first second) := by
  obtain ⟨j, hj, hs⟩ := Option.bind_eq_some_iff.mp h
  rw [Panel.eq_ok_of_toOption hj, eq_of_sampleSecrets hs]

/-- A turn in which the panel gives such a list. -/
def sampleListed (first second : String) : Panel.Turn where
  answer := .response { text := sampleText first second }

def sampleSecret : String := "0123456789abcdef"

def otherSecret : String := "fedcba9876543210"

/-- Each of two secrets in the place of the other. -/
def sampleVeil : Veil where
  secret := Equiv.swap (sampleSecret : RawText) otherSecret
  injective := (Equiv.swap (sampleSecret : RawText) otherSecret).injective
  encode s := by
    rw [Equiv.swap_apply_def]
    split
    · next hs =>
      rw [hs]
      exact .ok (by decide +kernel)
    · split
      · next hs =>
        rw [hs]
        exact .ok (by decide +kernel)
      · exact .refl (R := fun b b' : List UInt8 => b'.length = b.length) (fun _ => rfl) _

/-- The sample, whose panel lists a user without a number besides the one with a number. -/
def sampleMixed : Node :=
  { sample with panel := { sample.panel with users := [sampleListed sampleSecret otherSecret] } }

theorem isNew_sampleMixed : sampleMixed.IsNew := { isNew_sample with }

theorem sampleVeil_body : sampleVeil.Body (sampleListing sampleSecret otherSecret)
    (sampleListing otherSecret sampleSecret) := by
  have hid : ("id" : RawText) ≠ "uuid" := by decide
  have hentry (id : Json) {s s' : RawText} (hs : s' = sampleVeil.secret s) :
      sampleVeil.Entry (.object [("id", id), ("uuid", .text s)])
        (.object [("id", id), ("uuid", .text s')]) :=
    .object (.cons ⟨rfl, fun h => absurd h hid, fun _ => rfl⟩
      (.cons ⟨rfl, fun _ => hs, fun h => absurd rfl h⟩ .nil))
  exact .object (.cons ⟨rfl, fun _ => .array (.cons (hentry (.text "x") (by decide +kernel))
    (.cons (hentry (.int 1) (by decide +kernel)) .nil)), fun h => absurd rfl h⟩ .nil)

theorem sampleVeil_turn : sampleVeil.Turn (sampleListed sampleSecret otherSecret)
    (sampleListed otherSecret sampleSecret) :=
  ⟨rfl, rfl, .body (by decide +kernel) (read_sampleText (by decide +kernel))
    (read_sampleText (by decide +kernel)) sampleVeil_body⟩

/-- The same node, whose panel lists the users under the other secrets. -/
def sampleLike : Node :=
  sampleMixed.relisted [sampleListed otherSecret sampleSecret] fun _ _ => false

/-- The sample and its like start and are shut down.  The results are the same, and the logs as
alike as they have to be. -/
theorem secrets_unlogged_sample :
    (sampleMixed.run {}).1 = .ok true ∧ (sampleLike.run {}).1 = .ok true
    ∧ LogsAlike sampleVeil (sampleMixed.run {}).2 (sampleLike.run {}).2 := by
  have hrun : (sampleMixed.run {}).1 = .ok true := by decide +kernel
  obtain ⟨hresult, hlogs⟩ := (secrets_unlogged sampleVeil isNew_sampleMixed
    (.cons sampleVeil_turn .nil) fun _ _ _ _ => rfl).2 {}
  exact ⟨hrun, hresult.trans hrun, hlogs⟩

/-- The secret of the user without a number stands in the log of a start, and so the log tells which
of the two secrets it is. -/
theorem secret_logged :
    sampleMixed.IsNew
    ∧ List.Forall₂ sampleVeil.Turn sampleMixed.panel.users sampleLike.panel.users
    ∧ sampleLike = sampleMixed.relisted sampleLike.panel.users sampleMixed.refuses
    ∧ (.warning, "Skipping malformed user entry: "
        ++ "\x7b'id': 'x', 'uuid': '0123456789abcdef'\x7d") ∈ (sampleMixed.after [.start]).lines
    ∧ (sampleLike.after [.start]).lines ≠ (sampleMixed.after [.start]).lines :=
  ⟨isNew_sampleMixed, .cons sampleVeil_turn .nil, rfl, by decide +kernel, by decide +kernel⟩

end Node

end ProxyNode
