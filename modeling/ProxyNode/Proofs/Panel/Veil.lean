import ProxyNode.Proofs.Panel.Tags
import ProxyNode.Proofs.Roster.Guise

/-!
# Panel — Veil, the same list of users under other secrets

Two answers that list the same users under other secrets, entry by entry.  A client makes the same
of both: it lists the same users and passes over the same entries, and a fault is the same fault.

* `Json.At`, `Json.Each`: values that differ in one field of an object, and in each item of a list.
* `Veil.Entry`, `Veil.Body`, `Veil.Answer`: entries, bodies and answers under other secrets.
* `Veil.readUsers`: the entries of a list, from the first to the last.
* `Veil.acceptUsers`: what a client makes of an answer.
-/

namespace ProxyNode

namespace Json

/-- The same field of an object, with values that belong together if it is `name`. -/
structure Field (name : RawText) (R : Json → Json → Prop) (f f' : RawText × Json) : Prop where
  label : f'.1 = f.1
  inside : f.1 = name → R f.2 f'.2
  beside : f.1 ≠ name → f'.2 = f.2

/-- Values that differ in one field, if they are objects. -/
inductive At (name : RawText) (R : Json → Json → Prop) : Json → Json → Prop
  | object {fields fields' : List (RawText × Json)} :
      List.Forall₂ (Field name R) fields fields' → At name R (.object fields) (.object fields')
  | other {j : Json} : (∀ fields, j ≠ .object fields) → At name R j j

/-- Values that differ in their items, if they are lists. -/
inductive Each (R : Json → Json → Prop) : Json → Json → Prop
  | array {items items' : List Json} :
      List.Forall₂ R items items' → Each R (.array items) (.array items')
  | other {j : Json} : (∀ items, j ≠ .array items) → Each R j j

variable {name : RawText} {R : Json → Json → Prop}

theorem find_inside {fields fields' : List (RawText × Json)}
    (h : List.Forall₂ (Field name R) fields fields') :
    Option.Rel R (OrderedMap.find name fields) (OrderedMap.find name fields') := by
  induction h with
  | nil => exact .none
  | cons hf _ ih =>
      rw [OrderedMap.find, OrderedMap.find, hf.label]
      split
      · next he => exact .some (hf.inside he)
      · exact ih

theorem find_beside {fields fields' : List (RawText × Json)}
    (h : List.Forall₂ (Field name R) fields fields') {other : RawText} (ho : other ≠ name) :
    OrderedMap.find other fields' = OrderedMap.find other fields := by
  induction h with
  | nil => rfl
  | cons hf _ ih =>
      rw [OrderedMap.find, OrderedMap.find, hf.label]
      split
      · next he => rw [hf.beside (he ▸ ho)]
      · exact ih

theorem Each.isVoid {j j' : Json} (h : Each R j j') : j'.isVoid = j.isVoid := by
  cases h with
  | array hi => cases hi <;> rfl
  | other => rfl

/-- What is gone through one by one is the items of a list, or texts. -/
theorem Each.items {j j' : Json} (h : Each R j j') (hr : ∀ s, R (.text s) (.text s)) :
    Outcomes (List.Forall₂ R) (Panel.Client.items j) (Panel.Client.items j') := by
  have htexts {α : Type} (f : α → RawText) (l : List α) :
      List.Forall₂ R (l.map fun x => .text (f x)) (l.map fun x => .text (f x)) := by
    rw [List.forall₂_map_left_iff, List.forall₂_map_right_iff]
    exact List.forall₂_same.mpr fun x _ => hr (f x)
  cases h with
  | array hi => exact .ok hi
  | other hj =>
      cases j with
      | array items => exact absurd rfl (hj items)
      | object fields => exact .ok (htexts Prod.fst fields)
      | text s => exact .ok (htexts id s.pieces)
      | null | bool _ | int _ | real _ => exact .error _

end Json

namespace Panel

/-- The same verdict on two lists of users: entries passed over that belong together, and the same
users under other secrets. -/
structure Client.Listing.Matches (g : Guise) (entry : Json → Json → Prop)
    (l l' : Client.Listing) : Prop where
  malformed : List.Forall₂ entry l.malformed l'.malformed
  users : Outcomes (Users.Matches g) l.users l'.users

/-- What a client makes of the value in which an answer lists its users, if it is not null. -/
def Client.acceptEntries (c : Client) (tag : Option String) (entries : Json) :
    Client.Listing × Client :=
  if entries.isVoid then ({ users := .ok [] }, c)
  else match Client.items entries with
    | .error fault => ({ users := .error fault }, c)
    | .ok entries =>
      let listing := Client.readUsers [] entries
      match listing.users with
      | .error _ => (listing, c)
      | .ok [] => ({ listing with users := .error (.config .noUsableUsers) }, c)
      | .ok _ => (listing, { c with usersTag := Client.newTag c.usersTag tag })

end Panel

namespace Veil

variable (v : Veil)

/-- Entries of a list of users that are the same but for their secrets, as these are read. -/
def Entry : Json → Json → Prop := Json.At "uuid" fun x x' => x'.plain = v.secret x.plain

/-- Bodies that are the same but for the secrets of the users that they list. -/
def Body : Json → Json → Prop := Json.At "users" (Json.Each v.Entry)

/-- Answers that are the same, unless they show bodies, and then are the same but for the secrets of
the users listed there. -/
inductive Answer : Panel.Answer → Panel.Answer → Prop
  | same {a : Panel.Answer} : a.acknowledges = false → Answer a a
  | body {r : Panel.Response} {text : String} {body body' : Json} :
      r.shows = true → Json.read r.text = .ok body → Json.read text = .ok body' →
      v.Body body body' → Answer (.response r) (.response { r with text := text })

variable {v}

open Panel.Client

theorem readUser {item item' : Json} (h : v.Entry item item') :
    Outcomes (Option.Rel (User.Matches v.guise)) (readUser item) (readUser item') := by
  cases h with
  | @object fields fields' hf =>
      have hs := Json.find_inside hf
      unfold Panel.Client.readUser
      dsimp only
      unfold Json.field?
      rw [Json.find_beside hf (show RawText.whole "id" ≠ "uuid" by decide)]
      split
      · exact .ok .none
      · exact .error _
      · exact .ok .none
      · next id _ =>
        generalize OrderedMap.find (RawText.whole "uuid") fields = secret,
          OrderedMap.find (RawText.whole "uuid") fields' = secret' at hs
        cases hs with
        | none => exact .ok .none
        | some hp => exact .ok (.some ⟨rfl, hp, v.guise.key_nil⟩)
  | other hj =>
      cases item with
      | object fields => exact absurd rfl (hj fields)
      | null | bool _ | int _ | real _ | text _ | array _ => exact .ok .none

theorem readUsers {items items' : List Json} (h : List.Forall₂ v.Entry items items')
    {before before' : List User} (hb : Users.Matches v.guise before before') :
    (readUsers before items).Matches v.guise v.Entry (readUsers before' items') := by
  induction h generalizing before before' with
  | nil => exact ⟨.nil, .ok (List.rel_reverse hb)⟩
  | @cons item item' rest rest' hi _ ih =>
      have ho := readUser hi
      unfold Panel.Client.readUsers
      generalize Panel.Client.readUser item = r, Panel.Client.readUser item' = r' at ho
      cases ho with
      | error fault => exact ⟨.nil, .error fault⟩
      | ok hu =>
          cases hu with
          | none => exact ⟨.cons hi (ih hb).malformed, (ih hb).users⟩
          | some hu => exact ih (.cons hu hb)

theorem Body.usersField {body body' : Json} (h : v.Body body body') :
    Json.Each v.Entry (usersField body) (usersField body') := by
  have hnull : Json.Each v.Entry .null .null := .other nofun
  cases h with
  | @object fields fields' hf =>
      have hu := Json.find_inside hf
      unfold Panel.Client.usersField Json.field Json.field?
      dsimp only
      generalize OrderedMap.find (RawText.whole "users") fields = users,
        OrderedMap.find (RawText.whole "users") fields' = users' at hu
      cases hu with
      | none => exact hnull
      | some he => exact he
  | other hj =>
      cases body with
      | object fields => exact absurd rfl (hj fields)
      | null | bool _ | int _ | real _ | text _ | array _ => exact hnull

theorem entry_text (s : RawText) : v.Entry (.text s) (.text s) := .other nofun

theorem acceptEntries (c : Panel.Client) (tag : Option String) {entries entries' : Json}
    (h : Json.Each v.Entry entries entries') :
    (c.acceptEntries tag entries).1.Matches v.guise v.Entry (c.acceptEntries tag entries').1
    ∧ (c.acceptEntries tag entries').2 = (c.acceptEntries tag entries).2 := by
  have hitems := h.items entry_text
  unfold Panel.Client.acceptEntries
  rw [h.isVoid]
  split
  · exact ⟨⟨.nil, .ok .nil⟩, rfl⟩
  · generalize items entries = r, items entries' = r' at hitems
    cases hitems with
    | error fault => exact ⟨⟨.nil, .error fault⟩, rfl⟩
    | @ok items items' hi =>
        have hl := readUsers hi .nil
        dsimp only
        generalize Panel.Client.readUsers [] items = l,
          Panel.Client.readUsers [] items' = l' at hl
        obtain ⟨malformed, users⟩ := l
        obtain ⟨malformed', users'⟩ := l'
        obtain ⟨hm, hu⟩ := hl
        cases hu with
        | error fault => exact ⟨⟨hm, .error fault⟩, rfl⟩
        | ok hu =>
            cases hu with
            | nil => exact ⟨⟨hm, .error _⟩, rfl⟩
            | cons hu hrest => exact ⟨⟨hm, .ok (.cons hu hrest)⟩, rfl⟩

theorem acceptBody {c : Panel.Client} {a a' : Panel.Answer} {tag : Option String}
    {body body' : Json} (h : v.Body body body') (hr : c.receive .users a = .ok (body, tag))
    (hr' : c.receive .users a' = .ok (body', tag)) :
    (c.acceptUsers a).1.Matches v.guise v.Entry (c.acceptUsers a').1
    ∧ (c.acceptUsers a').2 = (c.acceptUsers a).2 := by
  have hu := h.usersField
  unfold Panel.Client.acceptUsers
  rw [hr, hr']
  dsimp only
  generalize usersField body = entries, usersField body' = entries' at hu
  cases hu with
  | array hi => exact acceptEntries c tag (.array hi)
  | other hj =>
      cases entries with
      | null => exact ⟨⟨.nil, .error _⟩, rfl⟩
      | bool _ | int _ | real _ | text _ | array _ | object _ =>
          exact acceptEntries c tag (.other hj)

/-- What a client makes of an answer. -/
theorem acceptUsers {a a' : Panel.Answer} (h : v.Answer a a') (c : Panel.Client) :
    (c.acceptUsers a).1.Matches v.guise v.Entry (c.acceptUsers a').1
    ∧ (c.acceptUsers a').2 = (c.acceptUsers a).2 := by
  cases h with
  | same ha =>
      refine ⟨?_, rfl⟩
      cases hr : c.receive .users a with
      | error fault =>
          unfold Panel.Client.acceptUsers
          rw [hr]
          exact ⟨.nil, .error fault⟩
      | ok shown =>
          obtain ⟨json, tag⟩ := shown
          obtain ⟨r, rfl, hs, -⟩ := receive_eq_ok hr
          cases ha.symm.trans hs
  | @body r text body body' hs hread hread' hb =>
      have hs' : Panel.Response.shows { r with text := text } = true := by
        simp only [Panel.Response.shows, Panel.Answer.acknowledges, hread, hread'] at hs ⊢
        exact hs
      obtain ⟨json, hj, hr⟩ := receive_of_shows c .users hs
      obtain ⟨json', hj', hr'⟩ := receive_of_shows c .users hs'
      cases hread.symm.trans hj
      cases hread'.symm.trans hj'
      exact acceptBody hb hr hr'

end Veil

end ProxyNode
