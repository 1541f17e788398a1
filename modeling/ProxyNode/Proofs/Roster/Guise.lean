import ProxyNode.Proofs.Data.Matches
import ProxyNode.Roster.Diff
import ProxyNode.Roster.Keyed

/-!
# Roster — Guise, users under other secrets

A guise puts other secrets in the place of secrets: different ones for different ones, each with as
many bytes as the one whose place it takes, or without bytes for the same reason.  What is made of a
list of users then differs in the secrets and in the keys made of them, and in nothing else.

* `keyed_matches`: a secret has a key in both guises or in neither, and the fault is the same.
* `keySome_matches`, `keyAll_matches`: the same users get keys.
* `between_matches`: the same users have to be removed and added.
-/

namespace ProxyNode

/-- A result of two computations that go on alike: the same fault, or results that belong
together. -/
inductive Outcomes {ε α : Type} (R : α → α → Prop) : Except ε α → Except ε α → Prop
  | ok {a a' : α} : R a a' → Outcomes R (.ok a) (.ok a')
  | error (fault : ε) : Outcomes R (.error fault) (.error fault)

namespace Outcomes

variable {ε α : Type} {R S : α → α → Prop}

theorem refl (h : ∀ a, R a a) (r : Except ε α) : Outcomes R r r := by
  cases r with
  | ok a => exact .ok (h a)
  | error fault => exact .error fault

theorem imp {r r' : Except ε α} (h : Outcomes R r r') (hi : ∀ a a', R a a' → S a a') :
    Outcomes S r r' := by
  cases h with
  | ok ha => exact .ok (hi _ _ ha)
  | error fault => exact .error fault

end Outcomes

/-- Secrets for secrets, with the keys that belong together. -/
structure Guise where
  secret : RawText → RawText
  key : List UInt8 → List UInt8 → Prop
  injective : Function.Injective secret
  encode : ∀ s, Outcomes (fun b b' => b'.length = b.length ∧ ∀ k, key (b.take k) (b'.take k))
    s.encode (secret s).encode
  length_key : ∀ {k k'}, key k k' → k'.length = k.length

namespace Guise

/-- The guise in which every secret is itself. -/
def plain : Guise where
  secret := id
  key := Eq
  injective := Function.injective_id
  encode s := .refl (fun _ => ⟨rfl, fun _ => rfl⟩) s.encode
  length_key h := h ▸ rfl

variable (g : Guise)

theorem key_nil : g.key [] [] := by
  have h := g.encode ""
  generalize (g.secret "").encode = r at h
  cases h with
  | ok hb => exact hb.2 0

end Guise

/-- Other secrets in the place of secrets, of which no more is known than how many bytes they have,
or why they have none, and which of them are the same. -/
structure Veil where
  secret : RawText → RawText
  injective : Function.Injective secret
  encode : ∀ s, Outcomes (fun b b' => b'.length = b.length) s.encode (secret s).encode

/-- The guise in which all that is known of a key is its length. -/
def Veil.guise (v : Veil) : Guise where
  secret := v.secret
  key k k' := k'.length = k.length
  injective := v.injective
  encode s := (v.encode s).imp fun b b' h =>
    ⟨h, fun k => by rw [List.length_take, List.length_take, h]⟩
  length_key h := h

variable {g : Guise}

/-- The same user under another secret. -/
structure User.Matches (g : Guise) (u u' : User) : Prop where
  id : u'.id = u.id
  secret : u'.secret = g.secret u.secret
  key : g.key u.key u'.key

theorem User.matches_plain_iff {u u' : User} : User.Matches .plain u u' ↔ u' = u := by
  constructor
  · rintro ⟨hi, hs, hk⟩
    cases u
    cases u'
    cases hi
    cases hs
    cases hk
    rfl
  · rintro rfl
    exact ⟨rfl, rfl, rfl⟩

/-- The same users in the same order. -/
abbrev Users.Matches (g : Guise) : List User → List User → Prop := List.Forall₂ (User.Matches g)

/-- Users by number, the same under other secrets. -/
abbrev Table.Matches (g : Guise) : OrderedMap Int User → OrderedMap Int User → Prop :=
  OrderedMap.Matches (User.Matches g)

theorem users_matches_plain : Users.Matches .plain = Eq := by
  have hu : User.Matches .plain = Eq := by
    funext u u'
    exact propext (User.matches_plain_iff.trans eq_comm)
  rw [Users.Matches, hu, List.forall₂_eq_eq_eq]

theorem table_matches_plain_iff {m m' : OrderedMap Int User} :
    Table.Matches .plain m m' ↔ m' = m := by
  have hu : User.Matches .plain = Eq := by
    funext u u'
    exact propext (User.matches_plain_iff.trans eq_comm)
  rw [Table.Matches, hu, OrderedMap.matches_eq_iff]

theorem ids_matches {users users' : List User} (h : Users.Matches g users users') :
    users'.map User.id = users.map User.id := by
  induction h with
  | nil => rfl
  | cons hu _ ih => rw [List.map_cons, List.map_cons, hu.id, ih]

/-! ### Keys -/

variable {u u' : User} {users users' : List User} {length : Nat}

theorem deriveKey_secret (secret : RawText) (length : Int) :
    Outcomes g.key (deriveKey secret.encode length) (deriveKey (g.secret secret).encode length) := by
  have ho := g.encode secret
  unfold deriveKey
  generalize secret.encode = r, (g.secret secret).encode = r' at ho
  split
  · exact .error _
  · cases ho with
    | error why => exact .error _
    | ok hb =>
        dsimp only
        rw [hb.1]
        split
        · exact .error _
        · exact .ok (hb.2 _)

theorem keyed_matches (h : User.Matches g u u') (length : Nat) :
    Outcomes (User.Matches g) (u.keyed length) (u'.keyed length) := by
  have ho := deriveKey_secret (g := g) u.secret length
  unfold User.keyed
  rw [h.secret]
  generalize deriveKey u.secret.encode length = r,
    deriveKey (g.secret u.secret).encode length = r' at ho
  cases ho with
  | ok hk => exact .ok ⟨h.id, h.secret, hk⟩
  | error fault => exact .error fault

/-- The same users with keys, and the same users without, or broken off by the same fault. -/
structure Keyed.Matches (g : Guise) (k k' : Keyed) : Prop where
  users : Table.Matches g k.users k'.users
  skipped : k'.skipped = k.skipped
  broken : k'.broken = k.broken

theorem Keyed.Matches.step {k k' : Keyed} (hk : Keyed.Matches g k k') (h : User.Matches g u u') :
    Keyed.Matches g (k.step length u) (k'.step length u') := by
  have ho := keyed_matches h length
  unfold Keyed.step
  rw [hk.broken]
  split
  · exact hk
  generalize u.keyed length = r, u'.keyed length = r' at ho
  cases ho with
  | ok hv =>
      dsimp only
      rw [h.id]
      exact ⟨hk.users.insert _ hv, hk.skipped, rfl⟩
  | error fault =>
      dsimp only
      split
      · rw [h.id, hk.skipped]
        exact ⟨hk.users.erase _, rfl, rfl⟩
      · exact ⟨hk.users, hk.skipped, rfl⟩

theorem Keyed.Matches.result {k k' : Keyed} (hk : Keyed.Matches g k k') :
    Outcomes (Table.Matches g) k.result k'.result := by
  unfold Keyed.result
  rw [hk.broken]
  split
  · exact .ok hk.users
  · exact .error _

theorem keySome_matches (h : Users.Matches g users users') (length : Nat) :
    Keyed.Matches g (keySome length users) (keySome length users') :=
  List.rel_foldl (fun _ _ hk _ _ hu => hk.step hu) ⟨OrderedMap.matches_empty, rfl, rfl⟩ h

theorem keyAllFrom_matches (h : Users.Matches g users users') {m m' : OrderedMap Int User}
    (hm : Table.Matches g m m') :
    Outcomes (Table.Matches g) (keyAllFrom length m users) (keyAllFrom length m' users') := by
  induction h generalizing m m' with
  | nil => exact .ok hm
  | @cons u u' rest rest' hu _ ih =>
      have ho := keyed_matches hu length
      unfold keyAllFrom
      generalize u.keyed length = r, u'.keyed length = r' at ho
      cases ho with
      | ok hv =>
          dsimp only
          rw [hu.id]
          exact ih (hm.insert _ hv)
      | error fault => exact .error fault

theorem keyAll_matches (h : Users.Matches g users users') (length : Nat) :
    Outcomes (Table.Matches g) (keyAll length users) (keyAll length users') :=
  keyAllFrom_matches h OrderedMap.matches_empty

/-! ### Changes -/

theorem latest_matches (h : Users.Matches g users users') :
    Table.Matches g (latest users) (latest users') := by
  refine OrderedMap.matches_ofList ?_
  rw [List.forall₂_map_left_iff, List.forall₂_map_right_iff]
  exact List.Forall₂.imp (fun _ _ hu => ⟨hu.id, hu⟩) h

/-- Changes in which the same users are removed and added. -/
structure Diff.Matches (g : Guise) (d d' : Diff) : Prop where
  remove : d'.remove = d.remove
  add : Users.Matches g d.add d'.add

variable {m m' : OrderedMap Int User}

/-- A secret has changed in both guises or in neither, since different ones stay different. -/
theorem isChanged_matches (hm : Table.Matches g m m') (h : User.Matches g u u') :
    Diff.isChanged m' u' = Diff.isChanged m u := by
  have hg := hm.get? u.id
  rw [Diff.isChanged, Diff.isChanged, h.id]
  generalize m.get? u.id = old, m'.get? u.id = old' at hg
  cases hg with
  | none => rfl
  | some ho =>
      dsimp only
      rw [ho.secret, h.secret, Bool.eq_iff_iff, bne_iff_ne, bne_iff_ne, g.injective.ne_iff]

theorem isWanted_matches (hm : Table.Matches g m m') (h : User.Matches g u u') :
    Diff.isWanted m' u' = Diff.isWanted m u := by
  rw [Diff.isWanted, Diff.isWanted, isChanged_matches hm h, h.id, hm.contains]

theorem between_matches (hm : Table.Matches g m m') (h : Users.Matches g users users') :
    Diff.Matches g (Diff.between m users) (Diff.between m' users') := by
  have hl := latest_matches h
  have hc : Users.Matches g ((latest users).values.filter (Diff.isChanged m))
      ((latest users').values.filter (Diff.isChanged m')) :=
    List.rel_filter (fun u u' hu => by simp only [isChanged_matches hm hu]) hl.values
  constructor
  · unfold Diff.between
    dsimp only
    rw [ids_matches hc, hm.keys]
    simp only [hl.contains]
  · exact List.rel_filter (fun u u' hu => by simp only [isWanted_matches hm hu]) hl.values

theorem Diff.Matches.isEmpty {d d' : Diff} (h : Diff.Matches g d d') :
    d'.isEmpty = d.isEmpty := by
  have ha : d'.add.isEmpty = d.add.isEmpty := by
    obtain ⟨-, ha⟩ := h
    generalize d.add = l, d'.add = l' at ha
    cases ha <;> rfl
  rw [Diff.isEmpty, Diff.isEmpty, h.remove, ha]

end ProxyNode
