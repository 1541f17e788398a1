import Mathlib.Data.List.Induction
import ProxyNode.Proofs.Data.OrderedMap
import ProxyNode.Roster.Keyed

/-!
# Roster — Keyed, user by user

What keys a list of users is given.  A user has a key if its secret is long enough for one, and of
a user who is listed more than once the last entry counts.

* `get?_ofList_byId`: a table of users by number.
* `keyed_eq_ok_iff`: which users can have a key and what it is.
* `keyed_of_not_keyable`: why the others have none.
* `legible_or_torn`: the first secret without bytes, if there is one.
* `isKeyed_of_result`, `isKeyed_keyAll`: every user stands under its own number with its own key.
-/

namespace ProxyNode

/-- The last entry of a user in a list. -/
def lastOf (users : List User) (id : Int) : Option User := users.reverse.find? fun u => u.id = id

theorem lastOf_append_singleton (users : List User) (u : User) (id : Int) :
    lastOf (users ++ [u]) id = if u.id = id then some u else lastOf users id := by
  rw [lastOf, List.reverse_append, List.reverse_singleton, List.singleton_append]
  by_cases h : u.id = id
  · rw [List.find?_cons_of_pos (by simpa using h), if_pos h]
  · rw [List.find?_cons_of_neg (by simpa using h), if_neg h]
    rfl

theorem id_of_lastOf {users : List User} {id : Int} {u : User} (h : lastOf users id = some u) :
    u.id = id := by
  simpa using List.find?_some h

/-- A table of users by number says of each what its last entry says. -/
theorem get?_ofList_byId {β : Type} (f : User → β) (users : List User) (id : Int) :
    (OrderedMap.ofList (users.map fun u => (u.id, f u))).get? id = (lastOf users id).map f := by
  rw [OrderedMap.get?_ofList, lastOf, ← List.map_reverse, List.find?_map, Option.map_map]
  rfl

/-- The key of a secret for keys of `length` bytes. -/
def keyOf (length : Nat) (secret : RawText) : List UInt8 := secret.bytes.take length

/-- Whether a user stands under the number `id` with the key of its secret. -/
structure User.IsKeyed (length : Nat) (id : Int) (u : User) : Prop where
  id : u.id = id
  enough : length ≤ u.secret.bytes.length
  key : u.key = keyOf length u.secret

theorem User.IsKeyed.length_key {length : Nat} {id : Int} {u : User} (h : u.IsKeyed length id) :
    u.key.length = length := by
  rw [h.key, keyOf, List.length_take]
  exact Nat.min_eq_left h.enough

/-- A user with a key has a secret with bytes. -/
theorem User.IsKeyed.isWhole {length : Nat} (hl : 0 < length) {id : Int} {u : User}
    (h : u.IsKeyed length id) : u.secret.isWhole = true :=
  RawText.isWhole_of_bytes (Nat.lt_of_lt_of_le hl h.enough)

/-! ### One user -/

/-- Whether a secret is long enough for keys of `length` bytes. -/
def User.keyable (length : Nat) (u : User) : Bool := decide (length ≤ u.secret.bytes.length)

/-- The user with the key of its secret. -/
def User.withOwnKey (length : Nat) (u : User) : User := u.withKey (keyOf length u.secret)

/-- Why a user has no key: its secret has too few bytes, or none at all. -/
def User.keyFault (length : Nat) (u : User) : Fault :=
  match u.secret.encode with
  | .error why => .unexpected (.unencodable why)
  | .ok bytes => .shortSecret bytes.length length

theorem User.isConfig_keyFault (length : Nat) (u : User) :
    (u.keyFault length).isConfig = u.secret.isWhole := by
  unfold keyFault
  cases u.secret <;> rfl

theorem User.keyFault_of_isWhole {length : Nat} {u : User} (h : u.secret.isWhole = true) :
    u.keyFault length = .shortSecret u.secret.bytes.length length := by
  rw [keyFault, RawText.encode_of_isWhole h]

/-- A secret without bytes is a fault that nobody reckons with. -/
theorem User.keyFault_of_torn {u : User} (length : Nat) (h : u.secret.isWhole = false) :
    ∃ why, u.secret.encode = .error why ∧ u.keyFault length = .unexpected (.unencodable why) := by
  unfold keyFault
  cases hs : u.secret with
  | whole s =>
      rw [hs] at h
      cases h
  | torn before half after => exact ⟨_, rfl, rfl⟩

theorem User.isWhole_of_keyable {length : Nat} {u : User} (h : 0 < length)
    (hu : u.keyable length = true) : u.secret.isWhole = true :=
  RawText.isWhole_of_bytes (Nat.lt_of_lt_of_le h (of_decide_eq_true hu))

theorem User.keyed_of_keyable {length : Nat} {u : User} (h : 0 < length)
    (hu : u.keyable length = true) : u.keyed length = .ok (u.withOwnKey length) := by
  have hd := (deriveKey_eq_ok_iff h).mpr
    ⟨_, RawText.encode_of_isWhole (isWhole_of_keyable h hu), of_decide_eq_true hu, rfl⟩
  rw [keyed, hd]
  rfl

theorem User.keyed_of_not_keyable {length : Nat} {u : User} (h : 0 < length)
    (hu : u.keyable length = false) : u.keyed length = .error (u.keyFault length) := by
  have hlt : u.secret.bytes.length < length := Nat.not_le.mp (of_decide_eq_false hu)
  unfold keyed keyFault deriveKey
  rw [if_neg (by omega)]
  cases hs : u.secret.encode with
  | error why => rfl
  | ok bytes =>
      obtain ⟨-, rfl⟩ := RawText.encode_eq_ok_iff.mp hs
      have hlt' : u.secret.bytes.length < (length : Int).toNat := by simpa using hlt
      dsimp only
      rw [if_pos hlt']
      rfl

theorem User.keyed_eq_ok_iff {length : Nat} (h : 0 < length) {u v : User} :
    u.keyed length = .ok v ↔ u.keyable length = true ∧ v = u.withOwnKey length := by
  cases hu : u.keyable length with
  | true => simp [keyed_of_keyable h hu, eq_comm]
  | false => simp [keyed_of_not_keyable h hu]

theorem User.isKeyed_of_keyed {length : Nat} (h : 0 < length) {u v : User}
    (hv : u.keyed length = .ok v) : v.IsKeyed length u.id := by
  obtain ⟨hl, rfl⟩ := (keyed_eq_ok_iff h).mp hv
  exact ⟨rfl, of_decide_eq_true hl, rfl⟩

/-- Whether the secrets of all users of a list have bytes. -/
def Legible (users : List User) : Prop := ∀ u ∈ users, u.secret.isWhole = true

instance (users : List User) : Decidable (Legible users) := by
  unfold Legible
  infer_instance

/-- Either all secrets of a list have bytes, or there is a first that has none. -/
theorem legible_or_torn (users : List User) :
    Legible users ∨ ∃ before u after, users = before ++ u :: after ∧ Legible before
      ∧ u.secret.isWhole = false := by
  induction users with
  | nil => exact .inl nofun
  | cons u rest ih =>
      by_cases hu : u.secret.isWhole = true
      · rcases ih with hl | ⟨before, v, after, rfl, hb, hv⟩
        · exact .inl (List.forall_mem_cons.mpr ⟨hu, hl⟩)
        · exact .inr ⟨u :: before, v, after, rfl, List.forall_mem_cons.mpr ⟨hu, hb⟩, hv⟩
      · exact .inr ⟨[], u, rest, rfl, nofun, Bool.eq_false_iff.mpr hu⟩

/-- If not all secrets of a list have bytes, there is a first that has none. -/
theorem exists_torn_of_not_legible {users : List User} (h : ¬ Legible users) :
    ∃ before u after, users = before ++ u :: after ∧ Legible before
      ∧ u.secret.isWhole = false :=
  (legible_or_torn users).resolve_left h

/-- The high half of a surrogate pair. -/
def sampleHalf : Surrogate := ⟨0xD800, by decide, by decide⟩

/-- A user whose secret has sixteen letters and half of a surrogate pair in front of them. -/
def sampleTorn : User := ⟨2, .torn "" sampleHalf "0123456789abcdef", []⟩

/-! ### Whole lists -/

/-- Whether every user of a map stands under its own number with its own key. -/
def IsKeyed (length : Nat) (m : OrderedMap Int User) : Prop :=
  ∀ id u, m.get? id = some u → u.IsKeyed length id

theorem isKeyed_empty (length : Nat) : IsKeyed length .empty := nofun

theorem IsKeyed.insert {length : Nat} {m : OrderedMap Int User} (h : IsKeyed length m)
    {id : Int} {u : User} (hu : u.IsKeyed length id) : IsKeyed length (m.insert id u) := by
  intro j v hv
  rw [OrderedMap.get?_insert] at hv
  split at hv
  · next hj =>
    cases hv
    exact hj ▸ hu
  · exact h j v hv

theorem IsKeyed.erase {length : Nat} {m : OrderedMap Int User} (h : IsKeyed length m) (id : Int) :
    IsKeyed length (m.erase id) := by
  intro j v hv
  rw [OrderedMap.get?_erase] at hv
  split at hv
  · cases hv
  · exact h j v hv

theorem keySome_append_singleton (length : Nat) (users : List User) (u : User) :
    keySome length (users ++ [u]) = (keySome length users).step length u := by
  rw [keySome, List.foldl_append]
  rfl

theorem isKeyed_keySome {length : Nat} (h : 0 < length) (users : List User) :
    IsKeyed length (keySome length users).users := by
  -- By induction on the last entry, which is what the fold does last.
  induction users using List.reverseRecOn with
  | nil => exact isKeyed_empty length
  | append_singleton rest u ih =>
      rw [keySome_append_singleton, Keyed.step]
      split
      · exact ih
      · cases hk : u.keyed length with
        | ok v => exact ih.insert (User.isKeyed_of_keyed h hk)
        | error fault =>
            dsimp only
            split
            · exact ih.erase u.id
            · exact ih

theorem isKeyed_of_result {length : Nat} (h : 0 < length) {users : List User}
    {m : OrderedMap Int User} (hm : (keySome length users).result = .ok m) : IsKeyed length m := by
  unfold Keyed.result at hm
  split at hm
  · cases hm
    exact isKeyed_keySome h users
  · cases hm

theorem isKeyed_keyAllFrom {length : Nat} (h : 0 < length) {users : List User}
    {keyed m : OrderedMap Int User} (hk : IsKeyed length keyed)
    (hm : keyAllFrom length keyed users = .ok m) : IsKeyed length m := by
  induction users generalizing keyed with
  | nil =>
      cases hm
      exact hk
  | cons u rest ih =>
      unfold keyAllFrom at hm
      split at hm
      · cases hm
      · next v hv => exact ih (hk.insert (User.isKeyed_of_keyed h hv)) hm

theorem isKeyed_keyAll {length : Nat} (h : 0 < length) {users : List User}
    {m : OrderedMap Int User} (hm : keyAll length users = .ok m) : IsKeyed length m :=
  isKeyed_keyAllFrom h (isKeyed_empty length) hm

theorem IsKeyed.id_eq {length : Nat} {m : OrderedMap Int User} (h : IsKeyed length m) (id : Int)
    (u : User) (hu : m.get? id = some u) : u.id = id :=
  (h id u hu).id

/-- Users with keys have secrets with bytes. -/
theorem IsKeyed.legible {length : Nat} (hl : 0 < length) {m : OrderedMap Int User}
    (h : IsKeyed length m) : Legible m.values := by
  intro u hu
  obtain ⟨id, hid⟩ := OrderedMap.mem_values_iff.mp hu
  exact (h id u hid).isWhole hl

/-- The key that a list of users gives a user: that of its last entry, if it has one. -/
def keyFor (length : Nat) (users : List User) (id : Int) : Option (List UInt8) :=
  (lastOf users id).bind fun u =>
    if length ≤ u.secret.bytes.length then some (keyOf length u.secret) else none

end ProxyNode
