import ProxyNode.Config.NodeConfig
import ProxyNode.Proofs.Roster.Standing

/-!
# Roster — Keying, all users or some

A list of users is keyed in two ways.  A node that starts keys every entry or gives up; a node that
runs passes over the entries with too short a secret, and each of these takes back what earlier
entries of its user brought in.  Either way the list is gone through entry by entry, and in the end
of each user only the last entry counts.  A secret without bytes is not passed over, it ends either
way.

* `lastOf_eq_some_iff_append`: the last entry of a user, by what stands before and after it.
* `get?_wanted_eq_some_iff`: who is keyed, and how.
* `keyAll_eq_error_iff`: to give up is to stop at the first entry that has no key.
* `keyed_either_way`: both ways, for any list and any configuration.
* `keying_breaks_off`: one secret without bytes, and nobody is keyed.
-/

namespace ProxyNode

variable {length : Nat} {users : List User} {u : User}

theorem lastOf_eq_some_iff_append {id : Int} :
    lastOf users id = some u
      ↔ u.id = id ∧ ∃ before after, users = before ++ u :: after ∧ ∀ w ∈ after, w.id ≠ id := by
  -- The last entry is looked for in the reversed list, where what comes after it stands before it.
  rw [lastOf, List.find?_eq_some_iff_append, decide_eq_true_iff]
  refine and_congr_right fun _ => ?_
  constructor
  · rintro ⟨later, earlier, hr, hlater⟩
    refine ⟨earlier.reverse, later.reverse, ?_, fun w hw => ?_⟩
    · rw [← List.reverse_reverse users, hr]
      simp
    · simpa using hlater w (List.mem_reverse.mp hw)
  · rintro ⟨before, after, rfl, hafter⟩
    refine ⟨after.reverse, before.reverse, by simp, fun w hw => ?_⟩
    simpa using hafter w (List.mem_reverse.mp hw)

/-- A user is keyed as its last entry says, if the secret of that is long enough. -/
theorem get?_wanted_eq_some_iff {id : Int} {v : User} :
    (wanted length users).get? id = some v
      ↔ ∃ before u after, users = before ++ u :: after ∧ u.id = id ∧ (∀ w ∈ after, w.id ≠ id)
        ∧ length ≤ u.secret.bytes.length ∧ v = ⟨id, u.secret, u.secret.bytes.take length⟩ := by
  rw [get?_wanted, Option.map_eq_some_iff]
  constructor
  · rintro ⟨u, hu, rfl⟩
    obtain ⟨hlast, hk⟩ := Option.filter_eq_some_iff.mp hu
    obtain ⟨rfl, before, after, rfl, hafter⟩ := lastOf_eq_some_iff_append.mp hlast
    exact ⟨before, u, after, rfl, rfl, hafter, of_decide_eq_true hk, rfl⟩
  · rintro ⟨before, u, after, rfl, rfl, hafter, hsize, rfl⟩
    have hlast := lastOf_eq_some_iff_append.mpr ⟨rfl, before, after, rfl, hafter⟩
    exact ⟨u, Option.filter_eq_some_iff.mpr ⟨hlast, decide_eq_true hsize⟩, rfl⟩

/-- To give up is to stop at the first entry that has no key. -/
theorem keyAll_eq_error_iff (h : 0 < length) {fault : Fault} :
    keyAll length users = .error fault
      ↔ ∃ before u after, users = before ++ u :: after
        ∧ (∀ w ∈ before, length ≤ w.secret.bytes.length) ∧ u.secret.bytes.length < length
        ∧ fault = u.keyFault length := by
  have hkeyable (v : User) : v.keyable length = true ↔ length ≤ v.secret.bytes.length :=
    decide_eq_true_iff
  rw [keyAll_eq h]
  constructor
  · intro hf
    cases hu : users.find? fun u => !u.keyable length with
    | none =>
        rw [hu] at hf
        cases hf
    | some u =>
        rw [hu] at hf
        cases hf
        obtain ⟨hshort, before, after, rfl, hbefore⟩ := List.find?_eq_some_iff_append.mp hu
        refine ⟨before, u, after, rfl, fun w hw => ?_, ?_, rfl⟩
        · rw [← hkeyable]
          simpa using hbefore w hw
        · rw [← Nat.not_le, ← hkeyable]
          simpa using hshort
  · rintro ⟨before, u, after, rfl, hbefore, hshort, rfl⟩
    have hu : (before ++ u :: after).find? (fun u => !u.keyable length) = some u := by
      refine List.find?_eq_some_iff_append.mpr ⟨?_, before, after, rfl, fun w hw => ?_⟩
      · rw [← Nat.not_le, ← hkeyable] at hshort
        simpa using hshort
      · simpa using (hkeyable w).mpr (hbefore w hw)
    rw [hu]

/-- What a list of users is keyed to for keys of `length` bytes. -/
structure KeyedEitherWay (length : Nat) (users : List User) : Prop where
  /-- If all secrets have bytes, the lenient way comes to an end.  A user is then keyed if and only
  if the secret of its last entry has enough of them, and as this entry says, with the first of them
  for a key. -/
  lenient : Legible users → ∃ m, (keySome length users).result = .ok m
    ∧ ∀ id v, m.get? id = some v
      ↔ ∃ before u after, users = before ++ u :: after ∧ u.id = id ∧ (∀ w ∈ after, w.id ≠ id)
        ∧ length ≤ u.secret.bytes.length ∧ v = ⟨id, u.secret, u.secret.bytes.take length⟩
  /-- To key every entry then fails for a short secret, if and only if some entry has one. -/
  strict : Legible users → ((∃ size, keyAll length users = .error (.shortSecret size length))
    ↔ ∃ u ∈ users, u.secret.bytes.length < length)
  /-- Where it does not fail, the keys are those of the lenient way, in the same order. -/
  same : (∀ u ∈ users, length ≤ u.secret.bytes.length) →
    ∃ m, keyAll length users = .ok m ∧ (keySome length users).result = .ok m
  /-- The first secret without bytes ends the lenient way, and the strict way if no earlier secret is
  too short. -/
  torn : ∀ before u after why, users = before ++ u :: after → Legible before →
    u.secret.encode = .error why →
    (keySome length users).result = .error (.unexpected (.unencodable why))
      ∧ ((∀ w ∈ before, length ≤ w.secret.bytes.length) →
        keyAll length users = .error (.unexpected (.unencodable why)))

/-- Of each user of a list the last entry counts, whichever way the list is keyed. -/
theorem keyed_either_way (config : NodeConfig) (users : List User) :
    KeyedEitherWay config.cipher.keyLength users := by
  have hpos := config.cipher.keyLength_pos
  constructor
  case lenient =>
    exact fun hl => ⟨_, result_of_legible hpos hl, fun _ _ => get?_wanted_eq_some_iff⟩
  case strict =>
    intro hl
    constructor
    · rintro ⟨size, hf⟩
      obtain ⟨before, u, after, rfl, -, hshort, -⟩ := (keyAll_eq_error_iff hpos).mp hf
      exact ⟨u, by simp, hshort⟩
    · rintro ⟨u, hu, hshort⟩
      cases hk : keyAll config.cipher.keyLength users with
      | ok m =>
          rw [keyAll_eq hpos] at hk
          split at hk
          · cases hk
          · next hnone =>
            have hku := List.find?_eq_none.mp hnone u hu
            rw [User.keyable, Bool.not_eq_true', decide_eq_false_iff_not, not_not] at hku
            exact absurd hku (Nat.not_le.mpr hshort)
      | error fault =>
          obtain ⟨before, v, after, rfl, -, -, rfl⟩ := (keyAll_eq_error_iff hpos).mp hk
          exact ⟨_, congrArg Except.error (User.keyFault_of_isWhole (hl v (by simp)))⟩
  case same =>
    intro hall
    have hl : Legible users := fun u hu =>
      RawText.isWhole_of_bytes (Nat.lt_of_lt_of_le hpos (hall u hu))
    refine ⟨_, ?_, result_of_legible hpos hl⟩
    have hnone : users.find? (fun u => !u.keyable config.cipher.keyLength) = none :=
      List.find?_eq_none.mpr fun u hu => by simpa [User.keyable] using hall u hu
    rw [keyAll_eq hpos, hnone]
  case torn =>
    rintro before u after why rfl hl hwhy
    have hw : u.secret.isWhole = false := by
      refine Bool.eq_false_iff.mpr fun hw => ?_
      rw [RawText.encode_of_isWhole hw] at hwhy
      cases hwhy
    have hfault : u.keyFault config.cipher.keyLength = .unexpected (.unencodable why) := by
      rw [User.keyFault, hwhy]
    refine ⟨(result_of_torn hpos hl hw).trans (congrArg Except.error hfault), fun hbefore => ?_⟩
    refine (keyAll_eq_error_iff hpos).mpr ⟨before, u, after, rfl, hbefore, ?_, hfault.symm⟩
    by_contra hsize
    rw [RawText.isWhole_of_bytes (Nat.lt_of_lt_of_le hpos (Nat.not_lt.mp hsize))] at hw
    cases hw

/-- One secret without bytes, and nobody is keyed, though the secret of the other user is long
enough and nothing else is said of it. -/
theorem keying_breaks_off :
    lastOf [⟨1, "0123456789abcdef", []⟩, sampleTorn] 1 = some ⟨1, "0123456789abcdef", []⟩
      ∧ Cipher.aes128Gcm.keyLength ≤ ("0123456789abcdef" : RawText).bytes.length
      ∧ (keySome Cipher.aes128Gcm.keyLength [⟨1, "0123456789abcdef", []⟩, sampleTorn]).result
        = .error (.unexpected (.unencodable ⟨sampleHalf, 0, 1⟩))
      ∧ keyAll Cipher.aes128Gcm.keyLength [sampleTorn, ⟨1, "short", []⟩]
        = .error (.unexpected (.unencodable ⟨sampleHalf, 0, 1⟩)) := by
  decide +kernel

/-- Eight letters of two bytes each are enough for a key of sixteen, and a user whose last secret
is too short is left out, whatever it had before. -/
example : (keySome 16 [⟨1, "éééééééé", []⟩, ⟨2, "0123456789abcdef", []⟩, ⟨2, "short", []⟩]).users.keys
    = [1] := by
  decide +kernel

end ProxyNode
