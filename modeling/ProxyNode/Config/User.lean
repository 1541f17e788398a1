import ProxyNode.Fault.Basic

/-!
# Config — User

A user as the panel lists it, and the key that the engine knows it by: the first bytes of its
secret, as many as the cipher needs.  A secret that is too short is never padded, and one that has no
bytes at all has no key.

* `deriveKey_eq_ok_iff`: which secrets have a key and what it is.
-/

namespace ProxyNode

structure User where
  id : Int
  secret : RawText
  key : List UInt8 := []
  deriving DecidableEq, Repr

/-- The first `length` bytes of a secret, which may turn out to have none. -/
def deriveKey (secret : Except Unencodable (List UInt8)) (length : Int) :
    Except Fault (List UInt8) :=
  if length ≤ 0 then .error (.config (.keyLength length))
  else match secret with
    | .error why => .error (.unexpected (.unencodable why))
    | .ok bytes =>
      if bytes.length < length.toNat then .error (.shortSecret bytes.length length.toNat)
      else .ok (bytes.take length.toNat)

namespace User

def withKey (u : User) (key : List UInt8) : User := { u with key }

/-- A user in a message, which shows neither its secret nor its key. -/
def display (u : User) : String :=
  let keyed := if u.key.isEmpty then "False" else "True"
  s!"UserRecord(user_id={u.id}, keyed={keyed})"

/-- The user with the key for a cipher with keys of `length` bytes. -/
def keyed (u : User) (length : Nat) : Except Fault User :=
  match deriveKey u.secret.encode length with
  | .ok key => .ok (u.withKey key)
  | .error fault => .error fault

end User

theorem deriveKey_eq_ok_iff {secret : Except Unencodable (List UInt8)} {key : List UInt8}
    {length : Nat} (h : 0 < length) :
    deriveKey secret length = .ok key
      ↔ ∃ bytes, secret = .ok bytes ∧ length ≤ bytes.length ∧ key = bytes.take length := by
  have h' : length ≠ 0 := by omega
  cases secret with
  | error why => simp [deriveKey, h']
  | ok bytes =>
    by_cases hs : bytes.length < length
    · simp [deriveKey, h', hs, Nat.not_le.mpr hs]
    · simp [deriveKey, h', hs, Nat.not_lt.mp hs, eq_comm]

end ProxyNode
