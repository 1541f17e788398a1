import ProxyNode.Fault.Basic
import ProxyNode.Json.Display
import ProxyNode.Text.Case

/-!
# Config — Cipher

The ciphers that a node may listen with, their names and the length of a user's key for each.

* `ofName?_name`: a cipher is found under its own name.
* `keyLength_pos`: no cipher has an empty key.
-/

namespace ProxyNode

inductive Cipher where
  | aes128Gcm
  | aes256Gcm
  | chacha20Poly1305
  | chacha8Poly1305
  deriving DecidableEq, Repr

namespace Cipher

def all : List Cipher := [.aes128Gcm, .aes256Gcm, .chacha20Poly1305, .chacha8Poly1305]

def name : Cipher → String
  | .aes128Gcm => "2022-blake3-aes-128-gcm"
  | .aes256Gcm => "2022-blake3-aes-256-gcm"
  | .chacha20Poly1305 => "2022-blake3-chacha20-poly1305"
  | .chacha8Poly1305 => "2022-blake3-chacha8-poly1305"

/-- The number of bytes of a user's key. -/
def keyLength : Cipher → Nat
  | .aes128Gcm => 16
  | _ => 32

def ofName? (s : String) : Option Cipher := all.find? fun c => c.name == s

/-- The cipher that a text names, in any case and with blanks around it. -/
def named? (t : RawText) : Option Cipher :=
  t.whole?.bind fun s => ofName? (Text.lower (Text.strip s))

/-- The cipher that a value of the panel names. -/
def read (v : Json) : Except Fault Cipher :=
  if v.isVoid then .error (.config .noCipher)
  else match named? v.plain with
    | some c => .ok c
    | none => .error (.config (.unknownCipher v.plain))

theorem ofName?_name (c : Cipher) : ofName? c.name = some c := by
  cases c <;> rfl

theorem keyLength_pos (c : Cipher) : 0 < c.keyLength := by
  cases c <;> decide

end Cipher

end ProxyNode
