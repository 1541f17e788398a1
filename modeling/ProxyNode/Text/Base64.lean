/-!
# Text — Base64

The standard Base64 alphabet with padding: three bytes become four characters.

* `length_encodeBytes`: the length of the encoded text.
-/

namespace ProxyNode.Text.Base64

/-- The character of a six-bit value. -/
def symbol (n : Nat) : Char :=
  if n < 26 then Char.ofNat (65 + n)
  else if n < 52 then Char.ofNat (71 + n)
  else if n < 62 then Char.ofNat (n - 4)
  else if n = 62 then '+'
  else '/'

def encodeBytes : List UInt8 → List Char
  | [] => []
  | [a] =>
    let n := a.toNat * 16
    [symbol (n / 64), symbol (n % 64), '=', '=']
  | [a, b] =>
    let n := (a.toNat * 256 + b.toNat) * 4
    [symbol (n / 4096), symbol (n / 64 % 64), symbol (n % 64), '=']
  | a :: b :: c :: rest =>
    let n := (a.toNat * 256 + b.toNat) * 256 + c.toNat
    symbol (n / 262144) :: symbol (n / 4096 % 64) :: symbol (n / 64 % 64) :: symbol (n % 64)
      :: encodeBytes rest

/-- The bytes as Base64 text. -/
def encode (bytes : List UInt8) : String := String.ofList (encodeBytes bytes)

theorem length_encodeBytes (bytes : List UInt8) :
    (encodeBytes bytes).length = (bytes.length + 2) / 3 * 4 := by
  fun_induction encodeBytes bytes <;> grind

end ProxyNode.Text.Base64
