/-!
# Number — Power

The powers of the two bases that numbers are written in: two for doubles, ten for decimals.

* `powerOfTwo_pos`, `powerOfTen_pos`: no power is zero.
* `powerOfTwo_add`, `powerOfTen_add`: exponents add up.
-/

namespace ProxyNode

def powerOfTwo (n : Nat) : Nat := Nat.pow 2 n

def powerOfTen (n : Nat) : Nat := Nat.pow 10 n

theorem powerOfTwo_pos (n : Nat) : 0 < powerOfTwo n := Nat.pow_pos (by decide)

theorem powerOfTen_pos (n : Nat) : 0 < powerOfTen n := Nat.pow_pos (by decide)

theorem powerOfTwo_add (m n : Nat) : powerOfTwo (m + n) = powerOfTwo m * powerOfTwo n :=
  Nat.pow_add 2 m n

theorem powerOfTen_add (m n : Nat) : powerOfTen (m + n) = powerOfTen m * powerOfTen n :=
  Nat.pow_add 10 m n

end ProxyNode
