import ProxyNode.Number.Power

/-!
# Number — Binary64

Doubles as exact numbers: what a double stands for, and the double nearest to a quotient of two
natural numbers, ties going to the even neighbour.

* `roundRatio_mul`: a quotient without remainder is not changed by rounding.
* `roundRatio_near`: rounding moves a quotient by at most half a unit.
-/

namespace ProxyNode.Binary64

/-- What a double stands for; a finite one is `mantissa * 2 ^ exponent` with a sign. -/
inductive View where
  | finite (negative : Bool) (mantissa : Nat) (exponent : Int)
  | infinite (negative : Bool)
  | nan
  deriving DecidableEq, Repr

/-- The exponent of the smallest positive double. -/
def minExponent : Int := -1074

/-- The fields of a double: sign, biased exponent and fraction. -/
def view (x : Float) : View :=
  let bits : Nat := x.toBits.toNat
  let negative := bits / powerOfTwo 63 == 1
  let biased : Nat := bits / powerOfTwo 52 % powerOfTwo 11
  let fraction : Nat := bits % powerOfTwo 52
  if biased = 2047 then
    if fraction = 0 then .infinite negative else .nan
  else if biased = 0 then .finite negative fraction minExponent
  else .finite negative (powerOfTwo 52 + fraction) (biased - 1075)

/-- `num / den` rounded to the nearest natural number, a half to the even one. -/
def roundRatio (num den : Nat) : Nat :=
  let q := num / den
  let r := num % den
  if den < 2 * r ∨ (2 * r = den ∧ q % 2 = 1) then q + 1 else q

/-- `num / den * 2 ^ e` for an `e` that may be negative, as numerator and denominator. -/
def scaled (num den : Nat) (e : Int) : Nat × Nat :=
  (num * powerOfTwo e.toNat, den * powerOfTwo (-e).toNat)

/-- The `e` with `2 ^ e ≤ num / den < 2 ^ (e + 1)`, for positive `num` and `den`. -/
def binade (num den : Nat) : Int :=
  let e : Int := num.log2 - den.log2
  let (n, d) := scaled num den (-e)
  if n < d then e - 1 else e

def infinityBits : Nat := 0x7ff0000000000000

/-- The bits of the double nearest to the positive `num / den`; infinity if that is too large. -/
def nearestBits (num den : Nat) : Nat :=
  let step := max (binade num den - 52) minExponent
  let (n, d) := scaled num den (-step)
  min ((step - minExponent).toNat * powerOfTwo 52 + roundRatio n d) infinityBits

/-- The double nearest to `num / den`, with a sign; infinity if that is too large. -/
def ofRatio (negative : Bool) (num den : Nat) : Float :=
  let bits := if num = 0 then 0 else nearestBits num den
  Float.ofBits (UInt64.ofNat (if negative then powerOfTwo 63 + bits else bits))

def isInfinite (x : Float) : Bool :=
  match view x with
  | .infinite _ => true
  | _ => false

def isNaN (x : Float) : Bool :=
  match view x with
  | .nan => true
  | _ => false

/-- The double nearest to `num / den`, unless it is too large for one. -/
def ofRatio? (negative : Bool) (num den : Nat) : Option Float :=
  if num ≠ 0 ∧ infinityBits ≤ nearestBits num den then none else some (ofRatio negative num den)

/-- The double nearest to a whole number, unless it is too large for one. -/
def ofInt? (i : Int) : Option Float := ofRatio? (i < 0) i.natAbs 1

/-- Why a double has no whole part. -/
inductive NotWhole where
  | infinite
  | nan
  deriving DecidableEq, Repr

/-- The whole part of a double, the fraction cut off towards zero. -/
def truncate (x : Float) : Except NotWhole Int :=
  match view x with
  | .nan => .error .nan
  | .infinite _ => .error .infinite
  | .finite negative m e =>
    let (n, d) := scaled m 1 e
    .ok (if negative then -(n / d : Nat) else (n / d : Nat))

theorem roundRatio_mul {q den : Nat} (h : 0 < den) : roundRatio (q * den) den = q := by
  simp [roundRatio, Nat.mul_div_cancel _ h, Nat.ne_of_lt h]

theorem roundRatio_near {num den : Nat} (h : 0 < den) :
    2 * num ≤ (2 * roundRatio num den + 1) * den
      ∧ 2 * roundRatio num den * den ≤ 2 * num + den := by
  have hm := Nat.div_add_mod num den
  have hr := Nat.mod_lt num h
  have hc : den * (num / den) = num / den * den := Nat.mul_comm ..
  unfold roundRatio
  dsimp only
  split
  · next hs => constructor <;> simp only [Nat.add_mul, Nat.mul_add, Nat.mul_assoc] <;> omega
  · next hs => constructor <;> simp only [Nat.add_mul, Nat.mul_assoc] <;> omega

end ProxyNode.Binary64
