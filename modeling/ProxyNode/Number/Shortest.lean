import ProxyNode.Number.Binary64

/-!
# Number — Shortest

The shortest decimal that reads back as a given double.  Of the decimals with a given number of
digits only the two around the double can be nearer to it than to its neighbours, so the first
number of digits for which one of these two is near enough is the least.
-/

namespace ProxyNode.Binary64

/-- The decimal `digits * 10 ^ (power - count + 1)`, whose first digit stands for `10 ^ power` and
which has `count` digits. -/
structure Scientific where
  digits : Nat
  count : Nat
  power : Int
  deriving DecidableEq, Repr

/-- The positive numbers that round to one double: those strictly between `low / den` and
`high / den`, and the ends too if `closed`.  The double itself is `mid / den`. -/
structure Rounding where
  low : Nat
  mid : Nat
  high : Nat
  den : Nat
  closed : Bool

/-- What rounds to the finite positive double `m * 2 ^ e`.  Below a power of two the next double is
only half as far away. -/
def Rounding.of (m : Nat) (e : Int) : Rounding :=
  let below := if m = powerOfTwo 52 ∧ minExponent < e then 1 else 2
  let (unit, den) := scaled 1 1 (e - 2)
  ⟨(4 * m - below) * unit, 4 * m * unit, (4 * m + 2) * unit, den, m % 2 = 0⟩

/-- Whether `num / den` rounds to the double. -/
def Rounding.holds (r : Rounding) (num den : Nat) : Bool :=
  let low := r.low * den
  let high := r.high * den
  let here := num * r.den
  if r.closed then low ≤ here && here ≤ high else low < here && here < high

/-- The `p` with `10 ^ p ≤ num / den < 10 ^ (p + 1)`, for a quotient of at least `10 ^ -400`. -/
def decade (num den : Nat) : Int :=
  (Nat.toDigits 10 (num * powerOfTen 400 / den)).length - 401

/-- `n * 10 ^ e` as numerator and denominator. -/
def scaledTen (n : Nat) (e : Int) : Nat × Nat :=
  (n * powerOfTen e.toNat, powerOfTen (-e).toNat)

/-- The decimal with `count` digits nearest to the double among those that read back as it. -/
def Rounding.withDigits (r : Rounding) (power : Int) (count : Nat) : Option Scientific :=
  let e := power - count + 1
  let (unit, den) := scaledTen 1 e
  let digits := r.mid * den / (r.den * unit)
  let rest := r.mid * den % (r.den * unit)
  let below := r.holds (digits * unit) den
  let above := r.holds ((digits + 1) * unit) den
  let pick := if below && above then
      if 2 * rest < r.den * unit ∨ (2 * rest = r.den * unit ∧ digits % 2 = 0) then some digits
      else some (digits + 1)
    else if below then some digits
    else if above then some (digits + 1)
    else none
  pick.map fun d =>
    if d = powerOfTen count then ⟨powerOfTen (count - 1), count, power + 1⟩ else ⟨d, count, power⟩

/-- The shortest of the decimals with `count` digits or more, `more` lengths being left to try. -/
def Rounding.search (r : Rounding) (power : Int) (count : Nat) : Nat → Scientific
  | 0 => ⟨0, 1, 0⟩
  | more + 1 =>
    match r.withDigits power count with
    | some d => d
    | none => r.search power (count + 1) more

/-- The shortest decimal that reads back as the positive double `m * 2 ^ e`; seventeen digits are
always enough. -/
def shortest (m : Nat) (e : Int) : Scientific :=
  let r := Rounding.of m e
  r.search (decade r.mid r.den) 1 17

end ProxyNode.Binary64
