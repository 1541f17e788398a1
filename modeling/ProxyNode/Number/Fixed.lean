import ProxyNode.Number.Binary64

/-!
# Number — Fixed

Doubles with a fixed number of decimal places.  The exact value is rounded, a half to the even
neighbour, and a negative value keeps its sign when it rounds to zero.

* `placed_zero`: without places there is no point.
-/

namespace ProxyNode.Binary64

/-- The digits of `n / 10 ^ places` with the point in its place. -/
def placed (places n : Nat) : String :=
  if places = 0 then toString n
  else
    let fraction := toString (n % powerOfTen places)
    let zeros := String.ofList (List.replicate (places - fraction.length) '0')
    toString (n / powerOfTen places) ++ "." ++ zeros ++ fraction

/-- The double with `places` decimal places. -/
def fixed (places : Nat) (x : Float) : String :=
  match view x with
  | .nan => "nan"
  | .infinite negative => if negative then "-inf" else "inf"
  | .finite negative m e =>
    let (n, d) := scaled (m * powerOfTen places) 1 e
    (if negative then "-" else "") ++ placed places (roundRatio n d)

theorem placed_zero (n : Nat) : placed 0 n = toString n := rfl

end ProxyNode.Binary64
