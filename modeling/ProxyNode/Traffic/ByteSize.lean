import ProxyNode.Fault.Basic
import ProxyNode.Json.Whole
import ProxyNode.Number.Fixed

/-!
# Traffic — ByteSize

Numbers of bytes for people to read: two decimal places and the largest unit, in steps of 1024, that
leaves less than 1024 of it.

* `ofInt_small`: what is less than a kilobyte is shown in bytes.
-/

namespace ProxyNode

/-- The whole number that a value stands for, where nothing else is provided for. -/
def wholeOrFault (v : Json) : Except Fault Int :=
  match v.whole with
  | .ok n => .ok n
  | .error .kind => .error (.unexpected (.notANumber v.kindName))
  | .error (.numeral fault) => .error (.unexpected (.numeral fault))
  | .error .nan => .error (.unexpected .nan)
  | .error .infinite => .error (.unexpected .infinite)

namespace ByteSize

/-- The units below the largest. -/
def units : List String := ["KB", "MB", "GB", "TB"]

def largestUnit : String := "PB"

def amountText (x : Float) (unit : String) : String := Binary64.fixed 2 x ++ " " ++ unit

/-- A number in the first of the units that leaves less than 1024, each 1024 times the last. -/
def scaledText (x : Float) : List String → String
  | [] => amountText x largestUnit
  | unit :: rest => if x < 1024.0 then amountText x unit else scaledText (x / 1024.0) rest

/-- The size of a whole number of bytes. -/
def ofInt (n : Int) : Except Fault String :=
  if n < 1024 then
    match Binary64.ofInt? n with
    | some x => .ok (amountText x "B")
    | none => .error (.unexpected .tooLarge)
  else
    match Binary64.ofRatio? false n.toNat 1024 with
    | some x => .ok (scaledText x units)
    | none => .error (.unexpected .quotientTooLarge)

/-- The size that a value stands for, null being none. -/
def ofJson : Json → Except Fault String
  | .null => ofInt 0
  | v =>
    match wholeOrFault v with
    | .ok n => ofInt n
    | .error fault => .error fault

theorem ofInt_small {n : Int} {x : Float} (h : n < 1024) (hx : Binary64.ofInt? n = some x) :
    ofInt n = .ok (amountText x "B") := by
  simp [ofInt, h, hx]

end ByteSize

end ProxyNode
