import ProxyNode.Json.Value
import ProxyNode.Number.Shortest

/-!
# Json — Display

JSON values as messages show them.  Texts are quoted, except where a value stands alone; numbers
that are not whole have the fewest digits that read back, positional from `10 ^ -4` to below
`10 ^ 16` and with an exponent of at least two digits beyond.

* `plain_text`: a text that stands alone is shown without quotes.
-/

namespace ProxyNode.Json

open Binary64

/-- The powers of ten of the first digit that are written without an exponent. -/
def isPositional (power : Int) : Bool := -4 ≤ power && power < 16

/-- The exponent with its sign and at least two digits. -/
def exponentText (power : Int) : String :=
  let digits := toString power.natAbs
  (if power < 0 then "-" else "+") ++ (if digits.length < 2 then "0" else "") ++ digits

def zeros (n : Nat) : String := String.ofList (List.replicate n '0')

/-- A positive decimal in positional or exponent notation. -/
def scientificText (d : Scientific) : String :=
  let digits := toString d.digits
  if isPositional d.power then
    if d.power < 0 then "0." ++ zeros (-d.power - 1).toNat ++ digits
    else
      let whole := d.power.toNat + 1
      if d.count ≤ whole then digits ++ zeros (whole - d.count) ++ ".0"
      else String.ofList (digits.toList.take whole) ++ "."
        ++ String.ofList (digits.toList.drop whole)
  else
    let tail := String.ofList (digits.toList.drop 1)
    String.ofList (digits.toList.take 1) ++ (if tail = "" then "" else "." ++ tail)
      ++ "e" ++ exponentText d.power

/-- A double with the fewest digits that read back. -/
def realText (x : Float) : String :=
  match view x with
  | .nan => "nan"
  | .infinite negative => if negative then "-inf" else "inf"
  | .finite negative m e =>
    (if negative then "-" else "") ++ if m = 0 then "0.0" else scientificText (shortest m e)

mutual

/-- A value as it is shown inside a message or another value. -/
def display : Json → String
  | .null => "None"
  | .bool b => if b then "True" else "False"
  | .int i => toString i
  | .real x => realText x
  | .text s => s.quote
  | .array items => "[" ++ displayItems items ++ "]"
  | .object fields => "\x7b" ++ displayFields fields ++ "\x7d"

def displayItems : List Json → String
  | [] => ""
  | [v] => display v
  | v :: rest => display v ++ ", " ++ displayItems rest

def displayFields : List (RawText × Json) → String
  | [] => ""
  | [(name, v)] => name.quote ++ ": " ++ display v
  | (name, v) :: rest => name.quote ++ ": " ++ display v ++ ", " ++ displayFields rest

end

/-- A value that stands alone. -/
def plain : Json → RawText
  | .text s => s
  | v => display v

theorem plain_text (s : RawText) : plain (.text s) = s := rfl

end ProxyNode.Json
