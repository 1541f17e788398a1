import ProxyNode.Number.Binary64
import ProxyNode.Number.Numeral
import ProxyNode.Text.Case

/-!
# Number — Decimal

Numbers in decimal notation, with an optional point and exponent, and the double each denotes.

* `toFloat_zero`: a decimal without a digit other than zero denotes zero of its sign.
-/

namespace ProxyNode

/-- The number `digits * 10 ^ exponent`, with a sign. -/
structure Decimal where
  negative : Bool
  digits : Nat
  exponent : Int
  deriving DecidableEq, Repr

namespace Decimal

open Text Numeral

/-- The digits at the front of a text and the text after them. -/
def spanDigits (cs : List Char) : List Char × List Char :=
  (cs.takeWhile fun c => (asciiDigit? c).isSome, cs.dropWhile fun c => (asciiDigit? c).isSome)

/-- The value of a list of digits. -/
def digitsValue (cs : List Char) : Nat :=
  cs.foldl (fun n c => n * 10 + (asciiDigit? c).getD 0) 0

/-- The exponent at the front of a text, none being zero, and the text after it. -/
def readExponent : List Char → Int × List Char
  | [] => (0, [])
  | c :: rest =>
    if c = 'e' ∨ c = 'E' then
      let (negative, body) := splitSign rest
      let (digits, after) := spanDigits body
      if digits.isEmpty then (0, c :: rest) else (signed negative (digitsValue digits), after)
    else (0, c :: rest)

/-- Reads a whole text as an unsigned decimal with a digit before or after its point. -/
def readUnsigned (negative : Bool) (cs : List Char) : Option Decimal :=
  let (whole, rest) := spanDigits cs
  let (fraction, rest) := match rest with
    | '.' :: after => spanDigits after
    | _ => ([], rest)
  let (exponent, rest) := readExponent rest
  if (whole.isEmpty && fraction.isEmpty) || !rest.isEmpty then none
  else some ⟨negative, digitsValue (whole ++ fraction), exponent - fraction.length⟩

def readSigned (cs : List Char) : Option Decimal :=
  let (negative, body) := splitSign cs
  readUnsigned negative body

/-- Numbers of at least `10 ^ tooLarge` exceed all doubles, those below `10 ^ tooSmall` round to
zero. -/
def tooLarge : Int := 310

def tooSmall : Int := -330

/-- The double nearest to the number. -/
def toFloat (d : Decimal) : Float :=
  let magnitude : Int := (Nat.toDigits 10 d.digits).length + d.exponent
  if d.digits = 0 ∨ magnitude < tooSmall then Binary64.ofRatio d.negative 0 1
  else if tooLarge < magnitude then Binary64.ofRatio d.negative (powerOfTen 400) 1
  else
    Binary64.ofRatio d.negative (d.digits * powerOfTen d.exponent.toNat)
      (powerOfTen (-d.exponent).toNat)

theorem toFloat_zero (negative : Bool) (exponent : Int) :
    toFloat ⟨negative, 0, exponent⟩ = Binary64.ofRatio negative 0 1 := by
  simp [toFloat]

/-- The text without its underscores; `none` if one does not stand between two digits. -/
def dropUnderscores (afterDigit : Bool) : List Char → Option (List Char)
  | [] => some []
  | c :: rest =>
    if c = '_' then
      if afterDigit && startsWithDigit rest then dropUnderscores false rest else none
    else (dropUnderscores (asciiDigit? c).isSome rest).map (c :: ·)

/-- The spelled-out doubles, in any case. -/
def readName (cs : List Char) : Option Float :=
  let (negative, body) := splitSign cs
  let name := body.map Char.toLower
  if name = "inf".toList ∨ name = "infinity".toList then
    some (Binary64.ofRatio negative (powerOfTen 400) 1)
  else if name = "nan".toList then some (0.0 / 0.0)
  else none

/-- Reads a text as a double: a decimal in the digits of any script with single underscores between
digits, or the name of infinity or of the undefined number, with blanks around it. -/
def readFloat (s : String) : Option Float :=
  let cs := (plainNumeral s).dropWhile isNumeralBlank
  let cs := (cs.reverse.dropWhile isNumeralBlank).reverse
  match dropUnderscores false cs with
  | none => none
  | some cs =>
    match readSigned cs with
    | some d => some d.toFloat
    | none => readName cs

end Decimal

end ProxyNode
