import ProxyNode.Text.Blank

/-!
# Text — Digit

Decimal digits of every script.  A numeral may be written in any of them; `plainNumeral` puts
ASCII digits and ASCII blanks in their place, so that one reader serves all.

* `plainChar_of_ascii`: what is ASCII already stays as it is.
-/

namespace ProxyNode.Text

/-- The zeros of the decimal digits of Unicode 14; the digits one to nine follow each. -/
def zeros : List Nat := [
  48, 1632, 1776, 1984, 2406, 2534, 2662, 2790, 2918, 3046, 3174, 3302, 3430, 3558, 3664, 3792,
  3872, 4160, 4240, 6112, 6160, 6470, 6608, 6784, 6800, 6992, 7088, 7232, 7248, 42528, 43216,
  43264, 43472, 43504, 43600, 44016, 65296, 66720, 68912, 69734, 69872, 69942, 70096, 70384,
  70736, 70864, 71248, 71360, 71472, 71904, 72016, 72784, 73040, 73120, 92768, 92864, 93008,
  120782, 120792, 120802, 120812, 120822, 123200, 123632, 125264, 130032]

/-- The value of a decimal digit of any script. -/
def digit? (c : Char) : Option Nat :=
  match zeros.find? fun z => z ≤ c.toNat && c.toNat ≤ z + 9 with
  | some z => some (c.toNat - z)
  | none => none

/-- The value of an ASCII digit. -/
def asciiDigit? (c : Char) : Option Nat :=
  if '0' ≤ c ∧ c ≤ '9' then some (c.toNat - 48) else none

/-- The value of a hexadecimal digit, in either case. -/
def hexDigit? (c : Char) : Option Nat :=
  if '0' ≤ c ∧ c ≤ '9' then some (c.toNat - 48)
  else if 'a' ≤ c ∧ c ≤ 'f' then some (c.toNat - 87)
  else if 'A' ≤ c ∧ c ≤ 'F' then some (c.toNat - 55)
  else none

/-- The ASCII digit of a value below ten. -/
def digitChar (d : Nat) : Char := Char.ofNat (48 + d)

/-- The white space that a numeral may stand between. -/
def isNumeralBlank (c : Char) : Bool :=
  c = ' ' || c = '\t' || c = '\n' || c = '\r' || c = '\x0b' || c = '\x0c'

/-- A character of a numeral in ASCII: blanks beyond ASCII become spaces and digits ASCII digits;
what else lies beyond ASCII becomes a question mark, which no numeral contains. -/
def plainChar (c : Char) : Char :=
  if c.toNat < 127 then c
  else if isBlank c then ' '
  else match digit? c with
    | some d => digitChar d
    | none => '?'

theorem plainChar_of_ascii {c : Char} (h : c.toNat < 127) : plainChar c = c := by
  simp [plainChar, h]

/-- The characters of a numeral in ASCII. -/
def plainNumeral (s : String) : List Char := s.toList.map plainChar

end ProxyNode.Text
