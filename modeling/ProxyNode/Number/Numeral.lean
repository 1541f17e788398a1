import ProxyNode.Number.Power
import ProxyNode.Text.Digit
import ProxyNode.Text.Quoted

/-!
# Number — Numeral

Whole numbers as text.  A numeral is an optional sign and decimal digits of any script, with single
underscores between digits and blanks around it.  Longer numerals than `maxDigits` are refused.

* `read_ok_length`: no numeral that is read has more than `maxDigits` digits.
* `isWritable_neg`: the sign does not matter to whether a number can be written.
-/

namespace ProxyNode.Numeral

open Text

/-- The most digits that a numeral may have, to be read or to be written. -/
def maxDigits : Nat := 4300

/-- Whether a whole number can be written out. -/
def isWritable (i : Int) : Bool := i.natAbs < powerOfTen maxDigits

/-- Why a whole number with too many digits is not written out. -/
def unwritable : String :=
  s!"Exceeds the limit ({maxDigits} digits) for integer string conversion; use sys.set_int_max_str_digits() to increase the limit"

/-- Why a text was not read as a whole number. -/
inductive Fault where
  | malformed (text : String)
  | tooLong (digits : Nat)
  deriving DecidableEq, Repr

/-- The longest quotation of a malformed numeral in its message. -/
def quoteLimit : Nat := 200

def Fault.message : Fault → String
  | .malformed text =>
    let shown := (quoteChars text.toList).take quoteLimit
    "invalid literal for int() with base 10: " ++ String.ofList shown
  | .tooLong digits =>
    s!"Exceeds the limit ({maxDigits} digits) for integer string conversion: value has {digits} digits; use sys.set_int_max_str_digits() to increase the limit"

/-- Reads digits on from a value and a count of digits so far: the value, the count and what is
left.  An underscore is passed over when a digit follows it and is an error otherwise. -/
def digitRun (value count : Nat) : List Char → Option (Nat × Nat × List Char)
  | [] => some (value, count, [])
  | '_' :: rest =>
    match rest with
    | [] => none
    | d :: rest' =>
      match asciiDigit? d with
      | some v => digitRun (value * 10 + v) (count + 1) rest'
      | none => none
  | c :: rest =>
    match asciiDigit? c with
    | some v => digitRun (value * 10 + v) (count + 1) rest
    | none => some (value, count, c :: rest)

/-- The sign in front of a number, and what follows it. -/
def splitSign : List Char → Bool × List Char
  | '-' :: rest => (true, rest)
  | '+' :: rest => (false, rest)
  | cs => (false, cs)

/-- A natural number with a sign in front. -/
def signed (negative : Bool) (n : Nat) : Int := if negative then -n else n

/-- Whether the text starts with an ASCII digit. -/
def startsWithDigit : List Char → Bool
  | [] => false
  | c :: _ => (asciiDigit? c).isSome

/-- Reads the characters of a numeral; `none` if they are malformed, else its sign, value and
number of digits. -/
def readChars (cs : List Char) : Option (Bool × Nat × Nat × List Char) :=
  let (negative, body) := splitSign (cs.dropWhile isNumeralBlank)
  if startsWithDigit body then
    match digitRun 0 0 body with
    | some (value, count, rest) => some (negative, value, count, rest)
    | none => none
  else none

/-- Reads a whole number. -/
def read (s : String) : Except Fault Int :=
  match readChars (plainNumeral s) with
  | none => .error (.malformed s)
  | some (negative, value, count, rest) =>
    if count > maxDigits then .error (.tooLong count)
    else if rest.all isNumeralBlank then .ok (signed negative value)
    else .error (.malformed s)

theorem isWritable_neg (i : Int) : isWritable (-i) = isWritable i := by
  simp [isWritable]

theorem read_ok_length {s : String} {i : Int} (h : read s = .ok i) :
    ∃ negative value count rest, readChars (plainNumeral s) = some (negative, value, count, rest)
      ∧ count ≤ maxDigits ∧ i = signed negative value := by
  unfold read at h
  split at h
  · cases h
  · next negative value count rest heq =>
    split at h
    · cases h
    · next hc =>
      split at h
      · cases h
        exact ⟨_, _, _, _, heq, Nat.not_lt.mp hc, rfl⟩
      · cases h

end ProxyNode.Numeral
